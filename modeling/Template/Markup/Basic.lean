import Template.Markup.Operator
import Template.Source.Span

/-!
Markup: a template as it is written. Operators of one level stand in flat chains, literals keep
their spelling, brackets are kept, and every part knows the bytes it covers.
-/

namespace Template.Markup

/-- A literal as written; a string keeps its quotes. -/
inductive Literal where
  | str (raw : String)
  | number (raw : String)
  | bool (value : Bool)
  | null
deriving DecidableEq, Repr

inductive MapKey where
  | str (raw : String)
  | ident (name : String)
deriving DecidableEq, Repr

mutual

inductive Expr where
  | ternary (condition thenCase elseCase : Expr) (span : Span)
  /-- Operands of one level and the operators between them. -/
  | chain (first : Expr) (rest : List (BinaryOp × Expr)) (span : Span)
  /-- Operators in front of an operand, outermost first. -/
  | unary (operators : List UnaryOp) (operand : Expr) (span : Span)
  | applied (primary : Primary) (suffixes : List Suffix) (span : Span)
  | primary (primary : Primary)

inductive Primary where
  | literal (value : Literal) (span : Span)
  | reference (name : String) (quiet : Bool) (span : Span)
  | formal (inner : Expr) (quiet : Bool) (span : Span)
  | group (inner : Expr) (span : Span)
  | list (items : List Expr) (span : Span)
  | range (first last : Expr) (span : Span)
  | map (entries : List (MapKey × Expr)) (span : Span)

inductive Suffix where
  | property (name : String) (span : Span)
  | call (arguments : List Expr) (span : Span)
  | index (key : Expr) (span : Span)

end

namespace Primary

def span : Primary → Span
  | literal _ s | reference _ _ s | formal _ _ s | group _ s | list _ s | range _ _ s | map _ s => s

end Primary

namespace Expr

def span : Expr → Span
  | ternary _ _ _ s | chain _ _ s | unary _ _ s | applied _ _ s => s
  | primary p => p.span

/-- Is the outermost part an operator? -/
def isOperation : Expr → Bool
  | ternary .. | chain .. | unary .. => true
  | applied .. | primary _ => false

end Expr

mutual

inductive Segment where
  /-- A run of text, line breaks and escaped directives. -/
  | text (content : String) (span : Span)
  | unparsed (body : String) (span : Span)
  | reference (expression : Expr) (quiet : Bool) (span : Span)
  | formal (expression : Expr) (quiet : Bool) (span : Span)
  | conditional (first : Arm) (rest : List Arm) (otherwise : Option Fallback) (close : Span)
      (span : Span)
  | assign (name : String) (path : List String) (value : Expr) (span : Span)
  | loop (header : Span) (item : String) (iterable : Expr) (body : List Segment)
      (otherwise : Option Fallback) (close : Span) (span : Span)
  | leave (span : Span)
  | stop (span : Span)
  | define (header : Span) (name : String) (parameters : List String) (body : List Segment)
      (close : Span) (span : Span)
  /-- A call without parentheses has no argument list. -/
  | macroCall (name : String) (arguments : Option (List Expr)) (span : Span)
  | evaluate (argument : Expr) (span : Span)
  | parse (argument : Expr) (span : Span)
  | embed (arguments : List Expr) (span : Span)

/-- A condition and the body that it guards. The header runs to the closing parenthesis. -/
inductive Arm where
  | mk (header : Span) (condition : Expr) (body : List Segment)

/-- The body for when nothing else applies. -/
inductive Fallback where
  | mk (header : Span) (body : List Segment)

end

namespace Segment

def span : Segment → Span
  | text _ s | unparsed _ s | reference _ _ s | formal _ _ s | conditional _ _ _ _ s
  | assign _ _ _ s | loop _ _ _ _ _ _ s | leave s | stop s | define _ _ _ _ _ s
  | macroCall _ _ s | evaluate _ s | parse _ s | embed _ s => s

end Segment

end Template.Markup
