import Template.Markup.Operator
import Template.Source.Span

/-!
The tree of a compiled template. Operators are nested by their level, suffixes are nested around
what they apply to, literals are values, and every part knows its place in the source.
-/

namespace Template.Tree

inductive Literal where
  | null
  | bool (value : Bool)
  | number (value : Float)
  | text (value : String)
deriving DecidableEq

mutual

inductive Expr where
  | literal (value : Literal) (place : Region)
  /-- A string in double quotes with references or directives inside. -/
  | interpolated (nodes : List Node) (place : Region)
  | reference (name : String) (quiet : Bool) (place : Region)
  | member (object : Expr) (property : String) (place : Region)
  | call (callee : Expr) (arguments : List Expr) (place : Region)
  | index (container key : Expr) (place : Region)
  | map (entries : List (String × Expr)) (place : Region)
  | list (elements : List Expr) (place : Region)
  | range (first last : Expr) (place : Region)
  | binary (op : BinaryOp) (left right : Expr) (place : Region)
  | unary (op : UnaryOp) (operand : Expr) (place : Region)
  | ternary (condition thenCase elseCase : Expr) (place : Region)

inductive Node where
  | text (content : String) (place : Region)
  /-- The source text is printed if the value is null and the reference is not quiet. -/
  | interpolation (expression : Expr) (quiet : Bool) (source : String) (place : Region)
  | conditional (branches : List Branch) (otherwise : Option (List Node)) (place : Region)
  | assign (name : String) (path : List String) (value : Expr) (place : Region)
  | loop (item : String) (iterable : Expr) (body : List Node) (otherwise : Option (List Node))
      (place : Region)
  | leave (place : Region)
  | stop (place : Region)
  | define (name : String) (parameters : List String) (body : List Node) (place : Region)
  /-- The source text is printed if no definition has the name. -/
  | macroCall (name : String) (arguments : List Expr) (source : String) (place : Region)
  | evaluate (argument : Expr) (place : Region)
  | parse (argument : Expr) (place : Region)
  | embed (arguments : List Expr) (place : Region)

inductive Branch where
  | mk (condition : Expr) (body : List Node)

end

namespace Expr

def place : Expr → Region
  | literal _ p | interpolated _ p | reference _ _ p | member _ _ p | call _ _ p | index _ _ p
  | map _ p | list _ p | range _ _ p | binary _ _ _ p | unary _ _ p | ternary _ _ _ p => p

end Expr

namespace Node

def place : Node → Region
  | text _ p | interpolation _ _ _ p | conditional _ _ p | assign _ _ _ p | loop _ _ _ _ p
  | leave p | stop p | define _ _ _ p | macroCall _ _ _ p | evaluate _ p | parse _ p
  | embed _ p => p

def isText : Node → Bool
  | text .. => true
  | _ => false

end Node

end Template.Tree

namespace Template

/-- A compiled template. Its expression is there if the whole source is also one expression. -/
structure Document where
  nodes : List Tree.Node
  expression : Option Tree.Expr

end Template
