import Template.Markup.Basic
import Template.Markup.Parser

/-!
The grammar of expressions. From loose to tight: ternary, `||`, `&&`, equality, relation, sum,
product, operators in front, and operands with their properties, calls and indexes. Each definition
takes the parser for the expressions inside its brackets.
-/

namespace Template.Markup.Grammar

open Template.Markup.Parser

def identifier : Parser String :=
  labelled .identifier <| select fun
    | .ident name => some name
    | _ => none

def reference : Parser Primary :=
  labelled .reference do
    let ((name, quiet), span) ← spanned <| select fun
      | .reference name quiet => some (name, quiet)
      | _ => none
    return .reference name quiet span

def property : Parser Suffix := do
  let (name, span) ← spanned do
    symbol .dot
    identifier
  return .property name span

def call (expr : Parser Expr) : Parser Suffix := do
  let (arguments, span) ← spanned <| parenthesized <| items true (symbol .comma) expr
  return .call arguments span

def index (expr : Parser Expr) : Parser Suffix := do
  let (key, span) ← spanned <| between .openBracket .closeBracket expr
  return .index key span

def suffix (expr : Parser Expr) : Parser Suffix :=
  choice [property, call expr, index expr]

/-- A primary with its suffixes; one without any stands for itself. -/
def withSuffixes (primary : Primary) (suffixes : List Suffix) (span : Span) : Expr :=
  match suffixes with
  | [] => .primary primary
  | _ :: _ => .applied primary suffixes span

/-- What stands in the braces of a formal reference: a name and its suffixes. -/
def formalBody (expr : Parser Expr) : Parser Expr := do
  let ((primary, suffixes), span) ← spanned do
    let (name, span) ← spanned identifier
    return (Primary.reference name false span, ← many (suffix expr))
  return withSuffixes primary suffixes span

/-- A formal reference: whether it is quiet, its expression and its span. -/
def formal (expr : Parser Expr) : Parser ((Bool × Expr) × Span) :=
  spanned do
    let quiet ← select fun
      | .formal quiet => some quiet
      | _ => none
    let inner ← formalBody expr
    symbol .closeBrace
    return (quiet, inner)

def literal : Parser Primary := do
  let (value, span) ← spanned <| select fun
    | .str raw => some (Literal.str raw)
    | .number raw => some (Literal.number raw)
    | .reserved .yes => some (Literal.bool true)
    | .reserved .no => some (Literal.bool false)
    | .reserved .null => some Literal.null
    | _ => none
  return .literal value span

def group (expr : Parser Expr) : Parser Primary := do
  let (inner, span) ← spanned <| parenthesized expr
  return .group inner span

def range (expr : Parser Expr) : Parser Primary := do
  let ((first, last), span) ← spanned <| between .openBracket .closeBracket do
    let first ← expr
    symbol .dots
    return (first, ← expr)
  return .range first last span

def list (expr : Parser Expr) : Parser Primary := do
  let (elements, span) ← spanned <| between .openBracket .closeBracket <|
    items true (symbol .comma) expr
  return .list elements span

def mapKey : Parser MapKey :=
  labelled .mapKey <| select fun
    | .str raw => some (MapKey.str raw)
    | .ident name => some (MapKey.ident name)
    | _ => none

def mapEntry (expr : Parser Expr) : Parser (MapKey × Expr) := do
  let key ← mapKey
  symbol .colon
  return (key, ← expr)

def map (expr : Parser Expr) : Parser Primary := do
  let (entries, span) ← spanned <| between .openBrace .closeBrace <|
    items true (symbol .comma) (mapEntry expr)
  return .map entries span

def formalPrimary (expr : Parser Expr) : Parser Primary := do
  let ((quiet, inner), span) ← formal expr
  return .formal inner quiet span

def primary (expr : Parser Expr) : Parser Primary :=
  labelled .expression <|
    choice [literal, reference, formalPrimary expr, group expr, range expr, list expr, map expr]

def operand (expr : Parser Expr) : Parser Expr := do
  let ((first, suffixes), span) ← spanned do
    let first ← primary expr
    return (first, ← many (suffix expr))
  return withSuffixes first suffixes span

def unaryOp : Parser UnaryOp :=
  select fun
    | .symbol .bang => some .not
    | .symbol .minus => some .negate
    | .symbol .plus => some .plus
    | _ => none

def unary (expr : Parser Expr) : Parser Expr := do
  let ((operators, inner), span) ← spanned do
    let operators ← many unaryOp
    return (operators, ← operand expr)
  match operators with
  | [] => return inner
  | _ :: _ => return .unary operators inner span

/-- One level of operators: operands with operators between them. -/
def chain (operators : Parser BinaryOp) (inner : Parser Expr) : Parser Expr := do
  let ((first, rest), span) ← spanned do
    let first ← inner
    let rest ← many do
      let op ← operators
      return (op, ← inner)
    return (first, rest)
  match rest with
  | [] => return first
  | _ :: _ => return .chain first rest span

def multiplicativeOp : Token → Option BinaryOp
  | .symbol .star => some .multiply
  | .symbol .slash => some .divide
  | .symbol .percent => some .modulo
  | _ => none

def additiveOp : Token → Option BinaryOp
  | .symbol .plus => some .add
  | .symbol .minus => some .subtract
  | _ => none

def relationalOp : Token → Option BinaryOp
  | .symbol .less => some .less
  | .symbol .lessEqual => some .lessEqual
  | .symbol .greater => some .greater
  | .symbol .greaterEqual => some .greaterEqual
  | _ => none

def equalityOp : Token → Option BinaryOp
  | .symbol .equal => some .equal
  | .symbol .notEqual => some .notEqual
  | _ => none

def multiplicative (expr : Parser Expr) : Parser Expr :=
  chain (select multiplicativeOp) (unary expr)

def additive (expr : Parser Expr) : Parser Expr :=
  chain (select additiveOp) (multiplicative expr)

def relational (expr : Parser Expr) : Parser Expr :=
  chain (select relationalOp) (additive expr)

def equality (expr : Parser Expr) : Parser Expr :=
  chain (select equalityOp) (relational expr)

def conjunction (expr : Parser Expr) : Parser Expr :=
  chain (do symbol .conj; return .conj) (equality expr)

def disjunction (expr : Parser Expr) : Parser Expr :=
  chain (do symbol .disj; return .disj) (conjunction expr)

def cases (expr : Parser Expr) : Parser (Expr × Expr) := do
  symbol .question
  let thenCase ← expr
  symbol .colon
  return (thenCase, ← expr)

def ternary (expr : Parser Expr) : Parser Expr := do
  let ((condition, branches), span) ← spanned do
    let condition ← disjunction expr
    return (condition, ← optional (cases expr))
  match branches with
  | none => return condition
  | some (thenCase, elseCase) => return .ternary condition thenCase elseCase span

/-- Expressions nested at most `depth` deep. -/
def expressionWithin : Nat → Parser Expr
  | 0, c => fail c
  | depth + 1, c => ternary (fun c' => expressionWithin depth c') c

/-- Expressions. Every level of nesting takes a token, so the tokens that are left bound it. -/
def expression : Parser Expr := fun c => expressionWithin (c.rest.length + 1) c

end Template.Markup.Grammar
