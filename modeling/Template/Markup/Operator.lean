/-!
The operators of expressions.
-/

namespace Template

inductive BinaryOp where
  | disj | conj
  | equal | notEqual
  | less | lessEqual | greater | greaterEqual
  | add | subtract
  | multiply | divide | modulo
deriving DecidableEq, Repr

inductive UnaryOp where
  | not | negate | plus
deriving DecidableEq, Repr

namespace BinaryOp

def symbol : BinaryOp → String
  | disj => "||"
  | conj => "&&"
  | equal => "=="
  | notEqual => "!="
  | less => "<"
  | lessEqual => "<="
  | greater => ">"
  | greaterEqual => ">="
  | add => "+"
  | subtract => "-"
  | multiply => "*"
  | divide => "/"
  | modulo => "%"

def all : List BinaryOp :=
  [disj, conj, equal, notEqual, less, lessEqual, greater, greaterEqual, add, subtract, multiply,
    divide, modulo]

def ofSymbol? (s : String) : Option BinaryOp := all.find? (·.symbol == s)

end BinaryOp

end Template
