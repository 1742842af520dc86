import Template.Markup.Operator
import Template.Value.Equality

/-!
The operators on values. Arithmetic on values that are no numbers gives null, and a division by
zero gives zero.
-/

namespace Template.Value

def arithmetic (op : Float → Float → Float) (a b : Value) : Value :=
  match a.number?, b.number? with
  | some x, some y => .number (op x y)
  | _, _ => .null

def isText : Value → Bool
  | .text _ => true
  | _ => false

/-- Texts are joined; anything else is added. -/
def add (hosts : Hosts) (s : Store) (a b : Value) : Value :=
  if a.isText || b.isText then .text (a.display hosts s ++ b.display hosts s)
  else arithmetic (· + ·) a b

def divide (x y : Float) : Float := if y == 0 then 0 else x / y

def modulo (x y : Float) : Float := if y == 0 then 0 else Number.remainder x y

def relation (test : Ordering → Bool) (a b : Value) : Value :=
  .bool ((compare? a b).any test)

def binary (hosts : Hosts) (s : Store) (op : BinaryOp) (a b : Value) : Value :=
  match op with
  | .disj => .bool (a.isTruthy s || b.isTruthy s)
  | .conj => .bool (a.isTruthy s && b.isTruthy s)
  | .equal => .bool (looseEq hosts s a b)
  | .notEqual => .bool (!looseEq hosts s a b)
  | .less => relation Ordering.isLT a b
  | .lessEqual => relation Ordering.isLE a b
  | .greater => relation Ordering.isGT a b
  | .greaterEqual => relation Ordering.isGE a b
  | .add => add hosts s a b
  | .subtract => arithmetic (· - ·) a b
  | .multiply => arithmetic (· * ·) a b
  | .divide => arithmetic divide a b
  | .modulo => arithmetic modulo a b

def unary (s : Store) (op : UnaryOp) (v : Value) : Value :=
  match op with
  | .not => .bool (!v.isTruthy s)
  | .negate => (v.number?.map fun x => Value.number (-x)).getD .null
  | .plus => (v.number?.map Value.number).getD .null

end Template.Value
