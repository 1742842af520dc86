import Template.Value.Text

/-!
When two values are equal, and which of two values is less. Comparing lists and maps that contain
themselves may have no end.
-/

namespace Template.Value

/-- Two values of different kinds are compared as numbers if both are numbers, else as text. There is
no verdict if one of them has no end. -/
def looselyCompared? (hosts : Hosts) (s : Store) (a b : Value) : Option Bool :=
  match a.number?, b.number? with
  | some x, some y => some (x == y)
  | _, _ =>
    if (a.printFault? s none).isSome || (b.printFault? s none).isSome then none
    else some (a.display hosts s == b.display hosts s)

/-- Compares two values, and what is in lists and maps by `inner`, up to the first two that differ
or for which there is no verdict. -/
def comparedBy (hosts : Hosts) (s : Store) (inner : Value → Value → Option Bool) :
    Value → Value → Option Bool
  | .null, .null => some true
  | .null, _ | _, .null => some false
  | .text a, .text b => some (a == b)
  | .bool a, .bool b => some (a == b)
  | .object a, .object b => some (a == b)
  | .list a, .list b =>
    if a = b then some true
    else if (s.items a).length = (s.items b).length then
      ((s.items a).zip (s.items b)).allM fun (x, y) => inner x y
    else some false
  | .map a, .map b =>
    if a = b then some true
    else if (s.entries a).length = (s.entries b).length then
      (s.entries a).allM fun (key, x) =>
        match (s.entries b).get? key with
        | some y => inner x y
        | none => some false
    else some false
  | a, b => looselyCompared? hosts s a b

/-- Compares values whose lists and maps are nested no deeper than `depth` before they differ. -/
def comparedWithin? (hosts : Hosts) (s : Store) : (depth : Nat) → Value → Value → Option Bool
  | 0 => comparedBy hosts s fun _ _ => none
  | depth + 1 => comparedBy hosts s (comparedWithin? hosts s depth)

/-- Compares two values. There is no verdict if that has no end. -/
def compared? (hosts : Hosts) (s : Store) (a b : Value) : Option Bool :=
  comparedWithin? hosts s s.pairBound a b

/-- Loose equality of values whose lists and maps are nested no deeper than `depth`. -/
def equalWithin (hosts : Hosts) (s : Store) (depth : Nat) (a b : Value) : Bool :=
  comparedWithin? hosts s depth a b == some true

/-- Equality as templates test it. -/
def looseEq (hosts : Hosts) (s : Store) (a b : Value) : Bool := a.compared? hosts s b == some true

/-- Equality of content and kind, for values nested less than `depth` deep. -/
def sameWithin (s : Store) : Nat → Value → Value → Bool
  | _, .null, .null => true
  | _, .bool a, .bool b => a == b
  | _, .number a, .number b => a == b
  | _, .text a, .text b => a == b
  | _, .object a, .object b => a == b
  | depth + 1, .list a, .list b =>
    (s.items a).length == (s.items b).length &&
      ((s.items a).zip (s.items b)).all fun (x, y) => sameWithin s depth x y
  | depth + 1, .map a, .map b =>
    (s.entries a).length == (s.entries b).length &&
      (s.entries a).all fun (key, x) =>
        match (s.entries b).get? key with
        | some y => sameWithin s depth x y
        | none => false
  | _, _, _ => false

/-- Do the values have the same kinds and contents? -/
def same (s : Store) (a b : Value) : Bool := sameWithin s s.depthBound a b

def compareNumbers (x y : Float) : Option Ordering :=
  if x < y then some .lt else if x == y then some .eq else if x > y then some .gt else none

def compareTexts (a b : String) : Ordering :=
  if a < b then .lt else if a == b then .eq else .gt

/-- The order of two values: by number if both are numbers, by characters if both are texts. Other
values have no order. -/
def compare? (a b : Value) : Option Ordering :=
  match a.number?, b.number? with
  | some x, some y => compareNumbers x y
  | _, _ =>
    match a, b with
    | .text x, .text y => some (compareTexts x y)
    | _, _ => none

end Template.Value
