import Template.Value.Text

/-!
What a loop goes through: the items of a value as they are at the start, or the whole numbers from
one bound to another, which are not listed beforehand.
-/

namespace Template

inductive Items where
  | values (items : List Value)
  /-- The numbers from `next` to `last`, upwards or downwards, both included. -/
  | range (next last : Int)
deriving DecidableEq

namespace Items

/-- Lists have their items and maps their values, null has none, and any other value is its own
only item. -/
def ofValue (s : Store) : Value → Items
  | .null => values []
  | .list a => values (s.items a)
  | .map a => values (s.entries a).values
  | v => values [v]

/-- The range between two values. Its bounds have a whole part, or there is nothing in it. -/
def between (first last : Value) : Items :=
  match first.index?, last.index? with
  | some a, some b => range a b
  | _, _ => values []

/-- One step from `n` towards `last`. -/
def towards (n last : Int) : Int := if n < last then n + 1 else n - 1

/-- The next item and those behind it. -/
def next? : Items → Option (Value × Items)
  | values [] => none
  | values (v :: vs) => some (v, values vs)
  | range n last =>
    some (.ofInt n, if n = last then values [] else range (towards n last) last)

def isEmpty (items : Items) : Bool := items.next?.isNone

/-- The first items, at most `n` of them, and those behind. -/
def splitAt : Nat → Items → List Value × Items
  | 0, items => ([], items)
  | n + 1, items =>
    match items.next? with
    | none => ([], items)
    | some (v, rest) =>
      let (vs, rest) := splitAt n rest
      (v :: vs, rest)

/-- The whole numbers from `first` to `last`. -/
def integers (first last : Int) : List Int :=
  (List.range ((last - first).natAbs + 1)).map fun (k : Nat) =>
    if first ≤ last then first + k else first - k

/-- All items. -/
def toList : Items → List Value
  | values items => items
  | range first last => (integers first last).map .ofInt

end Items

end Template
