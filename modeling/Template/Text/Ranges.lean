/-!
Sets of characters given by ranges of code points, and maps that shift whole ranges. Long tables of
ranges are written as text.
-/

namespace Template

/-- Every `stride`-th code point from `first` to `last`. -/
structure CodeRange where
  first : Nat
  last : Nat
  stride : Nat
deriving Repr

/-- Moves the code points of `range` by `distance`. -/
structure CodeShift where
  range : CodeRange
  distance : Int

namespace CodeRange

def contains (r : CodeRange) (code : Nat) : Bool :=
  r.first ≤ code && code ≤ r.last && (code - r.first) % r.stride == 0

/-- Is the character in one of the ranges? -/
def hold (ranges : List CodeRange) (c : Char) : Bool :=
  ranges.any (·.contains c.toNat)

/-- The code points of a range, one by one. -/
def codes (r : CodeRange) : List Nat :=
  (List.range ((r.last - r.first) / r.stride + 1)).map fun n => r.first + n * r.stride

/-- The range that one, two or three numbers stand for, the last number first. -/
def ofNumbers : List Nat → CodeRange
  | [stride, last, first] => ⟨first, last, stride⟩
  | [last, first] => ⟨first, last, 1⟩
  | code :: _ => ⟨code, code, 1⟩
  | [] => ⟨0, 0, 1⟩

def digitValue (c : Char) : Nat := if c.isDigit then c.toNat - 48 else c.toNat - 87

/-- Reads on in a table, behind the digits of `number` and behind other numbers of the range. -/
def readTable : List Char → (number : Option Nat) → List Nat → List CodeRange
  | [], number, numbers => (number.map fun n => ofNumbers (n :: numbers)).toList
  | c :: cs, number, numbers =>
    if c == ' ' || c == '\n' then
      match number with
      | some n => ofNumbers (n :: numbers) :: readTable cs none []
      | none => readTable cs none []
    else if c == '-' || c == '/' then readTable cs none (number.toList ++ numbers)
    else readTable cs (some (number.getD 0 * 16 + digitValue c)) numbers

/-- The ranges of a table, which has blanks or line breaks between them. A range is a code point in
hexadecimal digits, as in `aa`, or two of them, as in `41-5a`, perhaps with a stride, as in
`100-136/2`. -/
def ofTable (table : String) : List CodeRange := readTable table.toList none []

end CodeRange

namespace CodeShift

/-- The image of `c` under the first shift whose range holds it. -/
def image? (shifts : List CodeShift) (c : Char) : Option Char :=
  (shifts.find? (·.range.contains c.toNat)).map
    fun s => Char.ofNat ((c.toNat : Int) + s.distance).toNat

end CodeShift

end Template
