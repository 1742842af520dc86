import Template.Number.Parts

/-!
The shortest decimal that reads back as a double: the fewest digits that stay inside the interval
of reals that round to it, and of those the digits nearest to it. An exact tie goes up.
-/

namespace Template.Number

/-- The decimal `digits * 10 ^ exponent`. -/
structure Decimal where
  digits : Nat
  exponent : Int
deriving DecidableEq, Repr

/-- How many decimal digits a number has; zero has none. -/
def digitCount (n : Nat) : Nat :=
  if n = 0 then 0 else digitCount (n / 10) + 1
termination_by n

/-- The exponent of the first digit of `num / den`, for positive numbers. -/
def leadingExponent (num den : Nat) : Int :=
  if den ≤ num then (digitCount (num / den) : Int) - 1
  else -(digitCount ((den - 1) / num) : Int)

/-- Four times the value and four times the ends of the interval that rounds to it, in units of
`2 ^ (q - 2)`. Below a power of two the doubles lie closer together. -/
structure Interval where
  low : Nat
  value : Nat
  high : Nat
  closed : Bool
deriving Repr

def interval (m : Nat) (q : Int) : Interval :=
  { low := if m = Nat.pow 2 52 ∧ q ≠ -1074 then 4 * m - 1 else 4 * m - 2
    value := 4 * m
    high := 4 * m + 2
    closed := m % 2 == 0 }

/-- Is `n` inside the interval that is scaled up by `scale`? -/
def Interval.holds (i : Interval) (scale n : Nat) : Bool :=
  if i.closed then i.low * scale ≤ n && n ≤ i.high * scale
  else i.low * scale < n && n < i.high * scale

/-- The nearest decimal with exponent `e` inside the interval around `m * 2 ^ q`, if there is one:
one of the two neighbours of the value on the grid of that exponent. -/
def onGrid? (m : Nat) (q e : Int) : Option Nat :=
  let i := interval m q
  let scale := Nat.pow 2 (q - 2).toNat * Nat.pow 10 (-e).toNat
  let unit := Nat.pow 2 (2 - q).toNat * Nat.pow 10 e.toNat
  let below := i.value * scale / unit
  let above := below + 1
  let fitsBelow := i.holds scale (below * unit)
  let fitsAbove := i.holds scale (above * unit)
  if fitsBelow && fitsAbove then
    if above * unit - i.value * scale ≤ i.value * scale - below * unit then some above
    else some below
  else if fitsBelow then some below
  else if fitsAbove then some above
  else none

/-- The first grid, from coarse to fine, with a decimal inside the interval. -/
def firstOnGrid (m : Nat) (q : Int) : Nat → Int → Decimal
  | 0, e => ⟨(onGrid? m q e).getD 0, e⟩
  | fuel + 1, e =>
    match onGrid? m q e with
    | some digits => ⟨digits, e⟩
    | none => firstOnGrid m q fuel (e - 1)

/-- Seventeen digits always suffice. -/
def shortest (m : Nat) (q : Int) : Decimal :=
  firstOnGrid m q 17 (leadingExponent (m * Nat.pow 2 q.toNat) (Nat.pow 2 (-q).toNat))

end Template.Number
