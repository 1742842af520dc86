/-!
A double taken apart into sign, mantissa and exponent, and the operations that need its exact
value: rounding toward zero, whole numbers, and the remainder of a division.
-/

namespace Template.Number

inductive Parts where
  | nan
  | infinite (negative : Bool)
  /-- The value `mantissa * 2 ^ exponent`, negated if `negative`. -/
  | finite (negative : Bool) (mantissa : Nat) (exponent : Int)
deriving DecidableEq, Repr

/-- The fields of a double: one bit of sign, eleven of exponent, fifty-two of mantissa. -/
def Parts.ofBits (bits : Nat) : Parts :=
  let negative := bits / Nat.pow 2 63 % 2 == 1
  let exponent : Nat := bits / Nat.pow 2 52 % Nat.pow 2 11
  let fraction : Nat := bits % Nat.pow 2 52
  if exponent = Nat.pow 2 11 - 1 then
    if fraction = 0 then .infinite negative else .nan
  else if exponent = 0 then .finite negative fraction (-1074)
  else .finite negative (fraction + Nat.pow 2 52) ((exponent : Int) - 1075)

def parts (x : Float) : Parts := Parts.ofBits x.toBits.toNat

def negateIf (negative : Bool) (x : Float) : Float := if negative then -x else x

/-- `m * 2 ^ q` shifted to an exponent that is not larger; to a larger one, if no bit is lost. -/
def shiftTo (m : Nat) (q target : Int) : Nat :=
  if target ≤ q then m <<< (q - target).toNat else m >>> (target - q).toNat

/-- The double `m * 2 ^ q`, for a value that is one. -/
def ofMagnitude (m : Nat) (q : Int) : Float :=
  if m = 0 then 0
  else
    let exponent := max (q + Nat.log2 m - 52) (-1074)
    let mantissa := shiftTo m q exponent
    let bits :=
      if mantissa < Nat.pow 2 52 then mantissa
      else (exponent + 1075).toNat * Nat.pow 2 52 + (mantissa - Nat.pow 2 52)
    Float.ofBits bits.toUInt64

/-- The whole part of `m * 2 ^ q`. -/
def wholePart (m : Nat) (q : Int) : Nat := shiftTo m q 0

/-- Is `m * 2 ^ q` a whole number? -/
def isWhole (m : Nat) (q : Int) : Bool := 0 ≤ q || m % Nat.pow 2 (-q).toNat == 0

/-- The number without its fraction; the sign stays, also on zero. -/
def truncate (x : Float) : Float :=
  match parts x with
  | .finite negative m q =>
    if 0 ≤ q then x else negateIf negative (ofMagnitude (wholePart m q) 0)
  | _ => x

/-- The whole part of a finite number as an integer. -/
def toInt? (x : Float) : Option Int :=
  match parts x with
  | .finite negative m q =>
    let n : Int := wholePart m q
    some (if negative then -n else n)
  | _ => none

/-- The least and the greatest integer of 64 bits. -/
def minIndex : Int := -Nat.pow 2 63

def maxIndex : Int := Nat.pow 2 63 - 1

/-- The nearest integer of 64 bits. -/
def clampIndex (n : Int) : Int := max minIndex (min maxIndex n)

/-- The remainder of a division that rounds toward zero. It has the sign of the dividend. -/
def remainder (a b : Float) : Float :=
  match parts a, parts b with
  | .finite negative m q, .finite _ n r =>
    if n = 0 then 0 / 0
    else
      let low := min q r
      negateIf negative (ofMagnitude (shiftTo m q low % shiftTo n r low) low)
  | .finite .., .infinite _ => a
  | _, _ => 0 / 0

end Template.Number
