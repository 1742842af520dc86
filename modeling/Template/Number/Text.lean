import Template.Number.Shortest

/-!
Numbers as text. Numbers are written positionally, without an exponent, with the shortest digits
that read back. Whole numbers have no point.
-/

namespace Template.Number

/-- The digits of a decimal in their places. -/
def Decimal.positional (d : Decimal) : List Char :=
  let digits := Nat.toDigits 10 d.digits
  if 0 ≤ d.exponent then digits ++ List.replicate d.exponent.toNat '0'
  else
    let places := (-d.exponent).toNat
    let padded := List.replicate (places + 1 - digits.length) '0' ++ digits
    let whole := padded.take (padded.length - places)
    let fraction := padded.drop (padded.length - places)
    whole ++ '.' :: fraction

/-- A decimal without zeros at its end. -/
def Decimal.trimmed (fuel : Nat) (d : Decimal) : Decimal :=
  match fuel with
  | 0 => d
  | fuel + 1 =>
    if d.digits ≠ 0 ∧ d.digits % 10 = 0 then Decimal.trimmed fuel ⟨d.digits / 10, d.exponent + 1⟩
    else d

def magnitudeText (m : Nat) (q : Int) : List Char :=
  if m = 0 then ['0'] else ((shortest m q).trimmed 17).positional

/-- The exact text of a number; zero keeps its sign. -/
def exactText (x : Float) : String :=
  match parts x with
  | .nan => "NaN"
  | .infinite false => "inf"
  | .infinite true => "-inf"
  | .finite negative m q =>
    String.ofList ((if negative then ['-'] else []) ++ magnitudeText m q)

/-- From here on whole numbers are written by their shortest digits. -/
def wholeLimit : Nat := Nat.pow 10 17

/-- What a template prints for a number: whole numbers digit by digit, and zero without a sign. -/
def printed (x : Float) : String :=
  match parts x with
  | .nan => "NaN"
  | .infinite false => "Infinity"
  | .infinite true => "-Infinity"
  | .finite negative m q =>
    if isWhole m q && wholePart m q < wholeLimit then
      let n := wholePart m q
      toString (if negative then -(n : Int) else n)
    else exactText x

def digitsValue (ds : List Char) : Nat := ds.foldl (fun n d => n * 10 + (d.toNat - 48)) 0

/-- Exponents beyond this bound make every number with a digit infinite or zero. -/
def exponentBound : Int := 400

/-- The double nearest to `digits * 10 ^ exponent`. -/
def ofDecimal (digits : Nat) (exponent : Int) : Float :=
  if digits = 0 then 0
  else if exponent + digitCount digits > exponentBound then 1 / 0
  else if exponent + digitCount digits < -exponentBound then 0
  else Float.ofScientific digits (exponent < 0) exponent.natAbs

/-- The parts of a number in decimal notation. -/
structure Numeral where
  negative : Bool
  whole : List Char
  fraction : List Char
  exponent : Int
deriving Repr

def Numeral.value (n : Numeral) : Float :=
  let digits := digitsValue (n.whole ++ n.fraction)
  negateIf n.negative (ofDecimal digits (n.exponent - n.fraction.length))

def readSign : List Char → Bool × List Char
  | '-' :: cs => (true, cs)
  | '+' :: cs => (false, cs)
  | cs => (false, cs)

/-- An exponent to the end of the text. -/
def readExponent? : List Char → Option Int
  | [] => some 0
  | c :: cs =>
    if c == 'e' || c == 'E' then
      let (negative, digits) := readSign cs
      if digits.isEmpty || !digits.all Char.isDigit then none
      else
        let n : Int := digitsValue digits
        some (if negative then -n else n)
    else none

/-- A number in decimal notation: a sign, digits with a point before, among or behind them, and an
exponent, of which only the digits are required. -/
def readNumeral? (cs : List Char) : Option Numeral :=
  let (negative, cs) := readSign cs
  let whole := cs.takeWhile Char.isDigit
  let rest := cs.drop whole.length
  let (fraction, rest) := match rest with
    | '.' :: rest => (rest.takeWhile Char.isDigit, rest.dropWhile Char.isDigit)
    | _ => ([], rest)
  if whole.isEmpty && fraction.isEmpty then none
  else (readExponent? rest).map fun exponent => ⟨negative, whole, fraction, exponent⟩

/-- The number that a text in decimal notation stands for. -/
def ofText? (cs : List Char) : Option Float := (readNumeral? cs).map Numeral.value

end Template.Number
