import Template.Settings.Basic
import Template.Settings.Toml.Reader

/-!
Scalars of a settings text: quoted texts in four notations, whole numbers in four bases, reals, and
dates and times, which stand for their text.
-/

namespace Template.Toml

/-! ### Texts -/

def hexValue? (c : Char) : Option Nat :=
  if c.isDigit then some (c.toNat - 48)
  else if 'a' ≤ c && c ≤ 'f' then some (c.toNat - 87)
  else if 'A' ≤ c && c ≤ 'F' then some (c.toNat - 55)
  else none

/-- The character whose number has that many hexadecimal digits. -/
def codePoint : (digits value : Nat) → Reader Char
  | 0, value => if value.isValidChar then return Char.ofNat value else failure
  | digits + 1, value => do
    match hexValue? (← Reader.take) with
    | some d => codePoint digits (value * 16 + d)
    | none => failure

/-- What stands behind a backslash. -/
def escape : Reader Char := do
  match ← Reader.take with
  | 'b' => return '\x08'
  | 't' => return '\t'
  | 'n' => return '\n'
  | 'f' => return '\x0c'
  | 'r' => return '\r'
  | '"' => return '"'
  | '\\' => return '\\'
  | 'u' => codePoint 4 0
  | 'U' => codePoint 8 0
  | _ => failure

/-- A text on one line, up to its closing quote. Only double quotes know escapes. -/
def lineText (quote : Char) : (fuel : Nat) → Reader (List Char)
  | 0 => failure
  | fuel + 1 => do
    let c ← Reader.take
    if c = quote then return []
    else if c = '\\' && quote = '"' then
      let d ← escape
      return d :: (← lineText quote fuel)
    else if Reader.isPlain c then return c :: (← lineText quote fuel)
    else failure

/-- Behind a backslash: blanks to the end of the line, and all space on the lines below. -/
def continuation : Reader Bool := do
  let cs ← get
  Reader.blanks
  if ← Reader.acceptNewline then
    Reader.emptyLines ((← Reader.remaining) + 1)
    return true
  else
    set cs
    return false

/-- A text over several lines, up to its three closing quotes. Up to two quotes in front of these
belong to the text. -/
def blockText (quote : Char) : (fuel : Nat) → Reader (List Char)
  | 0 => failure
  | fuel + 1 => do
    if ← Reader.accept [quote, quote, quote] then
      if ← Reader.accept [quote, quote] then return [quote, quote]
      else if ← Reader.acceptChar quote then return [quote]
      else return []
    else if ← Reader.acceptNewline then return '\n' :: (← blockText quote fuel)
    else
      let c ← Reader.take
      if c = '\\' && quote = '"' then
        if ← continuation then blockText quote fuel
        else
          let d ← escape
          return d :: (← blockText quote fuel)
      else if Reader.isPlain c then return c :: (← blockText quote fuel)
      else failure

def lineString (quote : Char) : Reader String := do
  Reader.expectChar quote
  return String.ofList (← lineText quote (← Reader.remaining))

def string (quote : Char) : Reader String := do
  if ← Reader.accept [quote, quote, quote] then
    let _ ← Reader.acceptNewline
    return String.ofList (← blockText quote (← Reader.remaining))
  else lineString quote

/-! ### Numbers -/

/-- Digits with single underscores between them. -/
def digits? (isDigit : Char → Bool) : List Char → Option (List Char)
  | [] => none
  | [c] => if isDigit c then some [c] else none
  | c :: d :: rest =>
    if !isDigit c then none
    else if d = '_' then (digits? isDigit rest).map (c :: ·)
    else (digits? isDigit (d :: rest)).map (c :: ·)

def baseValue (base : Nat) (ds : List Char) : Nat :=
  ds.foldl (fun n d => n * base + (hexValue? d).getD 0) 0

def isBelow (base : Nat) (c : Char) : Bool := (hexValue? c).any (· < base)

/-- Decimal digits without a zero in front of others. -/
def decimal? (cs : List Char) : Option (List Char) :=
  match digits? Char.isDigit cs with
  | some ('0' :: _ :: _) => none
  | ds => ds

def inRange? (n : Int) : Option Setting :=
  if Number.minIndex ≤ n && n ≤ Number.maxIndex then some (.integer n) else none

def integer? (cs : List Char) : Option Setting :=
  let based (base : Nat) (ds : List Char) : Option Setting :=
    (digits? (isBelow base) ds).bind fun ds => inRange? (baseValue base ds)
  match cs with
  | '0' :: 'x' :: ds => based 16 ds
  | '0' :: 'o' :: ds => based 8 ds
  | '0' :: 'b' :: ds => based 2 ds
  | cs =>
    let (negative, cs) := Number.readSign cs
    (decimal? cs).bind fun ds =>
      let n : Int := baseValue 10 ds
      inRange? (if negative then -n else n)

/-- A real has a fraction, an exponent or both. One above all finite reals is refused. -/
def real? (cs : List Char) : Option Setting :=
  let (negative, body) := Number.readSign cs
  if body = "inf".toList then some (.real (Number.negateIf negative (1 / 0)))
  else if body = "nan".toList then some (.real (Number.negateIf negative (0 / 0)))
  else
    let isMark (c : Char) : Bool := c == 'e' || c == 'E'
    let mantissa := body.takeWhile (!isMark ·)
    let power := body.drop mantissa.length
    let whole := mantissa.takeWhile (· != '.')
    let fraction := mantissa.drop whole.length
    if fraction.isEmpty && power.isEmpty then none
    else do
      let whole ← decimal? whole
      let fraction ←
        match fraction with
        | [] => pure []
        | _ :: ds => (digits? Char.isDigit ds).map ('.' :: ·)
      let power ←
        match power with
        | [] => pure []
        | _ :: ds =>
          let (down, ds) := Number.readSign ds
          (digits? Char.isDigit ds).map fun ds => if down then 'e' :: '-' :: ds else 'e' :: ds
      let x ← Number.ofText? (whole ++ fraction ++ power)
      let x := Number.negateIf negative x
      if x == 1 / 0 then none else some (.real x)

/-! ### Dates and times -/

def number? (low high : Nat) (ds : List Char) : Option Nat :=
  if ds.all Char.isDigit then
    let n := Number.digitsValue ds
    if low ≤ n && n ≤ high then some n else none
  else none

def daysIn (year month : Nat) : Nat :=
  if month = 2 then
    if year % 4 = 0 && (year % 100 != 0 || year % 400 = 0) then 29 else 28
  else if month ∈ [4, 6, 9, 11] then 30
  else 31

/-- A date in front, and what follows. -/
def date? : List Char → Option (List Char × List Char)
  | y₁ :: y₂ :: y₃ :: y₄ :: '-' :: m₁ :: m₂ :: '-' :: d₁ :: d₂ :: rest => do
    let year ← number? 0 9999 [y₁, y₂, y₃, y₄]
    let month ← number? 1 12 [m₁, m₂]
    let _ ← number? 1 (daysIn year month) [d₁, d₂]
    return ([y₁, y₂, y₃, y₄, '-', m₁, m₂, '-', d₁, d₂], rest)
  | _ => none

/-- Digits of a second behind the point: at most nine, and no zeros at the end. -/
def fraction (ds : List Char) : List Char :=
  match ((ds.take 9).reverse.dropWhile (· == '0')).reverse with
  | [] => []
  | ds => '.' :: ds

/-- A time in front, and what follows. -/
def time? : List Char → Option (List Char × List Char)
  | h₁ :: h₂ :: ':' :: m₁ :: m₂ :: ':' :: s₁ :: s₂ :: rest => do
    let _ ← number? 0 23 [h₁, h₂]
    let _ ← number? 0 59 [m₁, m₂]
    let _ ← number? 0 60 [s₁, s₂]
    let clock := [h₁, h₂, ':', m₁, m₂, ':', s₁, s₂]
    match rest with
    | '.' :: rest =>
      let ds := rest.takeWhile Char.isDigit
      if ds.isEmpty then none else some (clock ++ fraction ds, rest.drop ds.length)
    | rest => some (clock, rest)
  | _ => none

/-- The distance from the common time, to the end of the text. -/
def offset? : List Char → Option (List Char)
  | [] => some []
  | ['Z'] | ['z'] => some ['Z']
  | [sign, h₁, h₂, ':', m₁, m₂] => do
    let hours ← number? 0 23 [h₁, h₂]
    let minutes ← number? 0 59 [m₁, m₂]
    if sign = '+' || (sign = '-' && hours = 0 && minutes = 0) then
      return ['+', h₁, h₂, ':', m₁, m₂]
    else if sign = '-' then return ['-', h₁, h₂, ':', m₁, m₂]
    else none
  | _ => none

def moment? (cs : List Char) : Option Setting :=
  let result : Option (List Char) :=
    match date? cs with
    | some (date, []) => some date
    | some (date, mark :: rest) => do
      let (time, rest) ← time? rest
      let offset ← offset? rest
      if mark ∈ ['T', 't', ' '] then some (date ++ ['T'] ++ time ++ offset) else none
    | none =>
      match time? cs with
      | some (time, []) => some time
      | _ => none
  result.map fun cs => .text (String.ofList cs)

/-! ### Words -/

def isWordChar (c : Char) : Bool := c.isAlphanum || c ∈ ['_', '+', '-', '.', ':']

/-- The characters of a number, a date or a word. A blank between a date and a time is one. -/
def word : Reader (List Char) := do
  let front ← Reader.takeWhile isWordChar
  match ← get with
  | ' ' :: a :: b :: ':' :: rest =>
    if (date? front).any (·.2.isEmpty) && a.isDigit && b.isDigit then
      set (a :: b :: ':' :: rest)
      return front ++ ' ' :: (← Reader.takeWhile isWordChar)
    else return front
  | _ => return front

/-- A scalar without quotes. -/
def bare : Reader Setting := do
  let cs ← word
  if cs = "true".toList then return .flag true
  else if cs = "false".toList then return .flag false
  else
    match integer? cs <|> real? cs <|> moment? cs with
    | some setting => return setting
    | none => failure

end Template.Toml
