import Template.Pattern.Basic
import Template.Pattern.Class
import Template.Pattern.Place
import Template.Text.CaseFold

/-!
What stands behind a backslash: characters by their code, classes by name, assertions, and
characters that would mean something else without it.
-/

namespace Template.Pattern

open Reader

/-- What an escape stands for. -/
inductive Escape where
  | char (c : Char)
  | set (s : CharSet)
  | look (assertion : Assertion)

/-- A set with all characters that differ in case only, if the flags want that. -/
def withCase (flags : Flags) (s : CharSet) : CharSet :=
  if !flags.anyCase then s else if flags.unicode then s.anyCase else s.anyAsciiCase

/-- A set as it is meant: regardless of case first, then turned over. Without Unicode it must not
hold characters of more than one byte. -/
def closeSet (flags : Flags) (negated : Bool) (s : CharSet) : Reader CharSet := do
  let s := withCase flags s
  let s := if negated then s.complement else s
  if flags.unicode || s.isAscii then return s else failure

def hexDigit? (c : Char) : Option Nat :=
  if c.isDigit then some (c.toNat - 48)
  else if 'a' ≤ c && c ≤ 'f' then some (c.toNat - 87)
  else if 'A' ≤ c && c ≤ 'F' then some (c.toNat - 55)
  else none

def hexValue? (cs : List Char) : Option Nat :=
  if cs.isEmpty then none else cs.foldlM (fun n c => (hexDigit? c).map (n * 16 + ·)) 0

def charOfCode? (n : Nat) : Option Char := if n.isValidChar then some (Char.ofNat n) else none

def demandChar (digits : List Char) : Reader Char :=
  match (hexValue? digits).bind charOfCode? with
  | some c => return c
  | none => failure

def stepTimes : Nat → Reader (List Char)
  | 0 => return []
  | n + 1 => do
    let c ← step
    return c :: (← stepTimes n)

/-- A character by its code: in braces, or with as many digits as the letter asks for. Without
Unicode two digits are a byte, which is a character only in ASCII. -/
def readCode (width : Nat) : Reader Char := do
  skipSpace
  if (← peek) == some '\x7b' then
    let _ ← step
    let digits ← stepWhile (· != '\x7d')
    if (← step) != '\x7d' then failure
    demandChar digits
  else
    let c ← demandChar (← stepTimes width)
    if width == 2 && !(← flags).unicode && 127 < c.toNat then failure
    return c

/-- A class by name, behind `\p` or `\P`. -/
def readProperty (negated : Bool) : Reader CharSet := do
  skipSpace
  let name ← do
    if (← peek) == some '\x7b' then
      let _ ← step
      let name ← stepWhile (· != '\x7d')
      demand '\x7d'
      pure name
    else
      let c ← step
      if c == '\\' then failure
      pure [c]
  let flags ← flags
  match propertyClass? name with
  | some (s, turned) => if flags.unicode then closeSet flags (negated != turned) s else failure
  | none => failure

/-- The short classes: digits, white space and characters of words. -/
def shortClass (flags : Flags) (name : Char) : CharSet :=
  if flags.unicode then
    if name == 'd' then Property.categorySet [.decimalNumber]
    else if name == 's' then Property.whiteSpace.set
    else words
  else
    if name == 'd' then .ofTable "30-39" else if name == 's' then .ofTable "9-d 20" else asciiWords

def readShortClass (name : Char) (negated : Bool) : Reader CharSet := do
  let flags ← flags
  let s := shortClass flags name
  let s := if negated then s.complement else s
  if flags.unicode || s.isAscii then return s else failure

def isPlaceNameChar (c : Char) : Bool := c.isAlpha || c == '-'

/-- The kinds of word boundary that are written out in braces. Other braces are left to be read as
counts. -/
def readWordPlace : Reader WordPlace := do
  let before ← get
  if (← peek) != some '\x7b' then return .boundary
  let _ ← step
  match ← peek with
  | none => failure
  | some c =>
    if !isPlaceNameChar c then
      set before
      return .boundary
    let name ← stepWhile isPlaceNameChar
    demand '\x7d'
    match String.ofList name with
    | "start" => return .start
    | "end" => return .stop
    | "start-half" => return .startHalf
    | "end-half" => return .stopHalf
    | _ => failure

def isMeta (c : Char) : Bool :=
  ['\\', '.', '+', '*', '?', '(', ')', '|', '[', ']', '\x7b', '\x7d', '^', '$', '#', '&', '-',
    '~'].contains c

/-- Characters that an escape leaves as they are: all of ASCII but letters, digits and angles. -/
def isEscapable (c : Char) : Bool :=
  isMeta c || (c.toNat < 128 && !c.isAlphanum && c != '<' && c != '>')

/-- What stands behind a backslash. -/
def readEscape : Reader Escape := do
  let c ← next
  let word (place : WordPlace) : Reader Escape := return .look (.word place !(← flags).unicode)
  match c with
  | 'x' => return .char (← readCode 2)
  | 'u' => return .char (← readCode 4)
  | 'U' => return .char (← readCode 8)
  | 'p' => return .set (← readProperty false)
  | 'P' => return .set (← readProperty true)
  | 'd' | 's' | 'w' => return .set (← readShortClass c false)
  | 'D' => return .set (← readShortClass 'd' true)
  | 'S' => return .set (← readShortClass 's' true)
  | 'W' => return .set (← readShortClass 'w' true)
  | 'a' => return .char '\x07'
  | 'f' => return .char '\x0c'
  | 't' => return .char '\t'
  | 'n' => return .char '\n'
  | 'r' => return .char '\r'
  | 'v' => return .char '\x0b'
  | 'A' => return .look .textStart
  | 'z' => return .look .textEnd
  | 'b' => word (← readWordPlace)
  | 'B' => word .inside
  | '<' => word .start
  | '>' => word .stop
  | c => if isEscapable c then return .char c else failure

end Template.Pattern
