import Template.Text.Blank

/-!
Places in the text of a regular expression, and how a reader moves from one to the next. A reader
knows the flags that are set and the groups that were opened so far.
-/

namespace Template.Pattern

structure Flags where
  anyCase : Bool
  manyLines : Bool
  dotAll : Bool
  lazyFirst : Bool
  /-- Characters are taken as what they are, not as bytes. -/
  unicode : Bool
  /-- A carriage return ends a line, too. -/
  crlf : Bool
  spacedOut : Bool
deriving DecidableEq, Repr

namespace Flags

def start : Flags := ⟨false, false, false, false, true, false, false⟩

/-- Sets or clears the flag with that letter. -/
def set? (f : Flags) (on : Bool) : Char → Option Flags
  | 'i' => some { f with anyCase := on }
  | 'm' => some { f with manyLines := on }
  | 's' => some { f with dotAll := on }
  | 'U' => some { f with lazyFirst := on }
  | 'u' => some { f with unicode := on }
  | 'R' => some { f with crlf := on }
  | 'x' => some { f with spacedOut := on }
  | _ => none

end Flags

structure Place where
  rest : List Char
  flags : Flags
  groups : Nat
  names : List (String × Nat)

abbrev Reader := StateT Place Option

namespace Reader

def flags : Reader Flags := return (← get).flags

def setFlags (flags : Flags) : Reader Unit := modify ({ · with flags })

def peek : Reader (Option Char) := return (← get).rest.head?

def peekAt (n : Nat) : Reader (Option Char) := return (← get).rest[n]?

def advance (n : Nat) : Reader Unit := modify fun p => { p with rest := p.rest.drop n }

def next : Reader Char := do
  match (← get).rest with
  | [] => failure
  | c :: rest =>
    modify ({ · with rest })
    return c

def takeWhile (test : Char → Bool) : Reader (List Char) := do
  let taken := (← get).rest.takeWhile test
  advance taken.length
  return taken

/-- Takes the text if it stands here. -/
def skip? (text : List Char) : Reader Bool := do
  if text.isPrefixOf (← get).rest then
    advance text.length
    return true
  else return false

def demand (c : Char) : Reader Unit := do
  if (← next) != c then failure

/-- What remains behind white space and comments, which go up to the end of their line. -/
def dropSpace : Nat → List Char → List Char
  | 0, cs => cs
  | fuel + 1, cs =>
    let cs := Text.trimStart cs
    match cs with
    | '#' :: _ => dropSpace fuel (cs.dropWhile (· != '\n'))
    | _ => cs

/-- Passes over the blanks and comments of a pattern that is spaced out. -/
def skipSpace : Reader Unit := do
  let p ← get
  if p.flags.spacedOut then set { p with rest := dropSpace p.rest.length p.rest }

/-- Takes a character, and blanks and comments behind it. -/
def step : Reader Char := do
  let c ← next
  skipSpace
  return c

/-- Takes characters as long as they pass the test, and blanks and comments behind each. -/
def stepWhile (test : Char → Bool) : Reader (List Char) := do
  go ((← get).rest.length + 1)
where
  go : Nat → Reader (List Char)
    | 0 => return []
    | fuel + 1 => do
      match ← peek with
      | some c =>
        if test c then
          let c ← step
          return c :: (← go fuel)
        else return []
      | none => return []

end Reader

end Template.Pattern
