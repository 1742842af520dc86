import Template.Pattern.Bracket
import Template.Pattern.Weight

/-!
Reading a regular expression: branches, groups, flags and repetitions. What is no regular expression
is refused, and so is one whose parts lie too deep or whose automata get too large.
-/

namespace Template.Pattern

open Reader

/-- A part of a branch: its pattern and how deep it goes. Flags are a part that cannot be
repeated. -/
structure Part where
  pattern : Pattern
  depth : Nat
  repeatable : Bool

namespace Part

def plain (p : Pattern) : Part := ⟨p, 0, true⟩

end Part

/-- A number between blanks. -/
def readNumber : Reader (Option Nat) := do
  let _ ← takeWhile Text.isWhitespace
  let digits ← stepWhile Char.isDigit
  let _ ← takeWhile Text.isWhitespace
  if digits.isEmpty then return none
  let n := digits.foldl (fun n d => n * 10 + (d.toNat - 48)) 0
  if n < Nat.pow 2 32 then return some n else failure

/-- How often a part is repeated. -/
structure Counts where
  least : Nat
  most : Option Nat
  greedy : Bool

/-- The counts of a repetition from its opening brace on. -/
def readCounts : Reader Counts := do
  let _ ← step
  let some least ← readNumber | failure
  let most ← do
    if (← peek) == some ',' then
      let _ ← step
      if (← peek) == some '\x7d' then pure none
      else
        let some most ← readNumber | failure
        if least ≤ most then pure (some most) else failure
    else pure (some least)
  if (← step) != '\x7d' then failure
  return ⟨least, most, !(← skip? ['?'])⟩

/-- A repetition sign of one character. No blank may stand before the sign that makes it lazy. -/
def readSign (least : Nat) (most : Option Nat) : Reader Counts := do
  advance 1
  return ⟨least, most, !(← skip? ['?'])⟩

/-- The repetition sign that stands here, if one does. -/
def readCounts? : Reader (Option Counts) := do
  match ← peek with
  | some '*' => return some (← readSign 0 none)
  | some '+' => return some (← readSign 1 none)
  | some '?' => return some (← readSign 0 (some 1))
  | some '\x7b' => return some (← readCounts)
  | _ => return none

/-- The flags behind `(?`, with the sign that ends them and whether there are any. -/
def readFlags : Nat → (on : Bool) → (seen : List Char) → Flags → Reader (Flags × Char × Bool)
  | 0, _, _, _ => failure
  | fuel + 1, on, seen, flags => do
    let c ← next
    if c == ':' || c == ')' then
      if seen.head? == some '-' then failure
      return (flags, c, !seen.isEmpty)
    else if seen.contains c then failure
    else if c == '-' then readFlags fuel false (c :: seen) flags
    else
      match flags.set? on c with
      | some flags => readFlags fuel on (c :: seen) flags
      | none => failure

/-- The characters that names of groups may start with, besides the low line. -/
def nameLetters : CharSet := Property.alphabetic.set

def isGroupNameChar (first : Bool) (c : Char) : Bool :=
  c == '_' || nameLetters.contains c ||
    (!first && (c == '.' || c == '[' || c == ']' || Text.inCategory Category.numbers c))

def readGroupName : Reader String := do
  let name ← takeWhile (· != '>')
  demand '>'
  match name with
  | [] => failure
  | c :: cs =>
    if isGroupNameChar true c && cs.all (isGroupNameChar false) then return String.ofList name
    else failure

/-- The next group number, with a name or without. -/
def openGroup (name : Option String) : Reader Nat := do
  let p ← get
  let number := p.groups + 1
  match name with
  | none => set { p with groups := number }
  | some name =>
    if (p.names.lookup name).isSome then failure
    set { p with groups := number, names := (name, number) :: p.names }
  return number

def charPattern (flags : Flags) (c : Char) : Pattern := ofSet (withCase flags (.single c))

/-- Any character, but the end of a line only where the flags allow that. -/
def readDot : Reader Pattern := do
  let flags ← flags
  if !flags.unicode then failure
  if flags.dotAll then return .one .all
  else return .one (CharSet.ofTable (if flags.crlf then "a d" else "a")).complement

def readEscaped : Reader Pattern := do
  match ← readEscape with
  | .char c => return charPattern (← flags) c
  | .set s => return ofSet s
  | .look a => return .look a

mutual

/-- Branches up to the end of the group, each with its depth. -/
def readBranches : Nat → (level : Nat) → Reader (List (Pattern × Nat))
  | 0, _ => failure
  | fuel + 1, level => do
    let parts ← readParts fuel level []
    let branch := (sequence (parts.map (·.pattern)), listDepth (parts.map (·.depth)))
    if ← skip? ['|'] then return branch :: (← readBranches fuel level)
    else return [branch]

/-- The parts of a branch. Those read before come last first. -/
def readParts : Nat → (level : Nat) → List Part → Reader (List Part)
  | 0, _, _ => failure
  | fuel + 1, level, done => do
    skipSpace
    match ← peek with
    | none | some '|' | some ')' => return done.reverse
    | some c =>
      match ← readCounts? with
      | some counts =>
        match done with
        | [] => failure
        | last :: before =>
          if !last.repeatable then failure
          let greedy := counts.greedy != (← flags).lazyFirst
          let p := times counts.least counts.most greedy last.pattern
          readParts fuel level (⟨p, last.depth + 1, true⟩ :: before)
      | none =>
        let part ← do
          match c with
          | '(' => readGroup fuel level
          | '[' =>
            let (s, depth) ← readClass (2 * (← get).rest.length + 2) 0
            pure ⟨ofSet s, depth, true⟩
          | _ =>
            advance 1
            let flags ← flags
            match c with
            | '\\' => pure (.plain (← readEscaped))
            | '.' => pure (.plain (← readDot))
            | '^' =>
              pure (.plain (.look (if flags.manyLines then .lineStart flags.crlf else .textStart)))
            | '$' =>
              pure (.plain (.look (if flags.manyLines then .lineEnd flags.crlf else .textEnd)))
            | _ => pure (.plain (charPattern flags c))
        readParts fuel level (part :: done)

/-- A group from its opening parenthesis on, inside so many others, or flags for the rest of the
group around. -/
def readGroup : Nat → (level : Nat) → Reader Part
  | 0, _ => failure
  | fuel + 1, level => do
    if depthLimit ≤ level then failure
    let _ ← step
    let before ← flags
    if (← skip? ['?', 'P', '<']) || (← skip? ['?', '<']) then
      let number ← openGroup (some (← readGroupName))
      closeGroup fuel level before (some number)
    else if ← skip? ['?'] then
      let (flags, sign, someFlags) ← readFlags fuel true [] before
      setFlags flags
      if sign == ')' then
        if someFlags then return ⟨.empty, 0, false⟩ else failure
      else closeGroup fuel level before none
    else
      let number ← openGroup none
      closeGroup fuel level before (some number)

/-- The inside of a group and its closing parenthesis. The flags from before it hold again. -/
def closeGroup : Nat → (level : Nat) → Flags → Option Nat → Reader Part
  | 0, _, _, _ => failure
  | fuel + 1, level, before, number => do
    let branches ← readBranches fuel (level + 1)
    demand ')'
    setFlags before
    let inner := choice (branches.map (·.1))
    let depth := listDepth (branches.map (·.2)) + 1
    match number with
    | some n => return ⟨.group n inner, depth, true⟩
    | none => return ⟨inner, depth, true⟩

end

/-- The regular expression that the text spells, if it is one. -/
def read? (text : String) : Option Regex := do
  let cs := text.toList
  let (branches, place) ← (readBranches (4 * cs.length + 4) 0).run ⟨cs, .start, 0, []⟩
  let pattern := choice (branches.map (·.1))
  if place.rest.isEmpty && listDepth (branches.map (·.2)) ≤ depthLimit && pattern.fits then
    some ⟨pattern, place.groups, place.names⟩
  else none

end Template.Pattern
