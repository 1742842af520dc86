import Template.Text.Property

/-!
Regular expressions: assertions about a place, and patterns made from texts, sets of characters and
assertions. Patterns are built by functions that bring them into a simple form: a sequence holds no
sequence and no two texts side by side, and a choice holds no choice.
-/

namespace Template.Pattern

/-- The letters, marks, digits and signs that words are made of. -/
def words : CharSet := Property.word.set

def asciiWords : CharSet := .ofTable "30-39 41-5a 5f 61-7a"

/-- A place as words lie around it. The halves look at one side only. -/
inductive WordPlace where
  | boundary | inside | start | stop | startHalf | stopHalf
deriving DecidableEq, Repr

/-- Statements about a place between two characters. -/
inductive Assertion where
  | textStart
  | textEnd
  | lineStart (crlf : Bool)
  | lineEnd (crlf : Bool)
  | word (place : WordPlace) (ascii : Bool)
deriving DecidableEq, Repr

namespace WordPlace

/-- Is this the place between two characters that belong to words or do not? -/
def holds (before after : Bool) : WordPlace → Bool
  | boundary => before != after
  | inside => before == after
  | start => !before && after
  | stop => before && !after
  | startHalf => !before
  | stopHalf => !after

end WordPlace

namespace Assertion

def isWord (ascii : Bool) (c : Option Char) : Bool :=
  match c with
  | some c => (if ascii then asciiWords else words).contains c
  | none => false

/-- Does the assertion hold between the two characters? The ends of the text have no character.
With `crlf`, a carriage return ends a line as well, alone or with the line feed behind it. -/
def holds (before after : Option Char) : Assertion → Bool
  | textStart => before.isNone
  | textEnd => after.isNone
  | lineStart crlf =>
    before.isNone || before == some '\n' || (crlf && before == some '\r' && after != some '\n')
  | lineEnd crlf =>
    after.isNone || (crlf && after == some '\r') ||
      (after == some '\n' && !(crlf && before == some '\r'))
  | word place ascii => place.holds (isWord ascii before) (isWord ascii after)

end Assertion

end Template.Pattern

namespace Template

inductive Pattern where
  | empty
  | text (cs : List Char)
  | one (set : CharSet)
  | look (assertion : Pattern.Assertion)
  | cat (first second : Pattern)
  | alt (first second : Pattern)
  /-- The text of the group with this number. -/
  | group (number : Nat) (inner : Pattern)
  /-- At least `least` times and, if `most` is there, at most that often. -/
  | repeated (least : Nat) (most : Option Nat) (greedy : Bool) (inner : Pattern)
deriving DecidableEq, Repr

namespace Pattern

/-- The smaller or the larger of two lengths; unknown if one of them is. -/
def both (f : Nat → Nat → Nat) (a b : Option Nat) : Option Nat := a.bind fun m => b.map (f m)

/-- The length of the shortest text that the pattern can match. A set without characters has
none. -/
def shortest : Pattern → Option Nat
  | empty | look _ => some 0
  | text cs => some cs.length
  | one s => if s = .empty then none else some 1
  | cat p q => both (· + ·) p.shortest q.shortest
  | alt p q => both min p.shortest q.shortest
  | group _ p => p.shortest
  | repeated least _ _ p => p.shortest.map (· * least)

/-- The length of the longest text that the pattern can match, if there is one. -/
def longest : Pattern → Option Nat
  | empty | look _ => some 0
  | text cs => some cs.length
  | one s => if s = .empty then none else some 1
  | cat p q => both (· + ·) p.longest q.longest
  | alt p q => both max p.longest q.longest
  | group _ p => p.longest
  | repeated _ most _ p => both (· * ·) p.longest most

/-- Does each match take a character? -/
def consumes (p : Pattern) : Bool :=
  match p.shortest with
  | some n => 0 < n
  | none => false

def matchesEmptyOnly (p : Pattern) : Bool := p.longest == some 0

def size : Pattern → Nat
  | empty | text _ | one _ | look _ => 1
  | cat p q | alt p q => p.size + q.size + 1
  | group _ p | repeated _ _ _ p => p.size + 1

/-- The parts of a sequence. -/
def parts : Pattern → List Pattern
  | empty => []
  | cat p q => p :: q.parts
  | p => [p]

/-- The branches of a choice. -/
def branches : Pattern → List Pattern
  | alt p q => p :: q.branches
  | p => [p]

/-- Texts side by side become one. -/
def joinTexts : List Pattern → List Pattern
  | [] => []
  | text s :: ps =>
    match joinTexts ps with
    | text t :: qs => text (s ++ t) :: qs
    | qs => text s :: qs
  | p :: ps => p :: joinTexts ps

def ofParts : List Pattern → Pattern
  | [] => empty
  | [p] => p
  | p :: ps => cat p (ofParts ps)

def ofBranches : List Pattern → Pattern
  | [] => one .empty
  | [p] => p
  | p :: ps => alt p (ofBranches ps)

/-- One pattern after the other. -/
def sequence (ps : List Pattern) : Pattern := ofParts (joinTexts (ps.flatMap parts))

/-- One character of a set. -/
def ofSet (s : CharSet) : Pattern :=
  match s.single? with
  | some c => text [c]
  | none => one s

def char? : Pattern → Option Char
  | text [c] => some c
  | _ => none

def set? : Pattern → Option CharSet
  | one s => some s
  | _ => none

def isSequence : Pattern → Bool
  | cat _ _ => true
  | _ => false

def total (numbers : List Nat) : Nat := numbers.foldl (· + ·) 0

/-- What two lists start with, both of them. -/
def commonStart : List Pattern → List Pattern → List Pattern
  | p :: ps, q :: qs => if p = q then p :: commonStart ps qs else []
  | _, _ => []

/-- The first part or parts of all branches. Branches of one part have none in common. -/
def sharedStart : List Pattern → List Pattern
  | [] => []
  | p :: ps =>
    if (p :: ps).all isSequence then (ps.map parts).foldl commonStart p.parts else []

/-- A choice between patterns, the first preferred. Branches of one character become a set, and what
all branches start with goes before the choice. -/
def choiceWithin : Nat → List Pattern → Pattern
  | 0, ps => ofBranches ps
  | fuel + 1, ps =>
    let bs := ps.flatMap branches
    match bs with
    | [] => one .empty
    | [p] => p
    | _ =>
      match bs.mapM char?, bs.mapM set? with
      | some cs, _ => ofSet (.ofCodes (cs.map Char.toNat))
      | none, some sets => ofSet (sets.foldl .union .empty)
      | none, none =>
        match sharedStart bs with
        | [] => ofBranches bs
        | start =>
          let rests := bs.map fun b => sequence (b.parts.drop start.length)
          sequence (start ++ [choiceWithin fuel rests])

/-- A choice between patterns, the first preferred. -/
def choice (ps : List Pattern) : Pattern := choiceWithin (total (ps.map size) + 1) ps

/-- A pattern several times. What matches the empty text only need not be matched twice. -/
def times (least : Nat) (most : Option Nat) (greedy : Bool) (p : Pattern) : Pattern :=
  let (least, most) :=
    if p.matchesEmptyOnly then (min least 1, some (min (most.getD 1) 1)) else (least, most)
  if least = 0 ∧ most = some 0 then empty
  else if least = 1 ∧ most = some 1 then p
  else repeated least most greedy p

/-- Can a match start at the start of the text only? -/
def startsAtTextStart : Pattern → Bool
  | look .textStart => true
  | cat p q => p.startsAtTextStart || (p.matchesEmptyOnly && q.startsAtTextStart)
  | alt p q => p.startsAtTextStart && q.startsAtTextStart
  | group _ p => p.startsAtTextStart
  | repeated least _ _ p => 0 < least && p.startsAtTextStart
  | _ => false

/-- Can a match stop at the end of the text only? -/
def stopsAtTextEnd : Pattern → Bool
  | look .textEnd => true
  | cat p q => q.stopsAtTextEnd || (q.matchesEmptyOnly && p.stopsAtTextEnd)
  | alt p q => p.stopsAtTextEnd && q.stopsAtTextEnd
  | group _ p => p.stopsAtTextEnd
  | repeated least _ _ p => 0 < least && p.stopsAtTextEnd
  | _ => false

end Pattern

/-- A regular expression: its pattern, and the numbers of its named groups. -/
structure Regex where
  pattern : Pattern
  groups : Nat
  names : List (String × Nat)

end Template
