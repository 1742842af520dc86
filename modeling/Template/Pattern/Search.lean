import Template.Pattern.Engine
import Template.Pattern.Program
import Template.Pattern.Reader

/-!
Searching a text for a regular expression, and taking it apart or changing it at the matches.
Places are counted in characters.
-/

namespace Template

/-- A regular expression that is ready to be searched for. -/
structure Matcher where
  program : Pattern.Program
  start : Nat
  groups : Nat
  names : List (String × Nat)

/-- Where a match lies, and where its groups do. -/
structure Match where
  start : Nat
  stop : Nat
  groups : Pattern.Slots
deriving Repr

namespace Match

/-- The part of the text between two places. -/
def between (cs : List Char) (start stop : Nat) : List Char := (cs.drop start).take (stop - start)

/-- The text of a group; the whole match is group zero. A group that took no part has none. -/
def group (m : Match) (cs : List Char) (number : Nat) : List Char :=
  if number = 0 then between cs m.start m.stop
  else
    match m.groups[2 * number]?, m.groups[2 * number + 1]? with
    | some (some start), some (some stop) => between cs start stop
    | _, _ => []

end Match

namespace Matcher

def ofRegex (r : Regex) : Matcher :=
  let (program, start) := Pattern.assemble r.pattern
  ⟨program, start, r.groups, r.names⟩

/-- The matcher for a pattern's text; none if that is no regular expression. -/
def read? (text : String) : Option Matcher := (Pattern.read? text).map ofRegex

/-- The preferred match that starts right here, with `before` on the left. -/
def here? (m : Matcher) (before : Option Char) (index : Nat) (cs : List Char) : Option Match :=
  let slots : Pattern.Slots := List.replicate (2 * m.groups + 2) none
  let spot : Pattern.Spot := ⟨index, before, cs.head?⟩
  let ts := Pattern.Threads.start m.program spot m.start slots (.none m.program)
  (Pattern.runThreads m.program ts.list.reverse index none cs).map
    fun (stop, slots) => ⟨index, stop, slots⟩

/-- The first match that starts here or further on. -/
def from? (m : Matcher) (before : Option Char) (index : Nat) (cs : List Char) : Option Match :=
  match m.here? before index cs with
  | some found => some found
  | none =>
    match cs with
    | [] => none
    | c :: cs => from? m (some c) (index + 1) cs

/-- The first match at or behind a place. -/
def search? (m : Matcher) (cs : List Char) (index : Nat) : Option Match :=
  if cs.length < index then none
  else m.from? (if index = 0 then none else cs[index - 1]?) index (cs.drop index)

/-- The first match behind the one that stopped at `last`. An empty match there does not count. -/
def next? (m : Matcher) (cs : List Char) (last : Option Nat) : Option Match :=
  match last with
  | none => m.search? cs 0
  | some stop =>
    match m.search? cs stop with
    | none => none
    | some found =>
      if found.start = found.stop ∧ found.stop = stop then m.search? cs (stop + 1) else some found

/-- The matches from left to right, at most as many as `limit`. -/
def matchesWithin (m : Matcher) (cs : List Char) : Nat → Option Nat → List Match
  | 0, _ => []
  | limit + 1, last =>
    match m.next? cs last with
    | none => []
    | some found => found :: matchesWithin m cs limit (some found.stop)

/-- All matches. Each but the last takes a character or leaves one before the next. -/
def allMatches (m : Matcher) (cs : List Char) : List Match :=
  m.matchesWithin cs (cs.length + 2) none

/-- Is there a match anywhere? -/
def found (m : Matcher) (cs : List Char) : Bool := (m.search? cs 0).isSome

/-- The pieces of the text between the matches. -/
def pieces (cs : List Char) (start : Nat) : List Match → List (List Char)
  | [] => [cs.drop start]
  | m :: ms => Match.between cs start m.start :: pieces cs m.stop ms

def split (m : Matcher) (cs : List Char) : List (List Char) := pieces cs 0 (m.allMatches cs)

/-- The number that a group's name or digits stand for. -/
def groupNumber? (m : Matcher) (name : List Char) : Option Nat :=
  let digits := match name with
    | '+' :: rest => rest
    | _ => name
  if !digits.isEmpty && digits.all Char.isDigit then
    some (digits.foldl (fun n d => n * 10 + (d.toNat - 48)) 0)
  else m.names.lookup (String.ofList name)

def isReferenceChar (c : Char) : Bool := c.isAlphanum || c == '_'

/-- A reference to a group behind a dollar sign: its name, and how long it is. -/
def reference? : List Char → Option (List Char × Nat)
  | '\x7b' :: cs =>
    let name := cs.takeWhile (· != '\x7d')
    if name.length < cs.length then some (name, name.length + 2) else none
  | cs =>
    let name := cs.takeWhile isReferenceChar
    if name.isEmpty then none else some (name, name.length)

/-- The replacement for a match: references to groups become their text, and two dollar signs
one. -/
def expand (m : Matcher) (cs : List Char) (found : Match) (replacement : List Char) : List Char :=
  match replacement with
  | [] => []
  | c :: rest =>
    if c != '$' then c :: expand m cs found rest
    else if rest.head? == some '$' then '$' :: expand m cs found (rest.drop 1)
    else
      match reference? rest with
      | none => '$' :: expand m cs found rest
      | some (name, length) =>
        let text := match m.groupNumber? name with
          | some n => found.group cs n
          | none => []
        text ++ expand m cs found (rest.drop length)
termination_by replacement.length
decreasing_by all_goals simp only [List.length_cons, List.length_drop]; omega

/-- The text with each of the matches replaced. -/
def replaceFrom (m : Matcher) (cs replacement : List Char) (start : Nat) :
    List Match → List Char
  | [] => cs.drop start
  | found :: rest =>
    Match.between cs start found.start ++ m.expand cs found replacement ++
      replaceFrom m cs replacement found.stop rest

def replaceAll (m : Matcher) (cs replacement : List Char) : List Char :=
  m.replaceFrom cs replacement 0 (m.allMatches cs)

def replaceFirst (m : Matcher) (cs replacement : List Char) : List Char :=
  m.replaceFrom cs replacement 0 (m.search? cs 0).toList

def ready (m : Matcher) : ReadyPattern := ⟨m.found, m.split, m.replaceAll, m.replaceFirst⟩

end Matcher

/-- The engine for regular expressions. -/
def PatternEngine.regex : PatternEngine := ⟨fun text => (Matcher.read? text).map Matcher.ready⟩

end Template
