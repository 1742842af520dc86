import Template.Pattern.Basic

/-!
Patterns as programs. A program is run by threads in order of preference: where a pattern has a
choice, the program splits into the preferred way and the other one.
-/

namespace Template.Pattern

inductive Instruction where
  | char (c : Char) (next : Nat)
  | one (set : CharSet) (next : Nat)
  | look (assertion : Assertion) (next : Nat)
  | save (slot : Nat) (next : Nat)
  | split (preferred other : Nat)
  | accept

abbrev Program := Array Instruction

/-- Building a program from its end: instructions are added behind those that they lead to. -/
abbrev Assembler := StateM Program

namespace Assembler

def add (i : Instruction) : Assembler Nat := fun p => (p.size, p.push i)

def replace (line : Nat) (i : Instruction) : Assembler Unit := modify (·.setIfInBounds line i)

/-- A choice between an inner part and going on. -/
def choice (greedy : Bool) (inner next : Nat) : Instruction :=
  if greedy then .split inner next else .split next inner

/-- The same part several times. -/
def copies (part : Nat → Assembler Nat) : Nat → Nat → Assembler Nat
  | 0, next => return next
  | n + 1, next => do copies part n (← part next)

/-- Up to so many times before `stop`; each part but the last leads to a choice, at `next`. -/
def upTo (greedy : Bool) (part : Nat → Assembler Nat) (stop : Nat) : Nat → Nat → Assembler Nat
  | 0, next => return next
  | n + 1, next => do
    let inner ← part next
    upTo greedy part stop n (← add (choice greedy inner stop))

/-- At least once. -/
def oneOrMore (greedy : Bool) (part : Nat → Assembler Nat) (next : Nat) : Assembler Nat := do
  let again ← add .accept
  let inner ← part again
  replace again (choice greedy inner next)
  return inner

/-- Any number of times. A part that can match nothing is tried once before it is passed over. -/
def anyTimes (greedy consumes : Bool) (part : Nat → Assembler Nat) (next : Nat) :
    Assembler Nat := do
  let again ← add .accept
  let inner ← part again
  replace again (choice greedy inner next)
  if consumes then return again else add (choice greedy inner next)

def chars : List Char → Nat → Assembler Nat
  | [], next => return next
  | c :: cs, next => do chars cs (← add (.char c next))

/-- The code of a pattern that goes on at `next`; the result is where it starts. -/
def code : Pattern → Nat → Assembler Nat
  | .empty, next => return next
  | .text cs, next => chars cs.reverse next
  | .one s, next => add (.one s next)
  | .look a, next => add (.look a next)
  | .cat p q, next => do code p (← code q next)
  | .alt p q, next => do
    let preferred ← code p next
    add (.split preferred (← code q next))
  | .group n p, next => do
    let stop ← add (.save (2 * n + 1) next)
    add (.save (2 * n) (← code p stop))
  | .repeated 0 none greedy p, next => anyTimes greedy p.consumes (code p) next
  | .repeated (n + 1) none greedy p, next => do
    copies (code p) n (← oneOrMore greedy (code p) next)
  | .repeated n (some m) greedy p, next => do
    copies (code p) n (← upTo greedy (code p) next (m - n) next)

end Assembler

/-- The program of a pattern and the instruction where it starts. -/
def assemble (p : Pattern) : Program × Nat :=
  let (start, program) := (do
    let stop ← Assembler.add .accept
    Assembler.code p stop : Assembler Nat).run #[]
  (program, start)

/-- The places saved so far; a group that took no part has none. -/
abbrev Slots := List (Option Nat)

structure Thread where
  line : Nat
  slots : Slots

/-- A place in the text: how many characters are before it, and its neighbours. -/
structure Spot where
  index : Nat
  before : Option Char
  after : Option Char

/-- Threads in order of preference, and the instructions that already have one. -/
structure Threads where
  list : List Thread
  visited : Array Bool

namespace Threads

def none (p : Program) : Threads := ⟨[], Array.replicate p.size false⟩

/-- Follows threads until they wait for a character, the first one with all that it splits into
before the next. Of several threads at one instruction only the most preferred one lives on. The
list is built last thread first. -/
def follow (p : Program) (spot : Spot) : Nat → List (Nat × Slots) → Threads → Threads
  | 0, _, ts => ts
  | _, [], ts => ts
  | fuel + 1, (line, slots) :: waiting, ts =>
    if ts.visited.getD line true then follow p spot fuel waiting ts
    else
      let ts := { ts with visited := ts.visited.setIfInBounds line true }
      match p[line]? with
      | some (.split a b) => follow p spot fuel ((a, slots) :: (b, slots) :: waiting) ts
      | some (.save slot next) =>
        follow p spot fuel ((next, slots.set slot (some spot.index)) :: waiting) ts
      | some (.look a next) =>
        if a.holds spot.before spot.after then follow p spot fuel ((next, slots) :: waiting) ts
        else follow p spot fuel waiting ts
      | some (.char _ _) | some (.one _ _) | some .accept =>
        follow p spot fuel waiting { ts with list := ⟨line, slots⟩ :: ts.list }
      | _ => follow p spot fuel waiting ts

/-- Starts a thread. Each instruction is followed once and makes two threads at most, so there are
never more steps than counted here. -/
def start (p : Program) (spot : Spot) (line : Nat) (slots : Slots) (ts : Threads) : Threads :=
  follow p spot (2 * p.size + 1) [(line, slots)] ts

/-- Moves the threads at place `index` over a character to the place `spot`. A thread that accepts
ends all that are less preferred. -/
def step (p : Program) (index : Nat) (c : Option Char) (spot : Spot) :
    List Thread → Threads → Option (Nat × Slots) → Threads × Option (Nat × Slots)
  | [], ts, found => (ts, found)
  | t :: rest, ts, found =>
    match p[t.line]?, c with
    | some .accept, _ => (ts, some (index, t.slots))
    | some (.char e next), some d =>
      step p index c spot rest (if e = d then start p spot next t.slots ts else ts) found
    | some (.one s next), some d =>
      step p index c spot rest (if s.contains d then start p spot next t.slots ts else ts) found
    | _, _ => step p index c spot rest ts found

end Threads

/-- Runs the threads, most preferred first, over the text behind a place. The result is where the
preferred match ends, with its groups. -/
def runThreads (p : Program) (threads : List Thread) (index : Nat)
    (found : Option (Nat × Slots)) : List Char → Option (Nat × Slots)
  | [] => (Threads.step p index none ⟨index, none, none⟩ threads (.none p) found).2
  | c :: cs =>
    if threads.isEmpty then found
    else
      let spot : Spot := ⟨index + 1, some c, cs.head?⟩
      let (ts, found) := Threads.step p index (some c) spot threads (.none p) found
      runThreads p ts.list.reverse (index + 1) found cs

end Template.Pattern
