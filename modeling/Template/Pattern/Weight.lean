import Std.Data.HashMap
import Template.Pattern.Basic

/-!
How much room the automata of a pattern take. There are two, which read the bytes of a text forward
and backward, and a pattern for which one of them gets too large is refused. An automaton that reads
a set of characters reads the ranges of bytes that their codes are made of.
-/

namespace Template.Pattern

/-- The first and the last byte of a range. -/
abbrev ByteRange := Nat × Nat

/-- Where a range of characters has to be divided so that each part is a sequence of ranges of
bytes: the last character of the part in front. Codes of different lengths are apart, and behind
bytes that differ all bytes must be possible. -/
def dividingPoint? (first last : Nat) : Option Nat :=
  match [0x7f, 0x7ff, 0xd7ff, 0xffff].find? fun n => first ≤ n && n < last with
  | some n => some n
  | none =>
    if last < 128 then none
    else [64, 4096, 262144].findSome? fun block =>
      if first / block == last / block then none
      else if first % block != 0 then some ((first / block + 1) * block - 1)
      else if last % block + 1 != block then some (last / block * block - 1)
      else none

def bytesOf (code : Nat) : List Nat := (String.utf8EncodeChar (Char.ofNat code)).map UInt8.toNat

/-- A range of characters as sequences of ranges of bytes, in ascending order. -/
def byteRanges (first last : Nat) : List (List ByteRange) :=
  match dividingPoint? first last with
  | some n =>
    if _inside : first ≤ n ∧ n < last then
      byteRanges first n ++ byteRanges (if n = 0xd7ff then max 0xe000 (n + 1) else n + 1) last
    else []
  | none => [(bytesOf first).zip (bytesOf last)]
termination_by last - first
decreasing_by
  · omega
  · split <;> omega

/-- Puts sequences that start alike together: the start, and what follows it. -/
def byStart : List (List ByteRange) → List (ByteRange × List (List ByteRange))
  | [] => []
  | [] :: rest => byStart rest
  | (r :: tail) :: rest =>
    match byStart rest with
    | (r', tails) :: groups =>
      if r = r' then (r, tail :: tails) :: groups else (r, [tail]) :: (r', tails) :: groups
    | [] => [(r, [tail])]

/-- The states that were built so far, by where they lead. -/
structure SharedStates where
  numbers : Std.HashMap (List (ByteRange × Nat)) Nat
  room : Nat

/-- The room of a state. -/
def stateRoom : Nat := 32

/-- The number of the state that reads one of the sequences and then accepts; states that read the
same are one. -/
def sharedState : (length : Nat) → List (List ByteRange) → StateM SharedStates Nat
  | 0, _ => return 0
  | n + 1, sequences => do
    if sequences.any List.isEmpty then return 0
    let ways ← (byStart sequences).mapM fun (r, tails) => return (r, ← sharedState n tails)
    let states ← get
    match states.numbers[ways]? with
    | some number => return number
    | none =>
      let number := states.numbers.size + 1
      set (⟨states.numbers.insert ways number, states.room + stateRoom + 8 * ways.length⟩ :
        SharedStates)
      return number

/-- How many different starts the sequences have, whole sequences among them. -/
def startCount : (length : Nat) → List (List ByteRange) → Nat
  | 0, _ => 0
  | n + 1, sequences => total ((byStart sequences).map fun (_, tails) => 1 + startCount n tails)

inductive Direction where
  | forward | backward
deriving DecidableEq, Repr

/-- The room for one character of a set. Forward, states that read the same ends are shared;
backward, each sequence is a branch, and branches share what they start with. -/
def setRoom (direction : Direction) (s : CharSet) : Nat :=
  if s.isAscii then 2 * stateRoom + 8 * s.spans.length
  else
    let sequences := s.spans.flatMap fun (first, last) => byteRanges first last
    match direction with
    | .forward => ((sharedState 5 sequences).run ⟨∅, stateRoom⟩).2.room
    | .backward => 2 * stateRoom + 4 * sequences.length + stateRoom * startCount 5 sequences

def textBytes (direction : Direction) (cs : List Char) : List UInt8 :=
  let bytes := cs.flatMap String.utf8EncodeChar
  match direction with
  | .forward => bytes
  | .backward => bytes.reverse

/-- The rests of the texts that follow one another up to a text that ends here. -/
def sections : List (List UInt8) → List (List (List UInt8))
  | [] => [[]]
  | [] :: rest => [] :: sections rest
  | bytes :: rest =>
    match sections rest with
    | first :: others => (bytes :: first) :: others
    | [] => [[bytes]]

/-- The room for a choice between texts, which share what they start with as long as no text that
ends there stands between them. Texts that end where none has gone on yet are one. -/
def textsRoom : (length : Nat) → List (List UInt8) → Nat
  | 0, _ => 0
  | n + 1, texts =>
    if texts.all List.isEmpty then 0
    else
      let ends := (texts.takeWhile List.isEmpty).length
      let parts := sections (texts.drop (ends - 1))
      let rooms := parts.map fun part =>
        let bytes := (part.filterMap List.head?).eraseDups
        let inner := bytes.map fun b =>
          textsRoom n (part.filterMap fun t => if t.head? == some b then some t.tail else none)
        let own :=
          match bytes.length with
          | 0 => 0
          | 1 => 4 + stateRoom
          | k => 4 + stateRoom + 8 * k
        own + total inner
      stateRoom + 4 * (parts.length - 1) + total rooms

/-- The room for a pattern that is repeated, when it takes `inner` once. -/
def repeatedRoom (consumes : Bool) (inner : Nat) : (least : Nat) → (most : Option Nat) → Nat
  | 0, none => if consumes then inner + stateRoom + 8 else inner + 3 * stateRoom + 16
  | least, none => least * inner + stateRoom + 8
  | 0, some 1 => inner + 2 * stateRoom + 8
  | least, some most =>
    if least = most then least * inner
    else (if least = 0 then stateRoom else least * inner) + stateRoom +
      (most - least) * (inner + stateRoom + 8)

/-- The branches of a choice: how many there are, the room that they take together, and their bytes
if all of them are texts. -/
structure BranchRooms where
  count : Nat
  room : Nat
  texts : Option (List (List UInt8))

namespace BranchRooms

def single (room : Nat) : BranchRooms := ⟨1, room, none⟩

def append (a b : BranchRooms) : BranchRooms :=
  ⟨a.count + b.count, a.room + b.room, a.texts.bind fun s => b.texts.map (s ++ ·)⟩

/-- The room for the choice. One branch is no choice. -/
def whole (b : BranchRooms) : Nat :=
  if b.count = 1 then b.room
  else
    match b.texts with
    | some texts => stateRoom + textsRoom (total (texts.map List.length) + 1) texts
    | none => 2 * stateRoom + 4 * b.count + b.room

end BranchRooms

/-- The room for the branches of a pattern. -/
def branchRooms (direction : Direction) : Pattern → BranchRooms
  | empty | look _ => .single stateRoom
  | text cs =>
    let bytes := textBytes direction cs
    ⟨1, stateRoom * bytes.length, some [bytes]⟩
  | one s => .single (setRoom direction s)
  | cat p q => .single ((branchRooms direction p).whole + (branchRooms direction q).whole)
  | alt p q => (branchRooms direction p).append (branchRooms direction q)
  | group _ p =>
    let inner := (branchRooms direction p).whole
    .single (if direction = .forward then inner + 2 * stateRoom else inner)
  | repeated least most _ p =>
    .single (repeatedRoom p.consumes (branchRooms direction p).whole least most)

/-- The room for the whole automaton. It may start anywhere in the text unless the pattern is tied
to the end of the text where reading starts; forward, the whole match is a group, too. -/
def automatonRoom (p : Pattern) : Direction → Nat
  | .forward =>
    (if p.startsAtTextStart then stateRoom else anywhere) + (branchRooms .forward p).whole +
      3 * stateRoom
  | .backward =>
    (if p.stopsAtTextEnd then stateRoom else anywhere) + (branchRooms .backward p).whole + stateRoom
where
  anywhere : Nat := 3 * stateRoom + 16

def roomLimit : Nat := 10 * Nat.pow 2 20

def fits (p : Pattern) : Bool :=
  automatonRoom p .forward ≤ roomLimit && automatonRoom p .backward ≤ roomLimit

end Template.Pattern
