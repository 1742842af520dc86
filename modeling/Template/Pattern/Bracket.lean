import Template.Pattern.Escape

/-!
Classes in brackets: characters, ranges of characters and other classes, and operations on what
stands on both sides of `&&`, `--` and `~~`. A class comes with the depth of the brackets in it.
-/

namespace Template.Pattern

open Reader

/-- How deep the parts of a regular expression may lie in one another. -/
def depthLimit : Nat := 250

/-- The depth of a list of things: one thing alone adds nothing. -/
def listDepth : List Nat → Nat
  | [] => 0
  | [d] => d
  | ds => ds.foldl max 0 + 1

inductive ClassOp where
  | inter | diff | symmDiff

namespace ClassOp

def apply (op : ClassOp) (s t : CharSet) : CharSet :=
  match op with
  | inter => s.inter t
  | diff => s.diff t
  | symmDiff => s.symmDiff t

def all : List (Char × ClassOp) := [('&', inter), ('-', diff), ('~', symmDiff)]

end ClassOp

/-- What was read of a class: its items and how deep each goes, and the operation in front of them
with what is on its left. -/
structure OpenClass where
  left : Option (ClassOp × CharSet × Nat)
  items : CharSet
  depths : List Nat

namespace OpenClass

def start : OpenClass := ⟨none, .empty, []⟩

def add (k : OpenClass) (s : CharSet) (depth : Nat) : OpenClass :=
  { k with items := k.items.union s, depths := depth :: k.depths }

/-- The class so far. Both sides of an operation are taken regardless of case before it, if the
flags want that. -/
def whole (k : OpenClass) (flags : Flags) : CharSet × Nat :=
  let depth := listDepth k.depths
  match k.left with
  | none => (k.items, depth)
  | some (op, s, d) => (op.apply (withCase flags s) (withCase flags k.items), max d depth + 1)

def operate (k : OpenClass) (flags : Flags) (op : ClassOp) : OpenClass :=
  ⟨some (op, k.whole flags), .empty, []⟩

end OpenClass

/-- A class in brackets and colons, if one stands here. -/
def readBracketClass? : Reader (Option CharSet) := do
  let before ← get
  if !(← skip? ['[', ':']) then return none
  let negated ← skip? ['^']
  let name ← takeWhile (· != ':')
  if ← skip? [':', ']'] then
    match bracketClass? (String.ofList name) with
    | some s => return some (← closeSet before.flags negated s)
    | none => pure ()
  set before
  return none

/-- One end of a range in a class, or a class inside the class. -/
def readClassItem : Reader (Char ⊕ CharSet) := do
  let c ← next
  let item : Char ⊕ CharSet ← do
    if c == '\\' then
      match ← readEscape with
      | .char c => pure (.inl c)
      | .set s => pure (.inr s)
      | .look _ => failure
    else pure (.inl c)
  match item with
  | .inl c => if !(← flags).unicode && 127 < c.toNat then failure else return item
  | .inr _ => return item

/-- The character that counts as the one behind a hyphen. In a pattern that is spaced out, blanks and
one comment sign are passed over, but not the comment itself. -/
def afterHyphen? (spacedOut : Bool) (rest : List Char) : Option Char :=
  if !spacedOut then rest.head?
  else
    let kept := Text.trimStart rest
    let kept := if kept.head? == some '#' then Text.trimStart (kept.drop 1) else kept
    if kept.isEmpty then rest.head? else kept.head?

/-- A single character, a range of characters or a class. -/
def readClassRange : Reader CharSet := do
  let first ← readClassItem
  skipSpace
  let p ← get
  let alone : CharSet := match first with
    | .inl c => .single c
    | .inr s => s
  match p.rest with
  | [] => failure
  | c :: rest =>
    let behind := afterHyphen? p.flags.spacedOut rest
    if c != '-' || behind == some ']' || behind == some '-' then return alone
    else
      let _ ← step
      match first, ← readClassItem with
      | .inl a, .inl b => if a ≤ b then return .range a b else failure
      | _, _ => failure

/-- Hyphens at the front of a class are plain characters, and so is a closing bracket if no hyphen is
there. -/
def readClassFront (k : OpenClass) : Reader OpenClass := do
  let hyphens ← stepWhile (· == '-')
  if hyphens.isEmpty && (← peek) == some ']' then
    let _ ← step
    return k.add (.single ']') 0
  else return hyphens.foldl (fun k c => k.add (.single c) 0) k

mutual

/-- A class from its opening bracket on, inside so many others, with its depth. -/
def readClass : Nat → (level : Nat) → Reader (CharSet × Nat)
  | 0, _ => failure
  | fuel + 1, level => do
    if depthLimit ≤ level then failure
    let _ ← step
    let negated := (← peek) == some '^'
    if negated then let _ ← step
    let (s, depth) ← readClassBody fuel (level + 1) (← readClassFront .start)
    return (← closeSet (← flags) negated s, depth + 1)

/-- The items of a class up to its closing bracket. -/
def readClassBody : Nat → (level : Nat) → OpenClass → Reader (CharSet × Nat)
  | 0, _, _ => failure
  | fuel + 1, level, k => do
    skipSpace
    match ← peek with
    | none => failure
    | some ']' =>
      advance 1
      return k.whole (← flags)
    | some '[' =>
      match ← readBracketClass? with
      | some s => readClassBody fuel level (k.add s 0)
      | none =>
        let (s, depth) ← readClass fuel level
        readClassBody fuel level (k.add s depth)
    | some c =>
      match ClassOp.all.lookup c, (← peekAt 1) == some c with
      | some op, true =>
        advance 2
        readClassBody fuel level (k.operate (← flags) op)
      | _, _ => readClassBody fuel level (k.add (← readClassRange) 0)

end

end Template.Pattern
