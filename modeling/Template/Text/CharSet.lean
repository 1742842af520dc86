import Template.Text.Ranges

/-!
Sets of characters as the code points where membership changes. Each set has one such form, so sets
can be compared, and all operations on two sets are one walk along both lists of edges.
-/

namespace Template

/-- The set that holds nothing before the first edge, all between the first and the second, nothing
up to the third, and so on. The edges ascend. -/
structure CharSet where
  edges : List Nat
deriving DecidableEq, Repr

namespace CharSet

/-- One more than the last code point. -/
def codeLimit : Nat := 0x110000

/-- Surrogates are no characters, so an edge among them says as much as the one behind them. -/
def edge (code : Nat) : Nat := if 0xd800 ≤ code && code < 0xe000 then 0xe000 else code

def empty : CharSet := ⟨[]⟩

def all : CharSet := ⟨[0]⟩

/-- Goes along the edges up to a code point; `here` tells membership where the walk starts. -/
def walk (code : Nat) (here : Bool) : List Nat → Bool
  | [] => here
  | e :: es => if code < e then here else walk code (!here) es

def contains (s : CharSet) (c : Char) : Bool := walk c.toNat false s.edges

/-- Ranges from the first code point up to, but without, the second, in ascending order: those that
meet become one. -/
def edgesOf (start stop : Nat) : List (Nat × Nat) → List Nat
  | [] => if stop < codeLimit then [start, stop] else [start]
  | (a, b) :: rest =>
    if a ≤ stop then edgesOf start (max stop b) rest else start :: stop :: edgesOf a b rest

/-- The characters between the code points of any of the pairs, the second ones left out. -/
def ofSpans (spans : List (Nat × Nat)) : CharSet :=
  let spans := (spans.map fun (a, b) => (edge a, edge b)).filter fun (a, b) => a < b
  match spans.mergeSort fun x y => x.1 ≤ y.1 with
  | [] => empty
  | (a, b) :: rest => ⟨edgesOf a b rest⟩

def ofCodes (codes : List Nat) : CharSet := ofSpans (codes.map fun n => (n, n + 1))

def ofRanges (ranges : List CodeRange) : CharSet :=
  ofSpans (ranges.flatMap fun r =>
    if r.stride = 1 then [(r.first, r.last + 1)] else r.codes.map fun n => (n, n + 1))

def ofTable (table : String) : CharSet := ofRanges (CodeRange.ofTable table)

def single (c : Char) : CharSet := ofSpans [(c.toNat, c.toNat + 1)]

def range (first last : Char) : CharSet := ofSpans [(first.toNat, last.toNat + 1)]

/-- Keeps an edge if membership changes there. -/
def mark (old new : Bool) (e : Nat) (es : List Nat) : List Nat := if old == new then es else e :: es

/-- Walks along the edges of two sets, where `p` and `q` tell membership in the one and the other,
and `op` membership in the result. -/
def merge (op : Bool → Bool → Bool) (p q : Bool) : List Nat → List Nat → List Nat
  | [], [] => []
  | a :: as, [] => mark (op p q) (op (!p) q) a (merge op (!p) q as [])
  | [], b :: bs => mark (op p q) (op p (!q)) b (merge op p (!q) [] bs)
  | a :: as, b :: bs =>
    if a < b then mark (op p q) (op (!p) q) a (merge op (!p) q as (b :: bs))
    else if b < a then mark (op p q) (op p (!q)) b (merge op p (!q) (a :: as) bs)
    else mark (op p q) (op (!p) (!q)) a (merge op (!p) (!q) as bs)
termination_by as bs => as.length + bs.length

/-- A set from two others by an operation on membership; outside of both it is `false`. -/
def combine (op : Bool → Bool → Bool) (s t : CharSet) : CharSet :=
  ⟨merge op false false s.edges t.edges⟩

def union (s t : CharSet) : CharSet := combine (· || ·) s t

def inter (s t : CharSet) : CharSet := combine (· && ·) s t

def diff (s t : CharSet) : CharSet := combine (fun p q => p && !q) s t

def symmDiff (s t : CharSet) : CharSet := combine (· != ·) s t

def complement (s : CharSet) : CharSet := all.diff s

/-- Pairs of neighbouring edges as the first and the last code point between them. -/
def spansOf : List Nat → List (Nat × Nat)
  | [] => []
  | [a] => [(a, codeLimit - 1)]
  | a :: b :: es => (a, if b = 0xe000 then 0xd7ff else b - 1) :: spansOf es

/-- The ranges of the set, each with its first and its last code point. -/
def spans (s : CharSet) : List (Nat × Nat) := spansOf s.edges

/-- The only character of the set. -/
def single? (s : CharSet) : Option Char :=
  match s.spans with
  | [(a, b)] => if a = b then some (Char.ofNat a) else none
  | _ => none

def isAscii (s : CharSet) : Bool := s.spans.all fun (_, last) => last < 128

end CharSet

end Template
