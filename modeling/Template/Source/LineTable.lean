import Template.Source.Span
import Template.Source.Bytes

/-!
From byte offsets to lines and columns. A line table lists where the lines of a source start. The
position of an offset is found by halving among these starts: it is the last line that starts at or
before the offset, and the distance to that start.
-/

namespace Template

namespace LineTable

/-- The offsets just behind the newlines of `cs`, which starts at `offset`. -/
def breaksFrom (offset : Nat) : List Char → List Nat
  | [] => []
  | c :: cs =>
    let next := offset + c.utf8Size
    if c = '\n' then next :: breaksFrom next cs else breaksFrom next cs

theorem lt_of_mem_breaksFrom {offset next : Nat} {cs : List Char} (h : next ∈ breaksFrom offset cs) :
    offset < next := by
  induction cs generalizing offset with
  | nil => cases h
  | cons c cs ih =>
      have wide := c.utf8Size_pos
      simp only [breaksFrom] at h
      split at h
      · rcases List.mem_cons.1 h with rfl | h
        · omega
        · exact Nat.lt_trans (Nat.lt_add_of_pos_right wide) (ih h)
      · exact Nat.lt_trans (Nat.lt_add_of_pos_right wide) (ih h)

theorem breaksFrom_sorted (offset : Nat) (cs : List Char) :
    (offset :: breaksFrom offset cs).Pairwise (· < ·) := by
  refine .cons (fun _ h => lt_of_mem_breaksFrom h) ?_
  induction cs generalizing offset with
  | nil => exact .nil
  | cons c cs ih =>
      rw [breaksFrom]
      split
      · exact .cons (fun _ h => lt_of_mem_breaksFrom h) (ih _)
      · exact ih _

end LineTable

/-- Byte offsets of the line starts after the first, which is `0`. -/
structure LineTable where
  breaks : List Nat
  sorted : (0 :: breaks).Pairwise (· < ·)

namespace LineTable

def ofChars (cs : List Char) : LineTable := ⟨breaksFrom 0 cs, breaksFrom_sorted 0 cs⟩

def ofSource (source : String) : LineTable := ofChars source.toList

/-- Where all lines start. -/
def starts (t : LineTable) : List Nat := 0 :: t.breaks

def lineCount (t : LineTable) : Nat := t.breaks.length + 1

/-- What a search for an offset among line starts answers. -/
inductive Found where
  /-- The line starts at the offset. -/
  | start (line : Nat)
  /-- No line does; this is the first place of one that starts behind it. -/
  | front (next : Nat)
deriving DecidableEq

/-- The line that the offset is in. -/
def Found.line : Found → Nat
  | .start line => line
  | .front next => next - 1

/-- A search by halving in at most `steps` steps. -/
def searchWithin (starts : List Nat) (offset : Nat) (steps low high : Nat) : Found :=
  match steps with
  | 0 => .front low
  | steps + 1 =>
    if low < high then
      let middle := low + (high - low) / 2
      match compare (starts.getD middle 0) offset with
      | .eq => .start middle
      | .lt => searchWithin starts offset steps (middle + 1) high
      | .gt => searchWithin starts offset steps low middle
    else .front low

/-- A search by halving among the places from `low` up to, but not including, `high`. -/
def search (starts : List Nat) (offset low high : Nat) : Found :=
  searchWithin starts offset (high - low) low high

def position (t : LineTable) (offset : Nat) : Position :=
  let line := (search t.starts offset 0 t.lineCount).line
  ⟨line, offset - t.starts.getD line 0⟩

def region (t : LineTable) (s : Span) : Region :=
  ⟨s, t.position s.start, t.position s.stop⟩

end LineTable

end Template
