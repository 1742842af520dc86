import Mathlib.Data.List.DropRight
import Template.Proofs.Source.LineSearch
import Template.Proofs.Token.Pieces

/-!
Parts of a source and their regions. The table of lines finds the position that counting finds, and
a later offset has a later position, so that regions are joined the way their spans are.
-/

namespace Template

namespace Text

/-- The position behind the characters: the lines that they end, and what they hold of the next. -/
def positionBehind (cs : List Char) : Position :=
  ⟨cs.count '\n', byteLength (cs.rtakeWhile (· != '\n'))⟩

theorem positionBehind_concat (cs : List Char) (c : Char) :
    positionBehind (cs ++ [c]) =
      if c = '\n' then ⟨(positionBehind cs).line + 1, 0⟩
      else ⟨(positionBehind cs).line, (positionBehind cs).column + c.utf8Size⟩ := by
  by_cases hc : c = '\n'
  · simp [positionBehind, hc, byteLength]
  · simp [positionBehind, hc, byteLength_append, byteLength]

end Text

namespace Position

/-- The position behind a character that stands at the position. -/
def past (p : Position) (c : Char) : Position :=
  if c = '\n' then ⟨p.line + 1, 0⟩ else ⟨p.line, p.column + c.utf8Size⟩

theorem foldl_past (cs : List Char) : cs.foldl past ⟨0, 0⟩ = Text.positionBehind cs := by
  induction cs using List.reverseRecOn with
  | nil => rfl
  | append_singleton cs c ih =>
      rw [List.foldl_append, ih, Text.positionBehind_concat]
      rfl

theorem before_iff (p q : Position) :
    p.before q ↔ p.line < q.line ∨ p.line = q.line ∧ p.column < q.column := by
  simp [before]

end Position

namespace LineTable

theorem positionFrom_of_lt {line start offset : Nat} {rest : List Nat}
    (h : ∀ next ∈ rest, offset < next) :
    positionFrom line start offset rest = ⟨line, offset - start⟩ := by
  cases rest with
  | nil => rfl
  | cons next rest => rw [positionFrom, if_neg (Nat.not_le.2 (h next (List.mem_cons_self ..)))]

/-- The walk over the lines stops where the walk over the characters does. -/
theorem positionFrom_breaksFrom {line start offset : Nat} (hs : start ≤ offset)
    (before after : List Char) :
    positionFrom line start (offset + Text.byteLength before) (breaksFrom offset (before ++ after)) =
      before.foldl Position.past ⟨line, offset - start⟩ := by
  induction before generalizing line start offset with
  | nil => exact positionFrom_of_lt fun next h => lt_of_mem_breaksFrom h
  | cons c before ih =>
      have behind : offset + Text.byteLength (c :: before) =
          offset + c.utf8Size + Text.byteLength before := by
        rw [Text.byteLength, Nat.add_assoc]
      rw [behind, List.cons_append, breaksFrom, List.foldl_cons]
      by_cases hc : c = '\n'
      · rw [if_pos hc, positionFrom, if_pos (Nat.le_add_right _ _), ih (Nat.le_refl _),
          Position.past, if_pos hc, Nat.sub_self]
      · rw [if_neg hc, ih (hs.trans (Nat.le_add_right _ _)), Position.past, if_neg hc,
          Nat.sub_add_comm hs]

/-- The position of an offset is the one behind what stands before it. -/
theorem position_eq (before after : List Char) :
    (ofChars (before ++ after)).position (Text.byteLength before) = Text.positionBehind before := by
  have walk : positionFrom 0 0 (0 + Text.byteLength before) (breaksFrom 0 (before ++ after)) =
      before.foldl Position.past ⟨0, 0 - 0⟩ :=
    positionFrom_breaksFrom (Nat.le_refl 0) before after
  rw [Nat.zero_add, Nat.sub_self, Position.foldl_past] at walk
  rw [position_eq_positionFrom]
  exact walk

theorem line_le_positionFrom (line start offset : Nat) (rest : List Nat) :
    line ≤ (positionFrom line start offset rest).line := by
  induction rest generalizing line start with
  | nil => exact Nat.le_refl line
  | cons next rest ih =>
      rw [positionFrom]
      split
      · exact (Nat.le_succ line).trans (ih (line + 1) next)
      · exact Nat.le_refl line

theorem positionFrom_before {line start m n : Nat} (hs : start ≤ m) (h : m < n) (rest : List Nat) :
    (positionFrom line start m rest).before (positionFrom line start n rest) := by
  induction rest generalizing line start with
  | nil =>
      rw [Position.before_iff]
      exact .inr ⟨rfl, Nat.sub_lt_sub_right hs h⟩
  | cons next rest ih =>
      rw [positionFrom, positionFrom]
      by_cases hm : next ≤ m
      · rw [if_pos hm, if_pos (hm.trans h.le)]
        exact ih hm
      · rw [if_neg hm, Position.before_iff]
        split
        · exact .inl (line_le_positionFrom (line + 1) next n rest)
        · exact .inr ⟨rfl, Nat.sub_lt_sub_right hs h⟩

/-- Positions are ordered as their offsets are. -/
theorem position_before_iff (t : LineTable) (m n : Nat) :
    (t.position m).before (t.position n) ↔ m < n := by
  have forward {m n : Nat} (h : m < n) : (t.position m).before (t.position n) := by
    rw [position_eq_positionFrom, position_eq_positionFrom]
    exact positionFrom_before (Nat.zero_le m) h t.breaks
  refine ⟨fun h => ?_, forward⟩
  rcases Nat.lt_trichotomy m n with lt | rfl | gt
  · exact lt
  · rw [Position.before_iff] at h
    omega
  · have back := forward gt
    rw [Position.before_iff] at h back
    omega

end LineTable

namespace Span

/-- The smallest span that contains both. -/
def cover (a b : Span) : Span := ⟨min a.start b.start, max a.stop b.stop⟩

def Contains (a b : Span) : Prop := a.start ≤ b.start ∧ b.stop ≤ a.stop

theorem Contains.trans {a b c : Span} (h : a.Contains b) (h' : b.Contains c) : a.Contains c :=
  ⟨h.1.trans h'.1, h'.2.trans h.2⟩

theorem cover_left (a b : Span) : (a.cover b).Contains a := ⟨Nat.min_le_left _ _, Nat.le_max_left _ _⟩

theorem cover_right (a b : Span) : (a.cover b).Contains b :=
  ⟨Nat.min_le_right _ _, Nat.le_max_right _ _⟩

theorem Contains.shift {a b : Span} (h : a.Contains b) (n : Nat) :
    (a.shift n).Contains (b.shift n) :=
  ⟨Nat.add_le_add_right h.1 n, Nat.add_le_add_right h.2 n⟩

theorem shift_cover (a b : Span) (n : Nat) : (a.cover b).shift n = (a.shift n).cover (b.shift n) := by
  simp only [cover, shift, Nat.add_min_add_right, Nat.add_max_add_right]

end Span

theorem LineTable.region_cover (t : LineTable) (a b : Span) :
    (t.region a).cover (t.region b) = t.region (a.cover b) := by
  simp only [Region.cover, LineTable.region, LineTable.position_before_iff, Span.cover]
  rcases Nat.lt_or_ge b.start a.start with hs | hs <;>
    rcases Nat.lt_or_ge a.stop b.stop with he | he <;>
    simp [hs, he, Nat.not_lt.2, Nat.le_of_lt]

/-- The region is that of a part of the source, which reads `inside`. -/
def Region.Holds (r : Region) (source inside : List Char) : Prop :=
  ∃ before after, source = before ++ (inside ++ after) ∧
    r = ⟨⟨Text.byteLength before, Text.byteLength (before ++ inside)⟩, Text.positionBehind before,
      Text.positionBehind (before ++ inside)⟩

end Template
