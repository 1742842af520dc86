import Mathlib.Order.Nat
import Template.Source.LineTable

/-!
The search among line starts. It keeps the offset between the starts on its two sides, and so it ends
in the line of the offset, where a walk from the first line on ends as well.
-/

namespace Template.LineTable

/-- Walks the remaining line starts from line `line`, which starts at `start`. -/
def positionFrom (line start offset : Nat) : List Nat → Position
  | [] => ⟨line, offset - start⟩
  | next :: rest =>
    if next ≤ offset then positionFrom (line + 1) next offset rest else ⟨line, offset - start⟩

/-- The line starts at or before the offset, and the next one behind it. -/
structure InLine (starts : List Nat) (offset line : Nat) : Prop where
  begun : ∃ start ∈ starts[line]?, start ≤ offset
  ahead : ∀ next ∈ starts[line + 1]?, offset < next

/-- The offset is behind the starts before `low` and in front of those from `high` on. -/
structure Bracket (starts : List Nat) (offset low high : Nat) : Prop where
  le : low ≤ high
  le_length : high ≤ starts.length
  behind : ∀ i < low, ∀ start ∈ starts[i]?, start < offset
  front : ∀ i, high ≤ i → ∀ start ∈ starts[i]?, offset < start

section Search

variable {starts : List Nat} {offset low high : Nat}

theorem getElem_lt_of_sorted (sorted : starts.Pairwise (· < ·)) {i j s t : Nat}
    (hi : s ∈ starts[i]?) (hj : t ∈ starts[j]?) (hij : i < j) : s < t := by
  obtain ⟨bi, rfl⟩ := List.getElem?_eq_some_iff.1 hi
  obtain ⟨bj, rfl⟩ := List.getElem?_eq_some_iff.1 hj
  exact List.pairwise_iff_getElem.1 sorted i j bi bj hij

/-- A bracket that is closed has the line in front of it. -/
theorem Bracket.inLine_front (first : starts[0]? = some 0) (h : Bracket starts offset low low) :
    InLine starts offset (Found.front low).line := by
  cases low with
  | zero => exact absurd (h.front 0 (Nat.le_refl 0) 0 first) (Nat.not_lt_zero offset)
  | succ line =>
      have here := List.getElem?_eq_getElem (Nat.lt_of_succ_le h.le_length)
      exact ⟨⟨_, here, (h.behind line (Nat.lt_succ_self line) _ here).le⟩,
        h.front (line + 1) (Nat.le_refl _)⟩

/-- The search closes in on the line, which is the one before the place that is left. -/
theorem Bracket.inLine (sorted : starts.Pairwise (· < ·)) (first : starts[0]? = some 0)
    (h : Bracket starts offset low high) {steps : Nat} (enough : high - low ≤ steps) :
    InLine starts offset (searchWithin starts offset steps low high).line := by
  induction steps generalizing low high with
  | zero =>
      obtain rfl : low = high := le_antisymm h.le (Nat.sub_eq_zero_iff_le.1 (Nat.le_zero.1 enough))
      exact h.inLine_front first
  | succ steps ih =>
      rw [searchWithin]
      by_cases more : low < high
      · rw [if_pos more]
        obtain ⟨middle, hm⟩ : ∃ middle, middle = low + (high - low) / 2 := ⟨_, rfl⟩
        have low_le : low ≤ middle := by omega
        have lt_high : middle < high := by omega
        have here : starts.getD middle 0 ∈ starts[middle]? := by
          have bound : middle < starts.length := lt_high.trans_le h.le_length
          rw [List.getD_eq_getElem?_getD, List.getElem?_eq_getElem bound]
          rfl
        rw [← hm]
        dsimp only
        split
        next same =>
          have same := Nat.compare_eq_eq.1 same
          refine ⟨⟨_, here, same.le⟩, fun next hnext => ?_⟩
          exact same ▸ getElem_lt_of_sorted sorted here hnext (Nat.lt_succ_self middle)
        next less =>
          have less := Nat.compare_eq_lt.1 less
          refine ih ⟨lt_high, h.le_length, fun i hi start hs => ?_, h.front⟩ (by omega)
          rcases Nat.lt_or_eq_of_le (Nat.le_of_lt_succ hi) with hi | rfl
          · exact (getElem_lt_of_sorted sorted hs here hi).trans less
          · exact Option.some.inj (hs.symm.trans here) ▸ less
        next greater =>
          have greater := Nat.compare_eq_gt.1 greater
          refine ih ⟨low_le, by have := h.le_length; omega, h.behind, ?_⟩ (by omega)
          intro i hi start hs
          rcases Nat.lt_or_eq_of_le hi with hi | rfl
          · exact greater.trans (getElem_lt_of_sorted sorted here hs hi)
          · exact Option.some.inj (hs.symm.trans here) ▸ greater
      · rw [if_neg more]
        obtain rfl : low = high := le_antisymm h.le (Nat.not_lt.1 more)
        exact h.inLine_front first

end Search

theorem search_inLine (t : LineTable) (offset : Nat) :
    InLine t.starts offset (search t.starts offset 0 t.lineCount).line := by
  have bracket : Bracket t.starts offset 0 t.lineCount := by
    refine ⟨Nat.zero_le _, Nat.le_refl _, nofun, fun i hi start hs => ?_⟩
    obtain ⟨bound, -⟩ := List.getElem?_eq_some_iff.1 hs
    exact absurd hi (Nat.not_le.2 bound)
  exact bracket.inLine t.sorted rfl (Nat.le_refl _)

/-- The walk ends in the line that the offset is in. -/
theorem positionFrom_of_inLine {line start offset k : Nat} {rest : List Nat}
    (sorted : (start :: rest).Pairwise (· < ·)) (h : InLine (start :: rest) offset k) :
    positionFrom line start offset rest = ⟨line + k, offset - (start :: rest).getD k 0⟩ := by
  induction rest generalizing line start k with
  | nil =>
      cases k with
      | zero => rfl
      | succ k =>
          obtain ⟨s, hs, -⟩ := h.begun
          cases hs
  | cons next rest ih =>
      cases k with
      | zero =>
          rw [positionFrom, if_neg (Nat.not_le.2 (h.ahead next rfl))]
          rfl
      | succ k =>
          obtain ⟨s, hs, le⟩ := h.begun
          have later := (List.pairwise_cons.1 sorted).2
          have reached : next ≤ offset := by
            cases k with
            | zero => exact Option.some.inj hs ▸ le
            | succ k =>
                have := getElem_lt_of_sorted later (i := 0) rfl hs (Nat.succ_pos k)
                omega
          rw [positionFrom, if_pos reached, ih later ⟨⟨s, hs, le⟩, h.ahead⟩]
          simp only [List.getD_cons_succ, Position.mk.injEq, and_true]
          omega

/-- Halving finds what walking finds. -/
theorem position_eq_positionFrom (t : LineTable) (offset : Nat) :
    t.position offset = positionFrom 0 0 offset t.breaks := by
  rw [positionFrom_of_inLine t.sorted (t.search_inLine offset), Nat.zero_add]
  rfl

end Template.LineTable
