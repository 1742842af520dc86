import Template.Proofs.Token.Pieces
import Template.Text.Search

/-!
Where one text stands in another. The search from the front finds the first place and the search
from the back the last one. A search through the bytes ends behind as many characters as one through
the characters: no text that starts inside a character stands there in bytes.
-/

namespace Template.Text

/-- The needle starts behind `n` elements. -/
def StandsAt {α : Type} (needle xs : List α) (n : Nat) : Prop := n ≤ xs.length ∧ needle <+: xs.drop n

section Search

variable {α : Type} {needle xs : List α} {n : Nat}

theorem standsAt_nil : StandsAt needle [] n ↔ n = 0 ∧ needle = [] := by
  simp [StandsAt]

theorem standsAt_zero : StandsAt needle xs 0 ↔ needle <+: xs := by
  simp [StandsAt]

theorem standsAt_succ {x : α} : StandsAt needle (x :: xs) (n + 1) ↔ StandsAt needle xs n := by
  simp [StandsAt]

variable [BEq α] [LawfulBEq α]

theorem firstStart?_eq_none_iff : firstStart? needle xs = none ↔ ∀ n, ¬StandsAt needle xs n := by
  induction xs with
  | nil =>
      cases needle with
      | nil => simp [firstStart?, standsAt_nil]
      | cons x needle => simp [firstStart?, standsAt_nil]
  | cons x xs ih =>
      rw [firstStart?]
      by_cases here : needle <+: x :: xs
      · rw [if_pos (List.isPrefixOf_iff_prefix.2 here)]
        exact ⟨nofun, fun absent => absurd (standsAt_zero.2 here) (absent 0)⟩
      · rw [if_neg (mt List.isPrefixOf_iff_prefix.1 here), Option.map_eq_none_iff, ih]
        constructor
        · intro absent n
          cases n with
          | zero => exact mt standsAt_zero.1 here
          | succ n => exact mt standsAt_succ.1 (absent n)
        · exact fun absent n stands => absent (n + 1) (standsAt_succ.2 stands)

/-- The place that is found is the first. -/
theorem first_of_firstStart? (h : firstStart? needle xs = some n) :
    StandsAt needle xs n ∧ ∀ k < n, ¬StandsAt needle xs k := by
  induction xs generalizing n with
  | nil =>
      rw [firstStart?] at h
      split at h
      · next empty =>
        cases h
        exact ⟨standsAt_nil.2 ⟨rfl, List.isEmpty_iff.1 empty⟩, nofun⟩
      · cases h
  | cons x xs ih =>
      rw [firstStart?] at h
      by_cases here : needle <+: x :: xs
      · rw [if_pos (List.isPrefixOf_iff_prefix.2 here)] at h
        cases h
        exact ⟨standsAt_zero.2 here, nofun⟩
      · rw [if_neg (mt List.isPrefixOf_iff_prefix.1 here)] at h
        obtain ⟨m, hm, rfl⟩ := Option.map_eq_some_iff.1 h
        obtain ⟨stands, before⟩ := ih hm
        refine ⟨standsAt_succ.2 stands, fun k hk => ?_⟩
        cases k with
        | zero => exact mt standsAt_zero.1 here
        | succ k => exact mt standsAt_succ.1 (before k (Nat.lt_of_succ_lt_succ hk))

theorem firstStart?_eq_some_iff :
    firstStart? needle xs = some n ↔ StandsAt needle xs n ∧ ∀ k < n, ¬StandsAt needle xs k := by
  refine ⟨first_of_firstStart?, fun ⟨stands, before⟩ => ?_⟩
  cases hf : firstStart? needle xs with
  | none => exact absurd stands (firstStart?_eq_none_iff.1 hf n)
  | some m =>
      obtain ⟨there, earlier⟩ := first_of_firstStart? hf
      have one : m = n := Nat.le_antisymm (Nat.not_lt.1 fun less => earlier n less stands)
        (Nat.not_lt.1 fun less => before m less there)
      rw [one]

theorem lastStart?_eq_none_iff : lastStart? needle xs = none ↔ ∀ n, ¬StandsAt needle xs n := by
  induction xs with
  | nil =>
      cases needle with
      | nil => simp [lastStart?, standsAt_nil]
      | cons x needle => simp [lastStart?, standsAt_nil]
  | cons x xs ih =>
      rw [lastStart?]
      cases hl : lastStart? needle xs with
      | some m =>
          refine ⟨nofun, fun absent => ?_⟩
          rw [ih.2 fun n stands => absent (n + 1) (standsAt_succ.2 stands)] at hl
          cases hl
      | none =>
          have behind := ih.1 hl
          simp only [ite_eq_right_iff, reduceCtorEq, imp_false, List.isPrefixOf_iff_prefix]
          constructor
          · intro here n
            cases n with
            | zero => exact mt standsAt_zero.1 here
            | succ n => exact mt standsAt_succ.1 (behind n)
          · exact fun absent => mt standsAt_zero.2 (absent 0)

/-- The place that is found is the last. -/
theorem last_of_lastStart? (h : lastStart? needle xs = some n) :
    StandsAt needle xs n ∧ ∀ k, n < k → ¬StandsAt needle xs k := by
  induction xs generalizing n with
  | nil =>
      rw [lastStart?] at h
      split at h
      · next empty =>
        cases h
        refine ⟨standsAt_nil.2 ⟨rfl, List.isEmpty_iff.1 empty⟩, fun k hk stands => ?_⟩
        exact absurd (standsAt_nil.1 stands).1 (Nat.ne_of_gt hk)
      · cases h
  | cons x xs ih =>
      rw [lastStart?] at h
      cases hl : lastStart? needle xs with
      | some m =>
          rw [hl] at h
          cases h
          obtain ⟨stands, behind⟩ := ih hl
          refine ⟨standsAt_succ.2 stands, fun k hk => ?_⟩
          cases k with
          | zero => cases hk
          | succ k => exact mt standsAt_succ.1 (behind k (Nat.lt_of_succ_lt_succ hk))
      | none =>
          rw [hl] at h
          simp only [Option.ite_none_right_eq_some, Option.some.injEq] at h
          obtain ⟨here, rfl⟩ := h
          refine ⟨standsAt_zero.2 (List.isPrefixOf_iff_prefix.1 here), fun k hk => ?_⟩
          cases k with
          | zero => cases hk
          | succ k => exact mt standsAt_succ.1 (lastStart?_eq_none_iff.1 hl k)

theorem lastStart?_eq_some_iff :
    lastStart? needle xs = some n ↔ StandsAt needle xs n ∧ ∀ k, n < k → ¬StandsAt needle xs k := by
  refine ⟨last_of_lastStart?, fun ⟨stands, behind⟩ => ?_⟩
  cases hl : lastStart? needle xs with
  | none => exact absurd stands (lastStart?_eq_none_iff.1 hl n)
  | some m =>
      obtain ⟨there, later⟩ := last_of_lastStart? hl
      have one : m = n := Nat.le_antisymm (Nat.not_lt.1 fun more => behind m more there)
        (Nat.not_lt.1 fun more => later n more stands)
      rw [one]

end Search

section Bytes

theorem bytes_cons (c : Char) (cs : List Char) :
    bytes (c :: cs) = String.utf8EncodeChar c ++ bytes cs := List.flatMap_cons

theorem length_bytes (cs : List Char) : (bytes cs).length = byteLength cs := by
  induction cs with
  | nil => rfl
  | cons c cs ih =>
      rw [bytes_cons, List.length_append, ih, String.length_utf8EncodeChar, byteLength]

/-- The bytes of a character tell where they end. -/
theorem encode_inj {c d : Char} {a b : List UInt8}
    (h : String.utf8EncodeChar c ++ a = String.utf8EncodeChar d ++ b) : c = d ∧ a = b := by
  have decoded (e : Char) (more : List UInt8) :
      (String.utf8EncodeChar e ++ more).toByteArray.utf8DecodeChar? 0 = some e := by
    rw [List.toByteArray_append]
    exact ByteArray.utf8DecodeChar?_utf8EncodeChar_append
  have same : c = d := by
    have first := decoded c a
    rw [h, decoded d b] at first
    exact (Option.some.inj first).symm
  subst same
  exact ⟨rfl, List.append_cancel_left h⟩

theorem bytes_append (a b : List Char) : bytes (a ++ b) = bytes a ++ bytes b := List.flatMap_append

theorem bytes_prefix_iff {a b : List Char} : bytes a <+: bytes b ↔ a <+: b := by
  constructor
  · intro h
    induction a generalizing b with
    | nil => exact List.nil_prefix
    | cons c a ih =>
        obtain ⟨rest, he⟩ := h
        rw [bytes_cons, List.append_assoc] at he
        cases b with
        | nil => exact absurd (List.append_eq_nil_iff.1 he).1 String.utf8EncodeChar_ne_nil
        | cons d b =>
            rw [bytes_cons] at he
            obtain ⟨rfl, behind⟩ := encode_inj he
            exact List.cons_prefix_cons.2 ⟨rfl, ih ⟨rest, behind⟩⟩
  · intro h
    obtain ⟨rest, rfl⟩ := h
    exact ⟨bytes rest, (bytes_append a rest).symm⟩

/-- No text starts at a byte inside a character. -/
theorem not_prefix_inside {needle : List Char} (hn : needle ≠ []) {c : Char} {k : Nat}
    (hk : 0 < k) (hl : k < (String.utf8EncodeChar c).length) (more : List UInt8) :
    ¬bytes needle <+: (String.utf8EncodeChar c).drop k ++ more := by
  intro h
  obtain ⟨d, needle, rfl⟩ := List.exists_cons_of_ne_nil hn
  obtain ⟨rest, he⟩ := h
  have first : 0 < (String.utf8EncodeChar d).length :=
    List.length_pos_iff.2 String.utf8EncodeChar_ne_nil
  have here : 0 < ((String.utf8EncodeChar c).drop k).length := by
    rw [List.length_drop]
    omega
  have same := congrArg (·[0]?) he
  simp only [bytes_cons, List.append_assoc, List.getElem?_append_left first,
    List.getElem?_append_left here, List.getElem?_drop, Nat.add_zero,
    List.getElem?_eq_getElem first, List.getElem?_eq_getElem hl, Option.some.injEq] at same
  have start : ((String.utf8EncodeChar d)[0]).IsUTF8FirstByte :=
    UInt8.isUTF8FirstByte_getElem_utf8EncodeChar.2 rfl
  rw [same, UInt8.isUTF8FirstByte_getElem_utf8EncodeChar] at start
  exact absurd start (Nat.ne_of_gt hk)

/-- Where a text stands in another in bytes, it stands in characters. -/
theorem standsAt_bytes {needle : List Char} (hn : needle ≠ []) {cs : List Char} {k : Nat} :
    StandsAt (bytes needle) (bytes cs) k ↔
      ∃ n, StandsAt needle cs n ∧ k = byteLength (cs.take n) := by
  constructor
  · rintro ⟨-, h⟩
    induction cs generalizing k with
    | nil =>
        have empty : needle <+: [] := bytes_prefix_iff.1 (by simpa [bytes] using h)
        exact absurd (List.prefix_nil.1 empty) hn
    | cons c cs ih =>
        rcases Nat.eq_zero_or_pos k with rfl | hk
        · exact ⟨0, standsAt_zero.2 (bytes_prefix_iff.1 h), rfl⟩
        · rw [bytes_cons] at h
          by_cases inside : k < (String.utf8EncodeChar c).length
          · rw [List.drop_append_of_le_length (Nat.le_of_lt inside)] at h
            exact absurd h (not_prefix_inside hn hk inside _)
          · have past := Nat.not_lt.1 inside
            rw [List.drop_append, List.drop_eq_nil_of_le past, List.nil_append] at h
            obtain ⟨n, stands, he⟩ := ih h
            refine ⟨n + 1, standsAt_succ.2 stands, ?_⟩
            rw [String.length_utf8EncodeChar] at past he
            rw [List.take_succ_cons, byteLength]
            omega
  · intro h
    obtain ⟨n, stands, rfl⟩ := h
    have whole : bytes cs = bytes (cs.take n) ++ bytes (cs.drop n) := by
      rw [← bytes_append, List.take_append_drop]
    rw [whole, ← length_bytes]
    refine ⟨?_, ?_⟩
    · rw [List.length_append]
      exact Nat.le_add_right ..
    · rw [List.drop_left]
      exact bytes_prefix_iff.2 stands.2

theorem byteLength_take_le (cs : List Char) {m n : Nat} (h : m ≤ n) :
    byteLength (cs.take m) ≤ byteLength (cs.take n) := by
  have whole : cs.take n = cs.take m ++ (cs.take n).drop m := by
    have front : (cs.take n).take m = cs.take m := by rw [List.take_take, Nat.min_eq_left h]
    rw [← front, List.take_append_drop]
  rw [whole, byteLength_append]
  exact Nat.le_add_right ..

theorem charIndex?_take {cs : List Char} {n : Nat} (hn : n ≤ cs.length) :
    charIndex? cs (byteLength (cs.take n)) = some n := by
  have front := takeBytes?_append (cs.take n) (cs.drop n)
  rw [List.take_append_drop] at front
  rw [charIndex?, front, Option.map_some, List.length_take_of_le hn]

/-- Two places in bytes are in the order of the characters in front of them. -/
theorem lt_of_byteLength_take {cs : List Char} {m n : Nat}
    (h : byteLength (cs.take m) < byteLength (cs.take n)) : m < n := by
  by_contra hle
  exact absurd (byteLength_take_le cs (Nat.not_lt.1 hle)) (Nat.not_le.2 h)

theorem firstStart?_nil_left {α : Type} [BEq α] (xs : List α) : firstStart? [] xs = some 0 := by
  cases xs <;> rfl

theorem lastStart?_nil_left {α : Type} [BEq α] (xs : List α) :
    lastStart? [] xs = some xs.length := by
  induction xs with
  | nil => rfl
  | cons x xs ih => rw [lastStart?, ih, List.length_cons]

/-- A search through the bytes finds nothing where one through the characters finds nothing. -/
theorem not_standsAt_bytes {needle : List Char} (hn : needle ≠ []) {cs : List Char}
    (h : ∀ n, ¬StandsAt needle cs n) (k : Nat) : ¬StandsAt (bytes needle) (bytes cs) k := by
  intro stands
  obtain ⟨n, hs, -⟩ := (standsAt_bytes hn).1 stands
  exact h n hs

/-- A search through the bytes from the front ends behind as many characters. -/
theorem firstStart?_bytes (needle cs : List Char) :
    firstStart? (bytes needle) (bytes cs) =
      (firstStart? needle cs).map fun n => byteLength (cs.take n) := by
  rcases eq_or_ne needle [] with rfl | hn
  · rw [firstStart?_nil_left]
    exact firstStart?_nil_left (bytes cs)
  cases hf : firstStart? needle cs with
  | none => exact firstStart?_eq_none_iff.2 (not_standsAt_bytes hn (firstStart?_eq_none_iff.1 hf))
  | some n =>
      obtain ⟨stands, before⟩ := first_of_firstStart? hf
      refine firstStart?_eq_some_iff.2 ⟨(standsAt_bytes hn).2 ⟨n, stands, rfl⟩, fun k hk he => ?_⟩
      obtain ⟨m, hm, rfl⟩ := (standsAt_bytes hn).1 he
      exact before m (lt_of_byteLength_take hk) hm

/-- A search through the bytes from the back does, too. -/
theorem lastStart?_bytes (needle cs : List Char) :
    lastStart? (bytes needle) (bytes cs) =
      (lastStart? needle cs).map fun n => byteLength (cs.take n) := by
  rcases eq_or_ne needle [] with rfl | hn
  · rw [lastStart?_nil_left, Option.map_some, List.take_length, ← length_bytes]
    exact lastStart?_nil_left (bytes cs)
  cases hl : lastStart? needle cs with
  | none => exact lastStart?_eq_none_iff.2 (not_standsAt_bytes hn (lastStart?_eq_none_iff.1 hl))
  | some n =>
      obtain ⟨stands, behind⟩ := last_of_lastStart? hl
      refine lastStart?_eq_some_iff.2 ⟨(standsAt_bytes hn).2 ⟨n, stands, rfl⟩, fun k hk he => ?_⟩
      obtain ⟨m, hm, rfl⟩ := (standsAt_bytes hn).1 he
      exact behind m (lt_of_byteLength_take hk) hm

/-- Searching the bytes and counting the characters in front is searching the characters. -/
theorem indexOf?_eq (needle cs : List Char) : indexOf? needle cs = firstStart? needle cs := by
  rw [indexOf?, firstStart?_bytes]
  cases hf : firstStart? needle cs with
  | none => rfl
  | some n => exact charIndex?_take (first_of_firstStart? hf).1.1

theorem lastIndexOf?_eq (needle cs : List Char) : lastIndexOf? needle cs = lastStart? needle cs := by
  rw [lastIndexOf?, lastStart?_bytes]
  cases hl : lastStart? needle cs with
  | none => rfl
  | some n => exact charIndex?_take (last_of_lastStart? hl).1.1

end Bytes

section Answers

variable {needle cs : List Char} {n : Nat}

theorem first_of_indexOf? (h : indexOf? needle cs = some n) :
    StandsAt needle cs n ∧ ∀ k < n, ¬StandsAt needle cs k :=
  first_of_firstStart? (indexOf?_eq needle cs ▸ h)

theorem last_of_lastIndexOf? (h : lastIndexOf? needle cs = some n) :
    StandsAt needle cs n ∧ ∀ k, n < k → ¬StandsAt needle cs k :=
  last_of_lastStart? (lastIndexOf?_eq needle cs ▸ h)

/-- A text is contained in another where a place is found for it. -/
theorem indexOf?_isSome : (indexOf? needle cs).isSome = contains needle cs := by
  rw [indexOf?_eq, contains, firstStart?_bytes, Option.isSome_map]

/-- One search finds the text where the other does. -/
theorem lastIndexOf?_isSome : (lastIndexOf? needle cs).isSome = contains needle cs := by
  have same : lastStart? needle cs = none ↔ firstStart? needle cs = none :=
    lastStart?_eq_none_iff.trans firstStart?_eq_none_iff.symm
  rw [← indexOf?_isSome, indexOf?_eq, lastIndexOf?_eq, Bool.eq_iff_iff,
    ← not_iff_not, Option.not_isSome_iff_eq_none, Option.not_isSome_iff_eq_none, same]

end Answers

end Template.Text
