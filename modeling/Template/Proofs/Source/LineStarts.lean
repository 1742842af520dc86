import Template.Proofs.Source.Regions
import Template.Proofs.Text.Places

/-!
Lines by counting and by searching. The line of an offset is the number of newlines among the bytes
before it, and its column the number of bytes behind the last of these. The search by halving among
the line starts finds that line, whether it meets the offset there or only the place where it would
be.
-/

namespace Template

namespace Text

/-- The byte of a newline, which no other character has in it. -/
def newline : UInt8 := 10

theorem bytes_toList (source : String) : bytes source.toList = source.toByteArray.data.toList := by
  have encoded : (bytes source.toList).toByteArray = source.toByteArray := String.utf8Encode_toList
  rw [← encoded, List.data_toByteArray]

theorem bytes_newline : String.utf8EncodeChar '\n' = [newline] := by decide

theorem newline_not_mem {c : Char} (hc : c ≠ '\n') : newline ∉ String.utf8EncodeChar c := by
  intro inside
  obtain ⟨front, back, split⟩ := List.append_of_mem inside
  cases front with
  | nil =>
      have same : String.utf8EncodeChar c ++ [] = String.utf8EncodeChar '\n' ++ back := by
        rw [List.append_nil, split, bytes_newline]
        rfl
      exact hc (encode_inj same).1
  | cons first front =>
      have here : (String.utf8EncodeChar c).drop (first :: front).length = newline :: back := by
        rw [split, List.drop_left]
      have shorter : (first :: front).length < (String.utf8EncodeChar c).length := by
        rw [split, List.length_append, List.length_cons (a := newline)]
        omega
      have start : bytes ['\n'] <+: (String.utf8EncodeChar c).drop (first :: front).length ++ [] := by
        rw [here, bytes_cons, bytes_newline, List.append_nil]
        exact ⟨back, rfl⟩
      exact not_prefix_inside (List.cons_ne_nil _ _) (Nat.succ_pos _) shorter [] start

end Text

namespace Position

/-- The position behind a byte that stands at the position. -/
def pastByte (p : Position) (b : UInt8) : Position :=
  if b = Text.newline then ⟨p.line + 1, 0⟩ else ⟨p.line, p.column + 1⟩

/-- The position behind the bytes: the lines that they end, and what they hold of the next. -/
def behindBytes (bytes : List UInt8) : Position :=
  ⟨bytes.count Text.newline, (bytes.rtakeWhile (· != Text.newline)).length⟩

theorem foldl_pastByte (bytes : List UInt8) : bytes.foldl pastByte ⟨0, 0⟩ = behindBytes bytes := by
  induction bytes using List.reverseRecOn with
  | nil => rfl
  | append_singleton bytes b ih =>
      rw [List.foldl_append, ih]
      by_cases hb : b = Text.newline
      · simp [behindBytes, pastByte, hb]
      · simp [behindBytes, pastByte, hb]

theorem foldl_pastByte_of_not_mem {bytes : List UInt8} (h : Text.newline ∉ bytes) (p : Position) :
    bytes.foldl pastByte p = ⟨p.line, p.column + bytes.length⟩ := by
  induction bytes generalizing p with
  | nil => rfl
  | cons b bytes ih =>
      obtain ⟨hb, rest⟩ := not_or.1 (mt List.mem_cons.2 h)
      rw [List.foldl_cons, ih rest, pastByte, if_neg (Ne.symm hb), List.length_cons]
      simp only [Position.mk.injEq, true_and]
      omega

/-- The bytes of a character lead past it. -/
theorem foldl_pastByte_encode (c : Char) (p : Position) :
    (String.utf8EncodeChar c).foldl pastByte p = p.past c := by
  by_cases hc : c = '\n'
  · rw [hc, Text.bytes_newline, past, if_pos rfl]
    rfl
  · rw [foldl_pastByte_of_not_mem (Text.newline_not_mem hc), past, if_neg hc,
      String.length_utf8EncodeChar]

end Position

namespace LineTable

theorem le_of_mem_breaksFrom {offset next : Nat} {c : Char} {cs : List Char}
    (h : next ∈ breaksFrom offset (c :: cs)) : offset + c.utf8Size ≤ next := by
  rw [breaksFrom] at h
  split at h
  · rcases List.mem_cons.1 h with rfl | h
    · exact Nat.le_refl _
    · exact (lt_of_mem_breaksFrom h).le
  · exact (lt_of_mem_breaksFrom h).le

/-- The walk over the lines stops where a walk over the bytes does, also inside a character. -/
theorem positionFrom_bytes {line start offset n : Nat} {cs : List Char} (hs : start ≤ offset)
    (hn : n ≤ Text.byteLength cs) :
    positionFrom line start (offset + n) (breaksFrom offset cs) =
      ((Text.bytes cs).take n).foldl Position.pastByte ⟨line, offset - start⟩ := by
  induction cs generalizing line start offset n with
  | nil =>
      obtain rfl : n = 0 := Nat.le_zero.1 hn
      rfl
  | cons c cs ih =>
      have width : (String.utf8EncodeChar c).length = c.utf8Size := String.length_utf8EncodeChar c
      rw [Text.bytes_cons, List.take_append, width]
      rcases Nat.lt_or_ge n c.utf8Size with inside | past
      · -- no line ends inside a character, so all of these bytes count for the column
        have ahead : ∀ next ∈ breaksFrom offset (c :: cs), offset + n < next := fun next h =>
          (Nat.add_lt_add_left inside offset).trans_le (le_of_mem_breaksFrom h)
        have clean : Text.newline ∉ (String.utf8EncodeChar c).take n := by
          by_cases hc : c = '\n'
          · obtain rfl : n = 0 := by
              rw [hc] at inside
              exact Nat.lt_one_iff.1 inside
            exact List.not_mem_nil
          · exact fun h => Text.newline_not_mem hc (List.mem_of_mem_take h)
        rw [positionFrom_of_lt ahead, Nat.sub_eq_zero_of_le inside.le, List.take_zero,
          List.append_nil, Position.foldl_pastByte_of_not_mem clean, List.length_take, width,
          Nat.min_eq_left inside.le, Nat.sub_add_comm hs]
      · obtain ⟨m, rfl⟩ := Nat.exists_eq_add_of_le past
        have rest : m ≤ Text.byteLength cs := by
          rw [Text.byteLength] at hn
          omega
        rw [List.take_of_length_le (width ▸ past), List.foldl_append,
          Position.foldl_pastByte_encode, Nat.add_sub_cancel_left, ← Nat.add_assoc, breaksFrom]
        by_cases hc : c = '\n'
        · rw [if_pos hc, positionFrom, if_pos (Nat.le_add_right _ _), ih (Nat.le_refl _) rest,
            Position.past, if_pos hc, Nat.sub_self]
        · rw [if_neg hc, ih (hs.trans (Nat.le_add_right _ _)) rest, Position.past, if_neg hc,
            Nat.sub_add_comm hs]

/-- The position of an offset tells how many newlines there are before it, and how far behind the
last of them it is. -/
theorem position_ofChars {cs : List Char} {offset : Nat} (h : offset ≤ Text.byteLength cs) :
    (ofChars cs).position offset = Position.behindBytes ((Text.bytes cs).take offset) := by
  have walk : positionFrom 0 0 (0 + offset) (breaksFrom 0 cs) =
      ((Text.bytes cs).take offset).foldl Position.pastByte ⟨0, 0 - 0⟩ :=
    positionFrom_bytes (Nat.le_refl 0) h
  rw [Nat.zero_add, Nat.sub_self, Position.foldl_pastByte] at walk
  rw [position_eq_positionFrom]
  exact walk

/-- The position of an offset inside a source counts the newlines before it and the bytes behind the
last of these, and it is the one that a search by halving among the line starts finds. A later offset
has a later position. So regions of the source are joined as their spans are, whichever comes first,
however they are grouped, and a region joined with itself stays the same. -/
theorem position_counts (source : String) :
    let t : LineTable := ofSource source
    let bytes := source.toByteArray.data.toList
    (∀ offset ≤ bytes.length,
      (t.position offset).line = (bytes.take offset).count Text.newline ∧
      (t.position offset).column =
        ((bytes.take offset).rtakeWhile (· != Text.newline)).length) ∧
    (∀ offset,
      let line := (search t.starts offset 0 t.lineCount).line
      t.position offset = ⟨line, offset - t.starts.getD line 0⟩ ∧ InLine t.starts offset line) ∧
    (∀ m n, (t.position m).before (t.position n) ↔ m < n) ∧
    (∀ a b : Span, (t.region a).cover (t.region b) =
      t.region ⟨min a.start b.start, max a.stop b.stop⟩) ∧
    (∀ a b : Span, (t.region a).cover (t.region b) = (t.region b).cover (t.region a)) ∧
    (∀ a b c : Span, ((t.region a).cover (t.region b)).cover (t.region c) =
      (t.region a).cover ((t.region b).cover (t.region c))) ∧
    ∀ a : Span, (t.region a).cover (t.region a) = t.region a := by
  intro t bytes
  have same : bytes = Text.bytes source.toList := (Text.bytes_toList source).symm
  refine ⟨fun offset h => ?_, fun offset => ⟨rfl, t.search_inLine offset⟩,
    t.position_before_iff, t.region_cover, fun a b => ?_, fun a b c => ?_, fun a => ?_⟩
  · rw [same, Text.length_bytes] at h
    have counted : t.position offset = Position.behindBytes (bytes.take offset) :=
      same ▸ position_ofChars h
    rw [counted]
    exact ⟨rfl, rfl⟩
  · simp only [region_cover, Span.cover, min_comm a.start, max_comm a.stop]
  · simp only [region_cover, Span.cover, min_assoc, max_assoc]
  · simp only [region_cover, Span.cover, min_self, max_self]

/-- An offset right behind a newline, in a source with an empty line and a character of two bytes. -/
theorem position_counts_emptyLine :
    (6 ≤ "a\né\n\nb".toByteArray.data.toList.length) ∧
      (ofSource "a\né\n\nb").position 6 = ⟨3, 0⟩ := by
  have inside : 6 ≤ "a\né\n\nb".toByteArray.data.toList.length := by decide
  obtain ⟨line, column⟩ := (position_counts "a\né\n\nb").1 6 inside
  exact ⟨inside, congrArg₂ Position.mk (line.trans (by decide)) (column.trans (by decide))⟩

end LineTable

end Template
