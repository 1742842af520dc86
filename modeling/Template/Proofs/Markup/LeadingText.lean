import Template.Proofs.Markup.Lines
import Template.Proofs.Markup.RoundTrip
import Template.Proofs.Token.Slashes

/-!
The text at the front of a template. Characters without a meaning are read as text that says the
same; the tokens of text at the front of a template are its first segment; and if that text holds
more than blanks in its last line, gobbling leaves it.
-/

namespace Template

namespace Lexer

/-- The characters stand for themselves. Behind them the source ends, or a run of backslashes
begins. -/
structure Literal (before rest : List Char) : Prop where
  hash : '#' ∉ before
  dollar : '$' ∉ before
  apart : rest = [] ∨ rest.head? = some '\\' ∧ before.getLast? ≠ some '\\'

theorem Literal.of_append {front back rest : List Char} (h : Literal (front ++ back) rest) :
    Literal back rest where
  hash hm := h.hash (List.mem_append_right _ hm)
  dollar hm := h.dollar (List.mem_append_right _ hm)
  apart := h.apart.imp_right fun ⟨slash, last⟩ =>
    ⟨slash, fun hl => last (by rw [List.getLast?_append, hl]; rfl)⟩

/-- A run of backslashes ends where the literal characters do, or before. -/
theorem Literal.exists_run {cs rest : List Char} (h : Literal ('\\' :: cs) rest) :
    ∃ more back, cs = List.replicate more '\\' ++ back ∧ (back ++ rest).head? ≠ some '\\' ∧
      (back ++ rest).head? ≠ some '#' := by
  have split : cs.takeWhile (· == '\\') ++ cs.dropWhile (· == '\\') = cs :=
    List.takeWhile_append_dropWhile
  have slashes : cs.takeWhile (· == '\\') =
      List.replicate (cs.takeWhile (· == '\\')).length '\\' :=
    List.eq_replicate_iff.2 ⟨rfl, fun c hc => by simpa using List.mem_takeWhile_imp hc⟩
  refine ⟨_, cs.dropWhile (· == '\\'), by rw [← slashes, split], ?_⟩
  cases behind : cs.dropWhile (· == '\\') with
  | nil =>
      rw [behind, List.append_nil] at split
      rw [split] at slashes
      rcases h.apart with rfl | ⟨-, last⟩
      · exact ⟨nofun, nofun⟩
      · rw [slashes, ← List.replicate_succ, List.getLast?_replicate, if_neg (by simp)] at last
        exact absurd rfl last
  | cons d back =>
      refine ⟨fun he => ?_, fun he => ?_⟩
      · have head := List.head_dropWhile_not (· == '\\') (l := cs) (by simp [behind])
        rw [List.cons_append, List.head?_cons, Option.some_inj] at he
        simp [behind, he] at head
      · rw [List.cons_append, List.head?_cons, Option.some_inj] at he
        exact h.hash (List.mem_cons_of_mem _ (by rw [← split, behind, he]; simp))

/-- Where no hash sign follows, some of the backslashes are a token. -/
theorem exists_slashStep (more : Nat) {rest : List Char} (hr : rest.head? ≠ some '#') :
    ∃ taken ≤ more, slashStep more rest =
      .emit (.text (String.ofList (List.replicate (taken + 1) '\\'))) taken .text := by
  have plain : slashStep more rest =
      if more = 0 then .emit (.text "\\") 0 .text
      else .emit (.text (String.ofList
          (List.replicate (pairedSlashes rest.isEmpty (more + 1)) '\\')))
        (pairedSlashes rest.isEmpty (more + 1) - 1) .text := by
    cases rest with
    | nil => simp [slashStep]
    | cons d rest =>
        have other : d ≠ '#' := fun he => hr (congrArg some he)
        simp [slashStep, other]
  rw [plain]
  split
  · exact ⟨0, Nat.zero_le _, rfl⟩
  · have bounds : 1 ≤ pairedSlashes rest.isEmpty (more + 1) ∧
        pairedSlashes rest.isEmpty (more + 1) ≤ more + 1 := by
      simp only [pairedSlashes, Bool.and_eq_true, beq_iff_eq, decide_eq_true_eq]
      split <;> omega
    refine ⟨pairedSlashes rest.isEmpty (more + 1) - 1, by omega, ?_⟩
    rw [Nat.sub_add_cancel bounds.1]

theorem takeWhile_append_of_head {f : Char → Bool} (cs : List Char) {rest : List Char}
    (hr : ∀ d ∈ rest.head?, f d = false) : (cs ++ rest).takeWhile f = cs.takeWhile f := by
  induction cs with
  | nil =>
      cases rest with
      | nil => rfl
      | cons d rest => exact List.takeWhile_cons_of_neg (by simp [hr d rfl])
  | cons c cs ih => simp only [List.cons_append, List.takeWhile_cons, ih]

/-- The first token of literal characters is text that says what it is spelled with. -/
theorem exists_textStep_of_literal {c : Char} {cs rest : List Char} (h : Literal (c :: cs) rest) :
    ∃ front back t, cs = front ++ back ∧
      textStep c (cs ++ rest) = .emit t front.length .text ∧ t.isText ∧
      t.literalText? = some (String.ofList (c :: front)) := by
  have hash : c ≠ '#' := fun he => h.hash (by simp [he])
  have dollar : c ≠ '$' := fun he => h.dollar (by simp [he])
  by_cases slash : c = '\\'
  · subst slash
    obtain ⟨slashes, back, rfl, ends, plain⟩ := h.exists_run
    obtain ⟨taken, few, step⟩ := exists_slashStep slashes plain
    refine ⟨List.replicate taken '\\', List.replicate (slashes - taken) '\\' ++ back,
      .text (String.ofList (List.replicate (taken + 1) '\\')), ?_, ?_, rfl, rfl⟩
    · rw [← List.append_assoc, List.replicate_append_replicate, Nat.add_sub_cancel' few]
    · rw [List.append_assoc, textStep_slashes slashes ends, step, List.length_replicate]
  · by_cases newline : c = '\n'
    · subst newline
      exact ⟨[], cs, .newline, rfl, rfl, rfl, rfl⟩
    · have run : (cs ++ rest).takeWhile isPlain = cs.takeWhile isPlain := by
        refine takeWhile_append_of_head cs fun d hd => ?_
        rcases h.apart with rfl | ⟨slash, -⟩
        · cases hd
        · rw [slash] at hd
          cases hd
          decide
      refine ⟨cs.takeWhile isPlain, cs.dropWhile isPlain,
        .text (String.ofList (c :: cs.takeWhile isPlain)),
        List.takeWhile_append_dropWhile.symm, ?_, rfl, rfl⟩
      simp [textStep, hash, dollar, slash, newline, run]

/-- Literal characters are read as text that says the same. -/
theorem reads_literal {before rest : List Char} (h : Literal before rest) :
    ∃ ts, Reads .text (before ++ rest) ts .text rest ∧ (∀ t ∈ ts, t.isText) ∧
      String.join (ts.filterMap Token.literalText?) = String.ofList before := by
  induction hl : before.length using Nat.strong_induction_on generalizing before with
  | _ n ih =>
      subst hl
      cases before with
      | nil => exact ⟨[], .refl _ _, nofun, rfl⟩
      | cons c cs =>
          obtain ⟨front, back, t, rfl, step, ht, content⟩ := exists_textStep_of_literal h
          have behind : Literal back rest := by
            rw [← List.cons_append] at h
            exact h.of_append
          obtain ⟨ts, reads, texts, joined⟩ := ih back.length
            (by simp only [List.length_cons, List.length_append]; omega) behind rfl
          rw [List.append_assoc] at step
          rw [List.cons_append, List.append_assoc]
          have first : Reads .text (c :: (front ++ (back ++ rest))) [t] .text (back ++ rest) :=
            .emit step
          refine ⟨t :: ts, first.trans reads, List.forall_mem_cons.2 ⟨ht, texts⟩, ?_⟩
          rw [List.filterMap_cons_some content, String.join_cons, joined, ← String.ofList_append]
          rfl

end Lexer

theorem Lexeme.literalText_append (a b : List Lexeme) :
    literalText (a ++ b) = literalText a ++ literalText b := by
  simp [literalText, String.join_append]

namespace Markup

open Outline

/-! ### The first segment -/

/-- The layout begins with the token. -/
inductive Begins (t : Token) : List Layout → Prop where
  | token {more : List Layout} : Begins t (.token t :: more)
  | part {span : Span} {inside more : List Layout} (h : Begins t inside) :
      Begins t (.part span inside :: more)

theorem Begins.head {t : Token} {layout : List Layout} (h : Begins t layout) {l : Lexeme}
    {ls : List Lexeme} (hf : Fits layout (l :: ls)) : l.1 = t := by
  induction h generalizing l ls with
  | token =>
      cases hf
      rfl
  | part _ ih =>
      generalize whole : l :: ls = all at hf
      cases hf with
      | @part _ _ _ la lb hi hs _ =>
          obtain ⟨first, _, head, -⟩ := hs
          obtain ⟨more, rfl⟩ := List.head?_eq_some_iff.1 head
          obtain ⟨rfl, -⟩ := List.cons.inj whole
          exact ih hi

/-- The directive word that a segment begins with. -/
def Segment.keyword? : Segment → Option Keyword
  | .conditional .. => some .ifThen
  | .assign .. => some .assign
  | .loop .. => some .forEach
  | .leave .. => some .leave
  | .stop .. => some .stop
  | .define .. => some .define
  | .evaluate .. => some .evaluate
  | .parse .. => some .parse
  | .embed .. => some .embed
  | .text .. | .unparsed .. | .reference .. | .formal .. | .macroCall .. => none

/-- What is not text begins with a token that is none either, and a directive with its word. -/
theorem Segment.Shaped.begins {s : Segment} (hs : s.Shaped) :
    s.isText ∨ ∃ t, Begins t [s.layout] ∧ t.isText = false ∧
      ∀ k, t = .directive k → s.keyword? = some k := by
  cases hs with
  | text => exact .inl rfl
  | reference hn _ =>
      cases hn with
      | applied => exact .inr ⟨_, .part (.part (.part .token)), rfl, nofun⟩
      | primary => exact .inr ⟨_, .part (.part .token), rfl, nofun⟩
  | conditional hf _ _ =>
      cases hf
      exact .inr ⟨_, .part (.part .token), rfl, by rintro _ ⟨⟩; rfl⟩
  | @macroCall _ arguments =>
      cases arguments <;> exact .inr ⟨_, .part .token, rfl, nofun⟩
  | loop | define => exact .inr ⟨_, .part (.part .token), rfl, by rintro _ ⟨⟩; rfl⟩
  | unparsed | formal => exact .inr ⟨_, .part .token, rfl, nofun⟩
  | assign | leave | stop | evaluate | parse | embed =>
      exact .inr ⟨_, .part .token, rfl, by rintro _ ⟨⟩; rfl⟩

theorem Segment.Shaped.isText_of_head {s : Segment} (hs : s.Shaped) {l : Lexeme} {ls : List Lexeme}
    (hf : Fits [s.layout] (l :: ls)) (ht : l.1.isText) : s.isText := by
  rcases hs.begins with text | ⟨t, begins, other, -⟩
  · exact text
  · rw [begins.head hf, other] at ht
    cases ht

theorem Segment.layout_eq_part (s : Segment) : ∃ span inside, s.layout = .part span inside := by
  cases s with
  | macroCall _ arguments => cases arguments <;> exact ⟨_, _, rfl⟩
  | _ => exact ⟨_, _, rfl⟩

/-- The first segment has the first token. -/
theorem Fits.exists_head {s : Segment} {others : List Segment} {l : Lexeme} {ls : List Lexeme}
    (hf : Fits (layoutBody (s :: others)) (l :: ls)) :
    ∃ la lb, ls = la ++ lb ∧ Fits [s.layout] (l :: la) ∧ Fits (layoutBody others) lb := by
  obtain ⟨la, lb, whole, ha, hb⟩ := Fits.split (a := [s.layout]) hf
  obtain ⟨span, inside, part⟩ := s.layout_eq_part
  obtain ⟨l', la, rfl⟩ := List.exists_cons_of_ne_nil (part ▸ ha).part_ne_nil
  obtain ⟨rfl, rfl⟩ := List.cons.inj whole
  exact ⟨la, lb, rfl, ha, hb⟩

theorem isText_head_of_others {others : List Segment} (hs : ∀ s ∈ others, s.Shaped)
    (hn : ∀ s ∈ others.head?, ¬s.isText) {ls : List Lexeme} (hf : Fits (layoutBody others) ls) :
    ∀ l ∈ ls.head?, l.1.isText = false := by
  intro l hl
  obtain ⟨ls, rfl⟩ := List.head?_eq_some_iff.1 hl
  cases others with
  | nil => cases hf
  | cons s others =>
      obtain ⟨_, _, -, first, -⟩ := hf.exists_head
      rw [Bool.eq_false_iff]
      exact fun text => hn s rfl ((hs s (by simp)).isText_of_head first text)

/-- A segment of text is what its tokens say, and all of them are text. -/
theorem Segment.eq_text_of_fits {s : Segment} (hs : s.isText) {ls : List Lexeme}
    (hf : Fits [s.layout] ls) :
    ∃ span, s = .text (Lexeme.literalText ls) span ∧ ∀ l ∈ ls, l.1.isText := by
  cases s with
  | text content span =>
      cases hf with
      | part hi _ hm =>
          cases hm
          cases hi with
          | run _ texts hm =>
              cases hm
              exact ⟨span, by simp, by simpa using texts⟩
  | _ => cases hs

/-- The tokens of text at the front belong to the first segment, and if a token of another kind
follows they are all of it. -/
theorem exists_leading_text {body : List Segment} (hb : BodyShaped body) {front rest : List Lexeme}
    (hn : front ≠ []) (ht : ∀ l ∈ front, l.1.isText) (hf : Fits (layoutBody body) (front ++ rest)) :
    ∃ more span others, body = .text (Lexeme.literalText front ++ more) span :: others ∧
      ((∀ l ∈ rest.head?, l.1.isText = false) → more = "" ∧ Fits (layoutBody others) rest) := by
  obtain ⟨first, ls, rfl⟩ := List.exists_cons_of_ne_nil hn
  cases body with
  | nil => cases hf
  | cons s others =>
      obtain ⟨la, lb, whole, ha, behind⟩ := hf.exists_head
      obtain ⟨hs, ho⟩ := List.forall_mem_cons.1 hb.segments
      have text := hs.isText_of_head ha (ht first (by simp))
      have other := isText_head_of_others ho (fun s' hs' found => by
        obtain ⟨_, rfl⟩ := List.head?_eq_some_iff.1 hs'
        exact (List.isChain_cons_cons.1 hb.texts).1 ⟨text, found⟩) behind
      obtain ⟨span, rfl, texts⟩ := Segment.eq_text_of_fits text ha
      -- the first segment may take more than the front, but not less
      rcases List.append_eq_append_iff.1 whole with ⟨x, rfl, rfl⟩ | ⟨x, rfl, rfl⟩
      · refine ⟨Lexeme.literalText x, span, others, ?_, fun ends => ?_⟩
        · rw [← Lexeme.literalText_append, List.cons_append]
        · cases x with
          | nil => exact ⟨rfl, behind⟩
          | cons l x =>
              have found := texts l (by simp)
              rw [ends l rfl] at found
              cases found
      · cases x with
        | nil => exact ⟨"", span, others, by simp, fun _ => ⟨rfl, behind⟩⟩
        | cons l x =>
            have found := ht l (by simp)
            rw [other l rfl] at found
            cases found

/-! ### Gobbling -/

namespace Outline

variable {mode : Gobbling} {line : Outline}

theorem trimmed_of_unmarked (h : ∀ x ∈ line, isMark x = false) : line.trimmed mode = line := by
  refine if_neg fun gobbled => gobbled.2.1 (List.filter_eq_nil_iff.2 fun item hi => ?_)
  obtain ⟨x, hx, rfl⟩ := List.mem_filterMap.1 hi
  exact Bool.eq_false_iff.1 (h _ hx)

theorem trimmed_of_solid {item : Item} (hi : item.isSpacing = false) (h : some item ∈ line) :
    line.trimmed mode = line := by
  refine if_neg fun gobbled => ?_
  have spacing := gobbled.2.2.1 item (List.mem_filterMap.2 ⟨_, h, rfl⟩)
  rw [hi] at spacing
  cases spacing

/-- Gobbling leaves what stands in front of the first mark up to something that is no blank. -/
theorem trimmed_lines_of_solid (mode : Gobbling) {front : Outline}
    (hf : ∀ x ∈ front, isMark x = false) {item : Item} (hi : item.isSpacing = false)
    (o : Outline) : ∃ o', (front ++ some item :: o).lines.flatMap (trimmed mode) =
      front ++ some item :: o' ∧ o'.head? = o.head? := by
  have within : endsLine (some item) = false := by
    cases item with
    | char c =>
        rw [Bool.eq_false_iff]
        intro ends
        simp only [endsLine, Option.any_some, Item.isNewline, beq_iff_eq] at ends
        subst ends
        cases hi
    | blockMark | lineMark | content => rfl
  induction front using part_induction endsLine with
  | part start x rest hs hx ih =>
      obtain ⟨unmarked, behind⟩ := List.forall_mem_append.1 hf
      obtain ⟨mark, behind⟩ := List.forall_mem_cons.1 behind
      obtain ⟨o', kept, head⟩ := ih behind
      have line : trimmed mode (start ++ [x]) = start ++ [x] :=
        trimmed_of_unmarked
          (List.forall_mem_append.2 ⟨unmarked, List.forall_mem_singleton.2 mark⟩)
      refine ⟨o', ?_, head⟩
      rw [List.append_assoc, List.cons_append, lines, cutAfter_append _ _ hs hx,
        List.flatMap_cons, line, ← lines, kept]
      simp
  | last start hs =>
      have open' : ∀ y ∈ start ++ [some item], endsLine y = false :=
        List.forall_mem_append.2 ⟨hs, by simpa using within⟩
      have whole : start ++ some item :: o = (start ++ [some item]) ++ o := by simp
      rw [whole]
      induction o using part_induction endsLine with
      | last more hm =>
          refine ⟨more, ?_, rfl⟩
          rw [lines, cutAfter_of_none _ (by simp) (List.forall_mem_append.2 ⟨open', hm⟩),
            List.flatMap_singleton, trimmed_of_solid hi (by simp)]
          simp
      | part more x rest hm hx _ =>
          have line : trimmed mode ((start ++ [some item]) ++ more ++ [x]) = _ :=
            trimmed_of_solid hi (List.mem_append_left _ (by simp))
          refine ⟨more ++ x :: (lines rest).flatMap (trimmed mode), ?_, ?_⟩
          · rw [← List.append_assoc, lines,
              cutAfter_append _ _ (List.forall_mem_append.2 ⟨open', hm⟩) hx, List.flatMap_cons,
              line]
            simp [lines]
          · cases more <;> rfl

theorem takeText_chars (cs : List Char) (o : Outline) :
    takeText (cs.map (fun c => some (.char c)) ++ o) = (cs ++ (takeText o).1, (takeText o).2) := by
  induction cs with
  | nil => rfl
  | cons c cs ih => simp [takeText, ih]

end Outline

/-- The text at the front is left up to the last character that is no blank, and the segments behind
it are left but for their texts. -/
theorem gobble_leading_text (mode : Gobbling) (cs : List Char) {c : Char}
    (hc : (Item.char c).isSpacing = false) (more : List Char) (span : Span)
    (others : List Segment) :
    ∃ more' others', gobble mode (.text (String.ofList (cs ++ c :: more)) span :: others) =
        .text (String.ofList (cs ++ c :: more')) span :: others' ∧
      skeleton others' = skeleton others ∧ (more = [] → more' = []) := by
  have bones := skeleton_gobble mode (.text (String.ofList (cs ++ c :: more)) span :: others)
  have left := outline_gobble mode (.text (String.ofList (cs ++ c :: more)) span :: others)
  generalize gobble mode _ = found at bones left ⊢
  cases found with
  | nil => cases bones
  | cons s others' =>
      obtain ⟨first, behind⟩ := List.cons.inj bones
      obtain ⟨content, rfl⟩ : ∃ content, s = .text content span := by
        cases s <;> cases first
        exact ⟨_, rfl⟩
      let chars (cs : List Char) : Outline := cs.map fun c => some (.char c)
      have unmarked : ∀ x ∈ (none :: chars cs : Outline), isMark x = false := by
        simp [chars, isMark, Item.isMark]
      obtain ⟨o, kept, head⟩ :=
        trimmed_lines_of_solid mode unmarked hc (chars more ++ outline others)
      have before : outline (.text (String.ofList (cs ++ c :: more)) span :: others) =
          (none :: chars cs) ++ some (.char c) :: (chars more ++ outline others) := by
        simp [outline, Segment.outline, chars]
      have after : chars content.toList ++ outline others' = chars (cs ++ [c]) ++ o := by
        rw [before, kept] at left
        simpa [outline, Segment.outline, chars] using left
      have texts := congrArg takeText after
      have ends {segments : List Segment} : EndsText (outline segments) := by
        have none : Outline.EndsText [] := by simp [EndsText]
        simpa using endsText_outline segments none
      rw [takeText_append _ ends, takeText_chars] at texts
      have same : content = String.ofList (cs ++ c :: (takeText o).1) := by
        rw [← String.toList_inj, (Prod.mk.inj texts).1]
        simp
      refine ⟨(takeText o).1, others', by rw [same], behind, ?_⟩
      rintro rfl
      have none : EndsText o := by
        rw [EndsText, head]
        exact ends
      rw [takeText_of_endsText none]

end Markup

end Template
