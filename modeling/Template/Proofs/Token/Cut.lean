import Template.Proofs.Token.EndsExpr

/-!
A source that is cut in two. What a step takes in front of the cut it takes without what stands
behind, for the lexer looks ahead to see that a token ends, and there it ends as well. Two looks go
further: one to the end of a run of backslashes, and one past the white space of code, where a hash
sign may stand.
-/

namespace Template

namespace Lexer

/-- The step takes `n` characters at most behind its first. -/
def Step.Within (n : Nat) : Step → Prop
  | .emit _ more _ | .skip more _ => more ≤ n
  | .fail _ => False

/-- Up to the first character that fails the test. -/
theorem all_or_stop (f : Char → Bool) (cs : List Char) : (∀ c ∈ cs, f c) ∨
    ∃ run d rest, cs = run ++ d :: rest ∧ (∀ c ∈ run, f c) ∧ f d = false := by
  induction cs with
  | nil => exact .inl nofun
  | cons c cs ih =>
      by_cases hc : f c
      · cases ih with
        | inl all => exact .inl (List.forall_mem_cons.2 ⟨hc, all⟩)
        | inr stop =>
            obtain ⟨run, d, rest, rfl, hr, hd⟩ := stop
            exact .inr ⟨c :: run, d, rest, rfl, List.forall_mem_cons.2 ⟨hc, hr⟩, hd⟩
      · exact .inr ⟨[], c, cs, rfl, nofun, by simpa using hc⟩

section Cut

variable {cs tail : List Char}

theorem takeWhile_cut {f : Char → Bool} (h : ((cs ++ tail).takeWhile f).length ≤ cs.length) :
    cs.takeWhile f = (cs ++ tail).takeWhile f := by
  rw [List.takeWhile_append] at h ⊢
  split
  · next all =>
    rw [if_pos all, List.length_append] at h
    have none : tail.takeWhile f = [] := List.length_eq_zero_iff.1 (by omega)
    rw [none, List.append_nil]
    exact (List.takeWhile_prefix f).eq_of_length all
  · rfl

theorem nameAt_cut (h : (nameAt (cs ++ tail)).length ≤ cs.length) :
    nameAt cs = nameAt (cs ++ tail) := by
  cases cs with
  | nil => exact (List.length_eq_zero_iff.1 (Nat.le_zero.1 h)).symm
  | cons c cs =>
      rw [List.cons_append, nameAt] at h ⊢
      rw [nameAt]
      by_cases start : isNameStart c
      · rw [if_pos start] at h
        rw [if_pos start, if_pos start, takeWhile_cut (Nat.le_of_succ_le_succ h)]
      · rw [if_neg start, if_neg start]

theorem nameAt_nil_cut (h : nameAt (cs ++ tail) = []) : nameAt cs = [] :=
  (nameAt_cut (by simp [h])).trans h

theorem find?_cut {needle : List Char} {n : Nat} (h : find? needle (cs ++ tail) = some n)
    (hn : n + needle.length ≤ cs.length) : find? needle cs = some n := by
  induction cs generalizing n with
  | nil =>
      rw [List.length_nil] at hn
      have empty : needle = [] := List.length_eq_zero_iff.1 (by omega)
      have zero : n = 0 := by omega
      rw [empty, zero]
      rfl
  | cons c cs ih =>
      rw [List.cons_append, find?] at h
      rw [find?]
      by_cases here : needle.isPrefixOf (c :: (cs ++ tail))
      · rw [if_pos here] at h
        cases h
        have stands : needle <+: c :: cs :=
          List.prefix_of_prefix_length_le (List.isPrefixOf_iff_prefix.1 here)
            (List.prefix_append (c :: cs) tail) (by simpa using hn)
        rw [if_pos (List.isPrefixOf_iff_prefix.2 stands)]
      · rw [if_neg here] at h
        have absent : ¬needle.isPrefixOf (c :: cs) := fun he =>
          here (List.isPrefixOf_iff_prefix.2
            ((List.isPrefixOf_iff_prefix.1 he).trans (List.prefix_append (c :: cs) tail)))
        obtain ⟨m, hm, rfl⟩ := Option.map_eq_some_iff.1 h
        rw [if_neg absent, ih hm (by rw [List.length_cons] at hn; omega)]
        rfl

end Cut

theorem reference?_size {cs : List Char} {found : Token × Nat} (h : reference? cs = some found) :
    1 ≤ found.2 ∧ (cs.head? = some '!' → 2 ≤ found.2) := by
  unfold reference? at h
  split at h
  · cases h
    simp
  · split at h
    · cases h
    · next hn =>
      cases h
      have := List.length_pos_iff.2 hn
      simp only
      omega
  · cases h
    simp
  · next bang _ =>
    split at h
    · cases h
    · next hn =>
      cases h
      have := List.length_pos_iff.2 hn
      refine ⟨this, fun head => ?_⟩
      obtain ⟨rest, rfl⟩ := List.head?_eq_some_iff.1 head
      exact absurd rfl (bang rest)

section Cut

variable {cs tail : List Char}

theorem reference?_cut (h : ∀ found, reference? (cs ++ tail) = some found → found.2 ≤ cs.length) :
    reference? cs = reference? (cs ++ tail) := by
  have absent (n : Nat) (hn : ∀ found, reference? (cs ++ tail) = some found → n < found.2)
      (hl : cs.length ≤ n) : reference? (cs ++ tail) = none := by
    cases hr : reference? (cs ++ tail) with
    | none => rfl
    | some found =>
        have := h found hr
        have := hn found hr
        omega
  have named (e : Char) (es : List Char)
      (hn : ∀ d name, nameAt (e :: (es ++ tail)) = d :: name → name.length ≤ es.length) :
      nameAt (e :: es) = nameAt (e :: (es ++ tail)) := by
    refine @nameAt_cut (e :: es) tail ?_
    rw [List.cons_append]
    cases he : nameAt (e :: (es ++ tail)) with
    | nil => exact Nat.zero_le _
    | cons d name => exact Nat.succ_le_succ (hn d name he)
  cases cs with
  | nil => rw [absent 0 (fun _ hr => (reference?_size hr).1) (Nat.le_refl 0)]; rfl
  | cons c cs =>
      by_cases bang : c = '!'
      · subst bang
        cases cs with
        | nil => rw [absent 1 (fun _ hr => (reference?_size hr).2 rfl) (Nat.le_refl 1)]; rfl
        | cons e cs =>
            by_cases brace : e = '\x7b'
            · subst brace
              rfl
            · have same := named e cs fun d name hn => by
                have := h (.reference (String.ofList (d :: name)) true, name.length + 2)
                  (by simp [reference?, brace, hn])
                simpa using this
              simp [reference?, brace, same]
      · by_cases brace : c = '\x7b'
        · subst brace
          rfl
        · have same := named c cs fun d name hn => by
            have := h (.reference (String.ofList (d :: name)) false, name.length + 1)
              (by simp [reference?, bang, brace, hn])
            simpa using this
          simp [reference?, bang, brace, same]

/-- A hash sign alone, where the step takes nothing behind it. -/
theorem hashStep_alone {cs : List Char} (h : (hashStep cs).Within 0) :
    hashStep cs = .emit (.text "#") 0 .text := by
  unfold hashStep at h ⊢
  split at h
  · simp only [Step.Within] at h
    omega
  · split at h
    · simp only [Step.Within] at h
      omega
    · cases h
  · split at h
    · simp only [Step.Within] at h
      omega
    · cases h
  · next cs =>
    cases hn : nameAt cs with
    | nil => rfl
    | cons d name =>
        simp only [hn] at h
        split at h
        · simp only [hashWordStep, Step.Within] at h
          omega
        · cases h
  · cases hn : nameAt cs with
    | nil => rfl
    | cons d name =>
        simp only [hn, hashWordStep, Step.Within, List.length_cons] at h
        omega

theorem hashStep_bracket {cs : List Char} (h : cs.head? ≠ some '[') :
    hashStep ('[' :: cs) = .emit (.text "#") 0 .text := by
  cases cs with
  | nil => rfl
  | cons c cs =>
      have other : c ≠ '[' := fun he => h (by rw [he]; rfl)
      simp [hashStep, other, nameAt, isNameStart]

/-- A line comment has the cut behind its line, for the end of the source is behind the cut. -/
theorem lineComment_cut (ht : tail ≠ [])
    (h : (hashStep ('#' :: (cs ++ tail))).Within (cs.length + 1)) :
    hashStep ('#' :: cs) = hashStep ('#' :: (cs ++ tail)) := by
  have size := List.length_pos_iff.2 ht
  simp only [hashStep, Step.Within, List.length_take, List.length_append] at h ⊢
  have same : cs.takeWhile (· != '\n') = (cs ++ tail).takeWhile (· != '\n') :=
    takeWhile_cut (by omega)
  rw [same]
  congr 2
  omega

theorem blockComment_cut (h : (hashStep ('*' :: (cs ++ tail))).Within (cs.length + 1)) :
    hashStep ('*' :: cs) = hashStep ('*' :: (cs ++ tail)) := by
  simp only [hashStep] at h ⊢
  cases hf : find? ['*', '#'] (cs ++ tail) with
  | none => simp [hf, Step.Within] at h
  | some n =>
      simp only [hf, Step.Within] at h
      rw [find?_cut hf (by simp only [List.length_cons, List.length_nil]; omega)]

theorem unparsed_cut (h : (hashStep ('[' :: '[' :: (cs ++ tail))).Within (cs.length + 2)) :
    hashStep ('[' :: '[' :: cs) = hashStep ('[' :: '[' :: (cs ++ tail)) := by
  simp only [hashStep] at h ⊢
  cases hf : find? [']', ']', '#'] (cs ++ tail) with
  | none => simp [hf, Step.Within] at h
  | some n =>
      simp only [hf, Step.Within] at h
      rw [find?_cut hf (by simp only [List.length_cons, List.length_nil]; omega)]
      simp only [List.take_append_of_le_length (show n ≤ cs.length by omega)]

theorem bracedWord_cut (h : (hashStep ('\x7b' :: (cs ++ tail))).Within (cs.length + 1)) :
    hashStep ('\x7b' :: cs) = hashStep ('\x7b' :: (cs ++ tail)) := by
  simp only [hashStep] at h ⊢
  cases hn : nameAt (cs ++ tail) with
  | nil => simp only [nameAt_nil_cut hn]
  | cons d name =>
      simp only [hn] at h ⊢
      split at h
      · next closed =>
        simp only [hashWordStep, Step.Within, List.length_cons] at h
        have same : nameAt cs = nameAt (cs ++ tail) :=
          nameAt_cut (by rw [hn, List.length_cons]; omega)
        rw [List.length_cons, List.drop_append_of_le_length (by omega)] at closed
        obtain ⟨e, rest, he⟩ : ∃ e rest, cs.drop (name.length + 1) = e :: rest :=
          List.exists_cons_of_ne_nil fun hd => by
            have := List.drop_eq_nil_iff.1 hd
            omega
        rw [he, List.cons_append] at closed
        simp only [same, hn, List.length_cons, he, (List.cons.inj closed).1]
      · cases h

theorem bracket_cut (h : (hashStep ('[' :: (cs ++ tail))).Within (cs.length + 1)) :
    hashStep ('[' :: cs) = hashStep ('[' :: (cs ++ tail)) := by
  cases cs with
  | nil =>
      have single : tail.head? ≠ some '[' := by
        intro he
        obtain ⟨rest, rfl⟩ := List.head?_eq_some_iff.1 he
        simp only [List.nil_append, hashStep] at h
        split at h
        · simp only [Step.Within, List.length_nil] at h
          omega
        · cases h
      exact (hashStep_bracket (by simp)).trans (hashStep_bracket single).symm
  | cons e cs =>
      rw [List.cons_append] at h ⊢
      by_cases double : e = '['
      · subst double
        exact unparsed_cut h
      · rw [hashStep_bracket (by simpa using double), hashStep_bracket (by simpa using double)]

theorem hashStep_cut (ht : tail ≠ []) (h : (hashStep (cs ++ tail)).Within cs.length) :
    hashStep cs = hashStep (cs ++ tail) := by
  cases cs with
  | nil => exact (hashStep_alone h).symm
  | cons c cs =>
      rw [List.cons_append] at h ⊢
      by_cases line : c = '#'
      · subst line
        exact lineComment_cut ht h
      by_cases block : c = '*'
      · subst block
        exact blockComment_cut h
      by_cases brace : c = '\x7b'
      · subst brace
        exact bracedWord_cut h
      by_cases bracket : c = '['
      · subst bracket
        exact bracket_cut h
      have same : nameAt (c :: cs) = nameAt (c :: cs ++ tail) := by
        refine nameAt_cut ?_
        rw [List.cons_append]
        cases hn : nameAt (c :: (cs ++ tail)) with
        | nil => exact Nat.zero_le _
        | cons d name =>
            simpa [hashStep, line, block, brace, bracket, hn, hashWordStep, Step.Within] using h
      rw [List.cons_append] at same
      simp [hashStep, line, block, brace, bracket, same]

/-- The first of the keywords that is spelled in front of the cut. -/
theorem findKeyword_cut {spell : Keyword → List Char} {keys : List Keyword}
    (h : ∀ k, (keys.find? fun k => (spell k).isPrefixOf (cs ++ tail)) = some k →
      (spell k).length ≤ cs.length) :
    (keys.find? fun k => (spell k).isPrefixOf cs) =
      keys.find? fun k => (spell k).isPrefixOf (cs ++ tail) := by
  induction keys with
  | nil => rfl
  | cons k keys ih =>
      by_cases spelled : (spell k).isPrefixOf (cs ++ tail)
      · have short := h k (by rw [List.find?_cons, spelled])
        have stands : spell k <+: cs := List.prefix_of_prefix_length_le
          (List.isPrefixOf_iff_prefix.1 spelled) (List.prefix_append cs tail) short
        simp only [List.find?_cons, spelled, List.isPrefixOf_iff_prefix.2 stands]
      · have absent : ¬(spell k).isPrefixOf cs := fun he =>
          spelled (List.isPrefixOf_iff_prefix.2
            ((List.isPrefixOf_iff_prefix.1 he).trans (List.prefix_append cs tail)))
        simp only [List.find?_cons, spelled, absent] at h ⊢
        exact ih h

theorem directiveWord?_size {cs : List Char} {n : Nat} (h : directiveWord? cs = some n) :
    0 < n := by
  have word (k : Keyword) : 0 < k.word.length := by cases k <;> decide
  unfold directiveWord? at h
  split at h
  · obtain ⟨k, -, rfl⟩ := Option.map_eq_some_iff.1 h
    exact Nat.succ_pos _
  · obtain ⟨k, -, rfl⟩ := Option.map_eq_some_iff.1 h
    exact word k

theorem directiveWord?_cut (h : ∀ n, directiveWord? (cs ++ tail) = some n → n ≤ cs.length) :
    directiveWord? cs = directiveWord? (cs ++ tail) := by
  cases cs with
  | nil =>
      cases hd : directiveWord? ([] ++ tail) with
      | none => decide
      | some n =>
          have := h n hd
          have := directiveWord?_size hd
          rw [List.length_nil] at *
          omega
  | cons c cs =>
      rw [List.cons_append] at h ⊢
      by_cases brace : c = '\x7b'
      · subst brace
        simp only [directiveWord?] at h ⊢
        rw [findKeyword_cut fun k hk => ?_]
        have := h _ (by rw [hk]; rfl)
        simp only [List.length_append, String.length_toList, List.length_cons, List.length_nil]
          at this ⊢
        omega
      · simp only [directiveWord?, List.cons.injEq, brace, false_and, imp_self, implies_true] at h ⊢
        rw [← List.cons_append, findKeyword_cut fun k hk => ?_]
        have := h _ (by rw [← List.cons_append, hk]; rfl)
        rwa [String.length_toList]

theorem dollarStep_cut (h : (dollarStep (cs ++ tail)).Within cs.length) :
    dollarStep cs = dollarStep (cs ++ tail) := by
  have same : reference? cs = reference? (cs ++ tail) := by
    refine reference?_cut fun found hr => ?_
    simp only [dollarStep, hr] at h
    split at h
    · next he =>
      cases he
      exact h
    · next he =>
      cases he
      exact h
    · next he => cases he
  simp only [dollarStep, same]

/-- Behind backslashes that end in front of the cut. -/
theorem slashStep_cut {more : Nat} (hc : cs ≠ [])
    (h : (slashStep more (cs ++ tail)).Within (more + cs.length)) :
    slashStep more cs = slashStep more (cs ++ tail) := by
  obtain ⟨d, cs, rfl⟩ := List.exists_cons_of_ne_nil hc
  rw [List.cons_append] at h ⊢
  by_cases hash : d = '#'
  · subst hash
    by_cases even : more % 2 = 0
    · have short : ∀ n, directiveWord? (cs ++ tail) = some n → n ≤ cs.length := by
        intro n hn
        simp only [slashStep, even, beq_self_eq_true, if_true, hn, Step.Within, List.length_cons]
          at h
        omega
      have same := directiveWord?_cut short
      cases hd : directiveWord? (cs ++ tail) with
      | none => simp [slashStep, even, same, hd]
      | some n =>
          simp [slashStep, even, same, hd, List.take_append_of_le_length (short n hd)]
    · simp [slashStep, even]
  · simp [slashStep, hash]

/-- A step of text in front of the cut, where more than backslashes stand. -/
theorem textStep_cut {c : Char} (ht : tail ≠ []) (h : (textStep c (cs ++ tail)).Within cs.length) :
    textStep c cs = textStep c (cs ++ tail) ∨ ∀ d ∈ c :: cs, d = '\\' := by
  simp only [textStep] at h ⊢
  by_cases hash : c = '#'
  · subst hash
    exact .inl (hashStep_cut ht h)
  by_cases dollar : c = '$'
  · subst dollar
    exact .inl (dollarStep_cut h)
  by_cases slash : c = '\\'
  · subst slash
    rcases all_or_stop (· == '\\') cs with all | ⟨run, d, rest, rfl, hr, stop⟩
    · exact .inr (by simpa using all)
    · have before := takeWhile_append_stop hr stop rest
      have behind := takeWhile_append_stop hr stop (rest ++ tail)
      simp only [List.append_assoc, List.cons_append] at h ⊢
      simp only [behind, before, List.drop_left] at h ⊢
      exact .inl (slashStep_cut (List.cons_ne_nil d rest) (by simpa using h))
  by_cases newline : c = '\n'
  · subst newline
    exact .inl rfl
  · simp only [hash, dollar, slash, newline, beq_iff_eq, if_false, Step.Within] at h ⊢
    rw [takeWhile_cut h]
    exact .inl rfl

end Cut

theorem stringLength?_pos {quote : Char} {cs : List Char} {n : Nat}
    (h : stringLength? quote cs = some n) : 0 < n := by
  obtain ⟨inner, he⟩ := stringLength?_split h
  by_contra hn
  rw [Nat.eq_zero_of_not_pos hn] at he
  simp at he

section Cut

variable {cs tail : List Char}

/-- A quote in front of the cut that is not doubled closes the string without what stands behind. -/
theorem stringLength?_cut {quote : Char} {n : Nat} (h : stringLength? quote (cs ++ tail) = some n)
    (hn : n ≤ cs.length) : stringLength? quote cs = some n := by
  fun_induction stringLength? quote cs generalizing n with
  | case1 =>
      have := stringLength?_pos h
      rw [List.length_nil] at hn
      omega
  | case2 =>
      have := stringLength?_pos h
      rw [List.length_singleton] at hn
      rw [show n = 1 by omega]
  | case3 c hc =>
      -- The string would be read beyond the cut.
      exfalso
      rw [List.length_singleton] at hn
      cases tail with
      | nil => simp [stringLength?, hc] at h
      | cons d tail =>
          rw [List.singleton_append, stringLength?, if_neg hc] at h
          split at h
          · obtain ⟨m, -, rfl⟩ := Option.map_eq_some_iff.1 h
            omega
          · obtain ⟨m, hm, rfl⟩ := Option.map_eq_some_iff.1 h
            have := stringLength?_pos hm
            omega
  | case4 d cs ih =>
      simp only [List.cons_append, stringLength?, if_true] at h
      obtain ⟨m, hm, rfl⟩ := Option.map_eq_some_iff.1 h
      rw [ih hm (by simpa using hn)]
      rfl
  | case5 cs hs ih =>
      simp only [List.cons_append, stringLength?, if_neg hs, if_true] at h
      obtain ⟨m, hm, rfl⟩ := Option.map_eq_some_iff.1 h
      rw [ih hm (by simpa using hn)]
      rfl
  | case6 d cs hs hq =>
      simpa only [List.cons_append, stringLength?, if_neg hs, if_true, if_neg hq] using h
  | case7 c d cs hs hq ih =>
      simp only [List.cons_append, stringLength?, if_neg hs, if_neg hq] at h
      obtain ⟨m, hm, rfl⟩ := Option.map_eq_some_iff.1 h
      rw [ih hm (by simpa using hn)]
      rfl

theorem fractionLength_cut (h : fractionLength (cs ++ tail) ≤ cs.length) :
    fractionLength cs = fractionLength (cs ++ tail) := by
  cases cs with
  | nil => exact (Nat.le_zero.1 h).symm
  | cons c cs =>
      rw [List.cons_append] at h ⊢
      by_cases point : c = '.'
      · subst point
        simp only [fractionLength, List.length_cons] at h ⊢
        have digits : cs.takeWhile Char.isDigit = (cs ++ tail).takeWhile Char.isDigit :=
          takeWhile_cut (by split at h <;> omega)
        rw [digits]
      · simp [fractionLength, point]

theorem exponentLength_cut (h : exponentLength (cs ++ tail) ≤ cs.length) :
    exponentLength cs = exponentLength (cs ++ tail) := by
  cases cs with
  | nil => exact (Nat.le_zero.1 h).symm
  | cons c cs =>
      by_cases letter : (c == 'e' || c == 'E') = true
      · cases cs with
        | nil =>
            -- A letter alone, as no digit is taken behind it.
            rw [List.length_singleton] at h
            have alone : exponentLength (c :: tail) = 0 := by
              simp only [List.singleton_append, exponentLength, letter, if_true] at h ⊢
              split_ifs at h ⊢ with none
              · rfl
              · omega
            rw [List.singleton_append, alone]
            cases hc : exponentLength [c] with
            | zero => rfl
            | succ n => simp [exponentLength] at hc
        | cons s cs =>
            simp only [List.cons_append, exponentLength, letter, if_true, List.length_cons] at h ⊢
            have one : (if s == '+' || s == '-' then 1 else 0) ≤ 1 := by split <;> omega
            generalize (if s == '+' || s == '-' then 1 else 0) = sign at h one ⊢
            rw [← List.cons_append, List.drop_append_of_le_length
              (show sign ≤ (s :: cs).length by rw [List.length_cons]; omega)] at h ⊢
            have digits : ((s :: cs).drop sign).takeWhile Char.isDigit =
                ((s :: cs).drop sign ++ tail).takeWhile Char.isDigit := by
              refine takeWhile_cut ?_
              rw [List.length_drop, List.length_cons]
              split at h <;> omega
            rw [digits]
      · simp [exponentLength, letter]

theorem numberLength_cut (h : numberLength (cs ++ tail) ≤ cs.length) :
    numberLength cs = numberLength (cs ++ tail) := by
  simp only [numberLength] at h ⊢
  have whole : cs.takeWhile Char.isDigit = (cs ++ tail).takeWhile Char.isDigit :=
    takeWhile_cut (by omega)
  have long := (List.takeWhile_prefix (l := cs) Char.isDigit).length_le
  rw [← whole] at h ⊢
  generalize (cs.takeWhile Char.isDigit).length = n at h long ⊢
  rw [List.drop_append_of_le_length long] at h ⊢
  have fraction : fractionLength (cs.drop n) = fractionLength (cs.drop n ++ tail) :=
    fractionLength_cut (by rw [List.length_drop]; omega)
  rw [← fraction] at h ⊢
  generalize fractionLength (cs.drop n) = m at h ⊢
  rw [List.drop_append_of_le_length (by omega)] at h ⊢
  have exponent : exponentLength (cs.drop (n + m)) = exponentLength (cs.drop (n + m) ++ tail) :=
    exponentLength_cut (by rw [List.length_drop]; omega)
  rw [exponent]

theorem symbol?_cut {c : Char} {s : Symbol} {n : Nat}
    (h : symbol? c (cs ++ tail).head? = some (s, n)) (hn : n ≤ cs.length) :
    symbol? c cs.head? = some (s, n) := by
  cases cs with
  | nil =>
      unfold symbol? at h
      split at h
      all_goals first
        | cases h; rfl
        | cases h; cases hn
        | cases h
  | cons d cs => exact h

theorem codeToken_cut {c : Char} {t : Token} {n : Nat} (h : codeToken c (cs ++ tail) = .ok (t, n))
    (hn : n ≤ cs.length) : codeToken c cs = .ok (t, n) := by
  unfold codeToken at h ⊢
  by_cases dollar : (c == '$') = true
  · rw [if_pos dollar] at h ⊢
    cases hr : reference? (cs ++ tail) with
    | none => simp [hr] at h
    | some found =>
        rw [hr] at h
        cases h
        rw [reference?_cut fun other ho => by cases hr.symm.trans ho; exact hn, hr]
  rw [if_neg dollar] at h ⊢
  by_cases quote : (c == '"' || c == '\'') = true
  · rw [if_pos quote] at h ⊢
    cases hl : stringLength? c (cs ++ tail) with
    | none => simp [hl] at h
    | some m =>
        rw [hl] at h
        cases h
        rw [stringLength?_cut hl hn, List.take_append_of_le_length hn]
  rw [if_neg quote] at h ⊢
  by_cases digit : c.isDigit = true
  · rw [if_pos digit] at h ⊢
    cases h
    simp only [numberLength_cut hn, List.take_append_of_le_length hn]
  rw [if_neg digit] at h ⊢
  by_cases start : isNameStart c = true
  · rw [if_pos start] at h ⊢
    cases h
    simp only [takeWhile_cut hn]
  rw [if_neg start] at h ⊢
  cases hs : symbol? c (cs ++ tail).head? with
  | none =>
      rw [hs] at h
      cases h
  | some found =>
      rw [hs] at h
      cases h
      rw [symbol?_cut hs hn]

theorem codeStep_cut {c : Char} {next : Token → Mode} {same : Mode}
    (h : (codeStep c (cs ++ tail) next same).Within cs.length) :
    codeStep c cs next same = codeStep c (cs ++ tail) next same := by
  unfold codeStep at h ⊢
  by_cases blank : Text.isCodeBlank c
  · rw [if_pos blank] at h ⊢
    rw [if_pos blank, takeWhile_cut h]
  rw [if_neg blank] at h ⊢
  rw [if_neg blank]
  cases ht : codeToken c (cs ++ tail) with
  | error fault =>
      rw [ht] at h
      cases h
  | ok found =>
      rw [ht] at h
      rw [codeToken_cut ht h]

end Cut

/-- The step takes part of the `n` characters behind its first, or all of them and then the next
step fails. -/
def Step.Before (n : Nat) (x : Char) (rest : List Char) : Step → Prop
  | .emit _ more next | .skip more next =>
    more ≤ n ∧ (more = n → ∃ fault, step next x rest = .fail fault)
  | .fail _ => False

theorem Step.Before.within {n : Nat} {x : Char} {rest : List Char} {s : Step}
    (h : s.Before n x rest) : s.Within n := by
  cases s with
  | emit | skip => exact h.1
  | fail => exact h

/-- What becomes of a step when the source is cut behind `c :: cs`. -/
inductive Step.Cut (mode : Mode) (c : Char) (cs tail : List Char) : Prop where
  | same (h : step mode c cs = step mode c (cs ++ tail))
  /-- The last pair of a run of backslashes may stand alone. -/
  | slashes (hc : ∀ d ∈ c :: cs, d = '\\') (h : step mode c cs = textStep c cs)
  /-- Code that no hash sign ends any more. -/
  | white {depth : Nat} {inTail : Bool} (hm : mode = .code depth inTail)
      (hc : ∀ d ∈ c :: cs, Text.isWhitespace d)
      (h : step mode c (cs ++ tail) = textStep c (cs ++ tail))

section Cut

variable {mode : Mode} {c x : Char} {cs rest : List Char}

theorem cut_of_textStep (hs : step mode c cs = textStep c cs)
    (hw : step mode c (cs ++ x :: rest) = textStep c (cs ++ x :: rest))
    (h : (step mode c (cs ++ x :: rest)).Within cs.length) :
    Step.Cut mode c cs (x :: rest) := by
  rw [hw] at h
  rcases textStep_cut (List.cons_ne_nil x rest) h with same | slashes
  · exact .same (by rw [hs, hw, same])
  · exact .slashes slashes hs

theorem nameAt_cons_eq_nil {c : Char} {cs : List Char} :
    nameAt (c :: cs) = [] ↔ isNameStart c = false := by
  rw [nameAt]
  split <;> simp_all

theorem tailStep_cut (h : (tailStep c (cs ++ x :: rest)).Before cs.length x rest) :
    tailStep c cs = tailStep c (cs ++ x :: rest) ∨
      tailStep c cs = textStep c cs ∧
        tailStep c (cs ++ x :: rest) = textStep c (cs ++ x :: rest) := by
  by_cases bracket : c = '['
  · subst bracket
    exact .inl rfl
  by_cases dot : c = '.'
  · subst dot
    by_cases named : nameAt (cs ++ x :: rest) = []
    · exact .inr ⟨by simp [tailStep, nameAt_nil_cut named], by simp [tailStep, named]⟩
    · have whole : tailStep '.' (cs ++ x :: rest) = .emit (.symbol .dot) 0 .property := by
        simp [tailStep, named]
      cases cs with
      | nil =>
          -- The name of the property starts behind the cut, where nothing fails.
          rw [whole] at h
          obtain ⟨fault, hf⟩ := h.2 rfl
          obtain ⟨d, name, hn⟩ := List.exists_cons_of_ne_nil named
          rw [List.nil_append] at hn
          simp only [step, hn] at hf
          cases hf
      | cons d cs =>
          have start : isNameStart d ≠ false := mt nameAt_cons_eq_nil.2 named
          have short : nameAt (d :: cs) ≠ [] := mt nameAt_cons_eq_nil.1 start
          exact .inl (by rw [whole]; simp [tailStep, short])
  · exact .inr ⟨by simp [tailStep, dot, bracket], by simp [tailStep, dot, bracket]⟩

theorem argumentsStep_cut
    (h : (step .arguments c (cs ++ x :: rest)).Before cs.length x rest) :
    Step.Cut .arguments c cs (x :: rest) := by
  by_cases paren : c = '('
  · subst paren
    exact .same rfl
  have other (cs : List Char) : step .arguments c cs =
      if Text.isBlank c && (cs.drop (cs.takeWhile Text.isBlank).length).head? == some '(' then
        .skip (cs.takeWhile Text.isBlank).length .call
      else textStep c cs := by
    simp only [step, beq_iff_eq, paren, if_false]
  rcases all_or_stop Text.isBlank cs with all | ⟨run, d, more, rfl, hr, hd⟩
  · have none : cs.takeWhile Text.isBlank = cs := List.takeWhile_eq_self_iff.2 all
    refine cut_of_textStep (by simp [other, none]) ?_ h.within
    rw [other, if_neg]
    intro gap
    rw [other, if_pos gap] at h
    -- The parenthesis stands at the cut, where nothing fails.
    have long : cs.length ≤ ((cs ++ x :: rest).takeWhile Text.isBlank).length := by
      rw [List.takeWhile_append_of_pos all, List.length_append]
      omega
    have size := Nat.le_antisymm h.1 long
    obtain ⟨fault, hf⟩ := h.2 size
    rw [size, List.drop_left] at gap
    have hx : x = '(' := by simpa using (Bool.and_eq_true_iff.1 gap).2
    subst hx
    cases hf
  · have stopped (more : List Char) : step .arguments c (run ++ d :: more) =
        if Text.isBlank c && d == '(' then .skip run.length .call
        else textStep c (run ++ d :: more) := by
      rw [other, takeWhile_append_stop hr hd, List.drop_left]
      rfl
    have whole : run ++ d :: more ++ x :: rest = run ++ d :: (more ++ x :: rest) := by simp
    by_cases gap : (Text.isBlank c && d == '(') = true
    · exact .same (by rw [whole, stopped, stopped, if_pos gap, if_pos gap])
    · exact cut_of_textStep (by rw [stopped, if_neg gap]) (by rw [whole, stopped, if_neg gap])
        h.within

theorem startsDirective_white {cs : List Char} (h : ∀ c ∈ cs, Text.isWhitespace c) :
    startsDirective cs = false := by
  have none : Text.trimStart cs = [] := List.dropWhile_eq_nil_iff.2 h
  simp [startsDirective, none]

theorem startsDirective_stop {run : List Char} (h : ∀ c ∈ run, Text.isWhitespace c) {d : Char}
    (hd : Text.isWhitespace d = false) (rest : List Char) :
    startsDirective (run ++ d :: rest) = (d == '#') := by
  have trimmed : Text.trimStart (run ++ d :: rest) = d :: rest := by
    rw [Text.trimStart, List.dropWhile_append_of_pos h, List.dropWhile_cons_of_neg (by simp [hd])]
  simp [startsDirective, trimmed]

theorem codeModeStep_cut {depth : Nat} {inTail : Bool}
    (h : (step (.code depth inTail) c (cs ++ x :: rest)).Before cs.length x rest) :
    Step.Cut (.code depth inTail) c cs (x :: rest) := by
  have text {cs : List Char} (hd : startsDirective (c :: cs)) :
      step (.code depth inTail) c cs = textStep c cs := by simp [step, hd]
  have code {cs : List Char} (hd : startsDirective (c :: cs) = false) :
      step (.code depth inTail) c cs =
        codeStep c cs (afterCode · depth inTail) (.code depth inTail) := by simp [step, hd]
  have within := h.within
  rcases all_or_stop Text.isWhitespace (c :: cs) with all | ⟨run, d, more, he, hr, hd⟩
  · by_cases hash : startsDirective (c :: (cs ++ x :: rest))
    · exact .white rfl all (text hash)
    · have hash : startsDirective (c :: (cs ++ x :: rest)) = false := by simpa using hash
      rw [code hash] at within
      exact .same (by rw [code (startsDirective_white all), code hash, codeStep_cut within])
  · have short : startsDirective (c :: cs) = (d == '#') := by
      rw [he, startsDirective_stop hr hd]
    have long : startsDirective (c :: (cs ++ x :: rest)) = (d == '#') := by
      rw [← List.cons_append, he, List.append_assoc, List.cons_append, startsDirective_stop hr hd]
    cases hash : d == '#' with
    | true => exact cut_of_textStep (text (short.trans hash)) (text (long.trans hash)) within
    | false =>
        rw [code (long.trans hash)] at within
        exact .same (by rw [code (short.trans hash), code (long.trans hash), codeStep_cut within])

theorem step_cut (h : (step mode c (cs ++ x :: rest)).Before cs.length x rest) :
    Step.Cut mode c cs (x :: rest) := by
  have tail {mode : Mode} (hs : ∀ cs, step mode c cs = tailStep c cs)
      (h : (step mode c (cs ++ x :: rest)).Before cs.length x rest) :
      Step.Cut mode c cs (x :: rest) := by
    have within := h.within
    rw [hs] at h
    cases tailStep_cut h with
    | inl same => exact .same (by rw [hs, hs, same])
    | inr text => exact cut_of_textStep ((hs _).trans text.1) ((hs _).trans text.2) within
  cases mode with
  | text => exact cut_of_textStep rfl rfl h.within
  | arguments => exact argumentsStep_cut h
  | call =>
      by_cases paren : c = '('
      · subst paren
        exact .same rfl
      · exact cut_of_textStep (by simp [step, paren]) (by simp [step, paren]) h.within
  | tail => exact tail (fun _ => rfl) h
  | property =>
      have within := h.within
      cases hn : nameAt (c :: (cs ++ x :: rest)) with
      | nil =>
          have short : nameAt (c :: cs) = [] := @nameAt_nil_cut (c :: cs) (x :: rest) hn
          exact cut_of_textStep (by simp [step, short]) (by simp [step, hn]) within
      | cons d name =>
          simp only [step, hn, Step.Within, List.length_cons] at within
          have short : nameAt (c :: cs) = nameAt (c :: cs ++ x :: rest) :=
            nameAt_cut (by rw [List.cons_append, hn, List.length_cons, List.length_cons]; omega)
          exact .same (by simp only [step, short, List.cons_append, hn])
  | method =>
      by_cases paren : c = '('
      · subst paren
        exact .same rfl
      · exact tail (fun _ => by simp [step, paren]) h
  | code depth inTail => exact codeModeStep_cut h
  | expression => exact .same (codeStep_cut h.within)

end Cut

end Lexer

end Template
