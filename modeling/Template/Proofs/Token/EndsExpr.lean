import Template.Proofs.Token.InCode

/-!
The end of an expression in brackets: a comma or the bracket that closes. In front of it code is read
as if nothing stood behind, since no token of code goes on there.
-/

namespace Template

namespace Lexer

theorem fractionLength_le (cs : List Char) : fractionLength cs ≤ cs.length := by
  unfold fractionLength
  split
  · next cs =>
    have := (List.takeWhile_prefix (l := cs) Char.isDigit).length_le
    simp only [List.length_cons]
    split <;> omega
  · exact Nat.zero_le _

theorem exponentLength_le (cs : List Char) : exponentLength cs ≤ cs.length := by
  have digits (k : Nat) (cs : List Char) :
      ((cs.drop k).takeWhile Char.isDigit).length ≤ cs.length - k := by
    rw [← List.length_drop]
    exact (List.takeWhile_prefix _).length_le
  cases cs with
  | nil => exact Nat.le_refl 0
  | cons c cs =>
      cases cs with
      | nil => simp [exponentLength]
      | cons s cs =>
          have unsigned := digits 0 (s :: cs)
          have signed := digits 1 (s :: cs)
          simp only [exponentLength]
          rw [List.length_cons] at unsigned signed ⊢
          split_ifs <;> simp only [List.length_cons] <;> omega

theorem numberLength_le (cs : List Char) : numberLength cs ≤ cs.length := by
  have whole := (List.takeWhile_prefix (l := cs) Char.isDigit).length_le
  have fraction := fractionLength_le (cs.drop (cs.takeWhile Char.isDigit).length)
  simp only [numberLength]
  generalize fractionLength (cs.drop (cs.takeWhile Char.isDigit).length) = f at fraction ⊢
  have exponent := exponentLength_le (cs.drop ((cs.takeWhile Char.isDigit).length + f))
  rw [List.length_drop] at fraction exponent
  omega

theorem reference?_le {cs : List Char} {t : Token} {n : Nat} (h : reference? cs = some (t, n)) :
    n ≤ cs.length := by
  have named (cs : List Char) : (nameAt cs).length ≤ cs.length := by
    cases hn : nameAt cs with
    | nil => exact Nat.zero_le _
    | cons c name =>
        obtain ⟨-, rest, rfl⟩ := nameAt_split hn (List.cons_ne_nil c name)
        rw [List.length_append]
        omega
  unfold reference? at h
  split at h
  · cases h
    simp
  · next cs _ =>
    have le := named cs
    split at h
    · cases h
    · cases h
      simpa using le
  · cases h
    simp
  · have le := named cs
    split at h
    · cases h
    · cases h
      exact le

theorem stringLength?_le {quote : Char} {cs : List Char} {n : Nat}
    (h : stringLength? quote cs = some n) : n ≤ cs.length := by
  fun_induction stringLength? quote cs generalizing n with
  | case1 | case3 => cases h
  | case2 | case6 =>
      cases h
      simp
  | case4 _ _ ih | case5 _ _ ih | case7 _ _ _ _ _ ih =>
      obtain ⟨m, hm, rfl⟩ := Option.map_eq_some_iff.1 h
      have := ih hm
      simp only [List.length_cons] at this ⊢
      omega

/-- What may stand behind an expression in brackets: a comma, or the bracket that closes. -/
def EndsExpr (d : Char) : Prop := d = ',' ∨ d = ')' ∨ d = ']' ∨ d = '\x7d'

section EndsExpr

variable {d : Char} (hd : EndsExpr d) (rest : List Char)

theorem takeWhile_append_end {f : Char → Bool} (hf : f d = false) (cs : List Char) :
    (cs ++ d :: rest).takeWhile f = cs.takeWhile f := by
  induction cs with
  | nil => simp [hf]
  | cons c cs ih =>
      rw [List.cons_append, List.takeWhile_cons, List.takeWhile_cons, ih]

include hd

theorem EndsExpr.solid : Text.isWhitespace d = false ∧ d ≠ '#' := by
  rcases hd with rfl | rfl | rfl | rfl <;> decide

theorem EndsExpr.not_name : isNameChar d = false := by
  rcases hd with rfl | rfl | rfl | rfl <;> decide

theorem EndsExpr.not_digit : d.isDigit = false := by
  rcases hd with rfl | rfl | rfl | rfl <;> decide

theorem EndsExpr.nameAt_append (cs : List Char) : nameAt (cs ++ d :: rest) = nameAt cs := by
  cases cs with
  | nil =>
      have start : isNameStart d = false := by rcases hd with rfl | rfl | rfl | rfl <;> decide
      simp [nameAt, start]
  | cons c cs => simp only [List.cons_append, nameAt, takeWhile_append_end rest hd.not_name]

theorem EndsExpr.reference?_append {cs : List Char} {found : Token × Nat}
    (h : reference? cs = some found) : reference? (cs ++ d :: rest) = some found := by
  have named := hd.nameAt_append rest
  cases cs with
  | nil => cases h
  | cons c cs =>
      by_cases bang : c = '!'
      · subst bang
        cases cs with
        | nil => cases h
        | cons e cs =>
            have same := named (e :: cs)
            by_cases brace : e = '\x7b'
            · subst brace
              exact h
            · simp only [List.cons_append] at same ⊢
              unfold reference? at h ⊢
              simpa [brace, same] using h
      · have same := named (c :: cs)
        by_cases brace : c = '\x7b'
        · subst brace
          exact h
        · simp only [List.cons_append] at same ⊢
          unfold reference? at h ⊢
          simpa [brace, bang, same] using h

theorem EndsExpr.stringLength?_append {quote : Char} (hq : quote = '"' ∨ quote = '\'')
    {cs : List Char} {n : Nat} (h : stringLength? quote cs = some n) :
    stringLength? quote (cs ++ d :: rest) = some n := by
  have other : d ≠ quote := by
    rcases hd with rfl | rfl | rfl | rfl <;> rcases hq with rfl | rfl <;> decide
  have plain : quote ≠ '\\' := by rcases hq with rfl | rfl <;> decide
  fun_induction stringLength? quote cs generalizing n with
  | case1 | case3 => cases h
  | case2 =>
      cases h
      simp [stringLength?, plain, other]
  | case4 e cs ih =>
      obtain ⟨m, hm, rfl⟩ := Option.map_eq_some_iff.1 h
      simp [stringLength?, ih hm]
  | case5 cs _ ih =>
      obtain ⟨m, hm, rfl⟩ := Option.map_eq_some_iff.1 h
      simp [stringLength?, plain, ih hm]
  | case6 e cs hq =>
      cases h
      simp [stringLength?, plain, hq]
  | case7 c e cs hc hq ih =>
      obtain ⟨m, hm, rfl⟩ := Option.map_eq_some_iff.1 h
      have := ih hm
      simp only [List.cons_append] at this
      simp [stringLength?, hc, hq, this]

theorem EndsExpr.fractionLength_append (cs : List Char) :
    fractionLength (cs ++ d :: rest) = fractionLength cs := by
  have point : d ≠ '.' := by rcases hd with rfl | rfl | rfl | rfl <;> decide
  cases cs with
  | nil => simp [fractionLength, point]
  | cons c cs =>
      by_cases hc : c = '.'
      · subst hc
        simp only [List.cons_append, fractionLength, takeWhile_append_end rest hd.not_digit]
      · simp [fractionLength, hc]

theorem EndsExpr.exponentLength_append (cs : List Char) :
    exponentLength (cs ++ d :: rest) = exponentLength cs := by
  have letter : (d == 'e' || d == 'E') = false := by rcases hd with rfl | rfl | rfl | rfl <;> decide
  have sign : (d == '+' || d == '-') = false := by rcases hd with rfl | rfl | rfl | rfl <;> decide
  cases cs with
  | nil => simp [exponentLength, letter]
  | cons c cs =>
      cases cs with
      | nil => simp [exponentLength, sign, hd.not_digit]
      | cons s cs =>
          have digits (more : List Char) := takeWhile_append_end rest hd.not_digit more
          have behind := digits (s :: cs)
          simp only [List.cons_append] at behind ⊢
          by_cases hs : (s == '+' || s == '-') = true
          · simp only [exponentLength, hs, if_true, List.drop_one, List.tail_cons, digits]
          · simp only [exponentLength, hs, Bool.false_eq_true, if_false, List.drop_zero, behind]

theorem EndsExpr.numberLength_append (cs : List Char) :
    numberLength (cs ++ d :: rest) = numberLength cs := by
  have whole := (List.takeWhile_prefix (l := cs) Char.isDigit).length_le
  have fraction := fractionLength_le (cs.drop (cs.takeWhile Char.isDigit).length)
  rw [List.length_drop] at fraction
  simp only [numberLength, takeWhile_append_end rest hd.not_digit]
  rw [List.drop_append_of_le_length whole, hd.fractionLength_append,
    List.drop_append_of_le_length (by omega), hd.exponentLength_append]

theorem EndsExpr.symbol?_append {c : Char} {cs : List Char} {s : Symbol} {n : Nat}
    (h : symbol? c cs.head? = some (s, n)) :
    n ≤ cs.length ∧ symbol? c (cs ++ d :: rest).head? = some (s, n) := by
  cases cs with
  | nil =>
      have alone : n = 0 ∧ symbol? c (some d) = some (s, n) := by
        rw [List.head?_nil] at h
        unfold symbol? at h
        split at h
        all_goals first
          | contradiction
          | cases h; rcases hd with rfl | rfl | rfl | rfl <;> exact ⟨rfl, rfl⟩
      exact ⟨alone.1.le, alone.2⟩
  | cons e cs =>
      refine ⟨?_, h⟩
      unfold symbol? at h
      split at h
      all_goals cases h
      all_goals simp

/-- A token of code is found again, whatever stands behind the end. -/
theorem EndsExpr.codeToken_append {c : Char} {cs : List Char} {t : Token} {n : Nat}
    (h : codeToken c cs = .ok (t, n)) : n ≤ cs.length ∧
      codeToken c (cs ++ d :: rest) = .ok (t, n) := by
  unfold codeToken at h ⊢
  split at h
  · cases hr : reference? cs with
    | none => simp [hr] at h
    | some found =>
        rw [hr] at h
        cases h
        rw [if_pos ‹_›, hd.reference?_append rest hr]
        exact ⟨reference?_le hr, rfl⟩
  · rw [if_neg ‹_›]
    split at h
    · next hq =>
      cases hl : stringLength? c cs with
      | none => simp [hl] at h
      | some m =>
          rw [hl] at h
          cases h
          have le := stringLength?_le hl
          rw [if_pos hq, hd.stringLength?_append rest (by simpa using hq) hl]
          exact ⟨le, by simp only [List.take_append_of_le_length le]⟩
    · rw [if_neg ‹_›]
      split at h
      · next digit =>
        cases h
        have le := numberLength_le cs
        refine ⟨le, ?_⟩
        rw [if_pos digit]
        simp only [hd.numberLength_append, List.take_append_of_le_length le]
      · rw [if_neg ‹_›]
        split at h
        · cases h
          rw [if_pos ‹_›]
          exact ⟨(List.takeWhile_prefix _).length_le,
            by simp only [takeWhile_append_end rest hd.not_name]⟩
        · rw [if_neg ‹_›]
          cases hs : symbol? c cs.head? with
          | none => simp [hs] at h
          | some found =>
              rw [hs] at h
              cases h
              obtain ⟨le, same⟩ := hd.symbol?_append rest hs
              exact ⟨le, by rw [same]⟩

end EndsExpr

/-- What code finds alone it finds in front of the end of an expression, too. -/
theorem EndsExpr.reads {d : Char} (hd : EndsExpr d) (rest : List Char) {offset : Nat}
    {cs : List Char} {lexemes : List Lexeme} (hh : '#' ∉ cs)
    (h : run .expression offset cs = .ok lexemes) {depth depth' : Nat}
    (ht : (lexemes.map Prod.fst).foldlM depthAfter depth = some depth') (inTail : Bool) :
    Reads (.code depth inTail) (cs ++ d :: rest) (lexemes.map Prod.fst) (.code depth' inTail)
      (d :: rest) := by
  induction hl : cs.length using Nat.strong_induction_on
      generalizing offset cs lexemes depth with
  | _ n ih =>
      subst hl
      cases cs with
      | nil =>
          rw [run] at h
          cases h
          cases ht
          exact .refl _ _
      | cons c cs =>
          have shorter (more : Nat) : (cs.drop more).length < (c :: cs).length := by
            rw [List.length_drop, List.length_cons]
            omega
          have still := startsDirective_append hh hd.solid.1 hd.solid.2 rest
          have cut (n : Nat) (hn : n ≤ cs.length) :
              cs ++ d :: rest = cs.take n ++ (cs.drop n ++ d :: rest) ∧ (cs.take n).length = n :=
            ⟨by rw [← List.append_assoc, List.take_append_drop], List.length_take_of_le hn⟩
          simp only [List.cons_append] at still ⊢
          rcases run_eq_ok h with ⟨t, more, next, tail, hs, hr, rfl⟩ | ⟨more, next, hs, hr⟩
          · simp only [step, codeStep] at hs
            split at hs
            · cases hs
            · next solid =>
              split at hs
              · next found =>
                cases hs
                obtain ⟨le, same⟩ := hd.codeToken_append rest found
                obtain ⟨whole, size⟩ := cut more le
                obtain ⟨middle, first, behind⟩ := Option.bind_eq_some_iff.1 ht
                have reads := ih _ (shorter more) (not_mem_drop hh more) hr behind rfl
                rw [whole] at still same ⊢
                refine (show Reads _ _ [t] _ _ from .emit ?_).trans reads
                rw [step, still, size]
                simp only [codeStep, solid, same, afterCode_of_depthAfter first]
                rfl
              · cases hs
          · simp only [step, codeStep] at hs
            split at hs
            · next blank =>
              cases hs
              obtain ⟨whole, size⟩ := cut _ (List.takeWhile_prefix Text.isCodeBlank).length_le
              have reads := ih _ (shorter _) (not_mem_drop hh _) hr ht rfl
              have stop := not_isCodeBlank hd.solid.1
              have run := takeWhile_append_end rest stop cs
              rw [whole] at still run ⊢
              refine (show Reads _ _ [] _ _ from .skip ?_).trans reads
              rw [step, still, size]
              simp only [codeStep, blank, run]
              rfl
            · split at hs <;> cases hs

end Lexer

end Template
