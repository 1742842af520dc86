import Template.Proofs.Token.Lossless
import Template.Proofs.Token.Spaced

/-!
Text and code read a reference in the same way. Inside brackets it is code anyway, and outside them
the names of its properties are the only tokens that code may take for something else: a word with a
meaning of its own.
-/

namespace Template

/-- What the token is in code. -/
def Token.inCode : Token → Token
  | .ident name => Lexer.wordToken name.toList
  | t => t

/-- The token in code, at the same place. -/
def Lexeme.inCode (l : Lexeme) : Lexeme := (l.1.inCode, l.2)

/-- Every word that is not a name has a meaning of its own in code. -/
theorem Token.inCode_ident_iff (name : String) : (Token.ident name).inCode = .ident name ↔
    ReservedWord.ofWord? name = none ∧ Symbol.ofWord? name = none := by
  simp only [Token.inCode, Lexer.wordToken, String.ofList_toList]
  cases ReservedWord.ofWord? name with
  | some w => simp
  | none =>
      cases Symbol.ofWord? name with
      | some s => simp
      | none => simp

namespace Lexer

theorem inCode_wordToken (name : List Char) : (wordToken name).inCode = wordToken name := by
  cases h : wordToken name with
  | ident word =>
      unfold wordToken at h
      simp only at h
      split at h
      · cases h
      · split at h
        · cases h
        · cases h
          rw [Token.inCode_ident_iff]
          exact ⟨‹_›, ‹_›⟩
  | _ => rfl

theorem inCode_of_codeToken {c : Char} {cs : List Char} {t : Token} {n : Nat}
    (h : codeToken c cs = .ok (t, n)) : t.inCode = t := by
  cases t with
  | ident word =>
      unfold codeToken at h
      split at h
      · split at h
        · next found hr =>
          cases h
          obtain ⟨-, ⟨_, _, he⟩ | ⟨_, he⟩⟩ := reference?_spelled hr <;> cases he
        · cases h
      · split at h
        · split at h <;> cases h
        · split at h
          · cases h
          · split at h
            · simp only [Except.ok.injEq, Prod.mk.injEq] at h
              rw [← h.1, inCode_wordToken]
            · split at h <;> cases h
  | _ => rfl

/-- How code reads what another mode has read. -/
inductive Step.Reread : Step → Step → Prop where
  | emit {t : Token} {more : Nat} {next : Mode} {again : Step}
      (h : t.isCode → again = .emit t.inCode more .expression) : Reread (.emit t more next) again
  | skip {more : Nat} {next : Mode} : Reread (.skip more next) (.skip more .expression)
  | fail {fault : LexFault} {again : Step} : Reread (.fail fault) again

theorem Step.Reread.apart {t : Token} {more : Nat} {next : Mode} {again : Step}
    (h : t.isCode = false) : (Step.emit t more next).Reread again :=
  .emit fun isCode => absurd isCode (by simp [h])

theorem textStep_reread {c : Char} {cs : List Char} (hc : c ≠ '#') :
    (textStep c cs).Reread (step .expression c cs) := by
  have hash : (c == '#') = false := by simpa using hc
  simp only [textStep, hash, Bool.false_eq_true, if_false]
  split
  · next hd =>
    obtain rfl : c = '$' := by simpa using hd
    have blank : Text.isCodeBlank '$' = false := by decide
    simp only [dollarStep, step, codeStep, blank, codeToken, beq_self_eq_true, if_true]
    cases hr : reference? cs with
    | none => exact .apart rfl
    | some found =>
        obtain ⟨t, n⟩ := found
        obtain ⟨-, ⟨name, quiet, rfl⟩ | ⟨quiet, rfl⟩⟩ := reference?_spelled hr
        · exact .emit fun _ => rfl
        · exact .emit fun _ => rfl
  · split
    · simp only [slashStep]
      split
      · exact .apart rfl
      · split <;> exact .apart rfl
    · split <;> exact .apart rfl

theorem codeStep_reread (c : Char) (cs : List Char) (next : Token → Mode) (same : Mode) :
    (codeStep c cs next same).Reread (step .expression c cs) := by
  simp only [step, codeStep]
  split
  · exact .skip
  · cases ht : codeToken c cs with
    | error fault => exact .fail
    | ok found => exact .emit fun _ => by rw [inCode_of_codeToken ht]

theorem symbol_reread {c : Char} {s : Symbol} (hc : Text.isCodeBlank c = false)
    (cs : List Char) (hs : codeToken c cs = .ok (.symbol s, 0)) (next : Mode) :
    (Step.emit (.symbol s) 0 next).Reread (step .expression c cs) := by
  refine .emit fun _ => ?_
  simp only [step, codeStep, hc, hs]
  rfl

theorem openParen_reread (cs : List Char) (next : Mode) :
    (Step.emit (.symbol .openParen) 0 next).Reread (step .expression '(' cs) :=
  symbol_reread (by decide) cs rfl next

theorem tailStep_reread {c : Char} {cs : List Char} (hc : c ≠ '#') :
    (tailStep c cs).Reread (step .expression c cs) := by
  simp only [tailStep]
  split
  · next hd =>
    obtain ⟨hd, hn⟩ := Bool.and_eq_true_iff.1 hd
    obtain rfl : c = '.' := by simpa using hd
    -- A name does not start with a dot, so code does not take two dots for one symbol.
    have single : codeToken '.' cs = .ok (.symbol .dot, 0) := by
      cases cs with
      | nil => cases hn
      | cons d cs =>
          have other : d ≠ '.' := by
            rintro rfl
            cases hn
          have symbol : symbol? '.' (some d) = some (.dot, 0) := by
            unfold symbol?
            split <;> simp_all
          simp [codeToken, isNameStart, symbol]
    exact symbol_reread (by decide) cs single _
  · split
    · next hd =>
      obtain rfl : c = '[' := by simpa using hd
      exact symbol_reread (by decide) cs rfl _
    · exact textStep_reread hc

theorem argumentsStep_reread {c : Char} {cs : List Char} (hc : c ≠ '#') :
    (step .arguments c cs).Reread (step .expression c cs) := by
  simp only [step]
  split
  · next hp =>
    obtain rfl : c = '(' := by simpa using hp
    exact openParen_reread cs _
  · obtain ⟨run, rest, hw, rfl, hr⟩ := takeWhile_split Text.isBlank cs
    rw [hw, List.drop_left]
    split
    · next hb =>
      obtain ⟨hc', ho⟩ := Bool.and_eq_true_iff.1 hb
      have code {d : Char} (hd : Text.isBlank d) : Text.isCodeBlank d := by
        simp only [Text.isBlank, Text.isCodeBlank, Bool.or_eq_true] at hd ⊢
        tauto
      cases rest with
      | nil => cases ho
      | cons d rest =>
          obtain rfl : d = '(' := by simpa using ho
          have blanks : (run ++ '(' :: rest).takeWhile Text.isCodeBlank = run :=
            takeWhile_append_stop (fun d hd => code (hr d hd)) (by decide) rest
          rw [codeStep, if_pos (code hc'), blanks]
          exact .skip
    · exact textStep_reread hc

theorem mem_of_mem_trimStart {c : Char} {cs : List Char} (h : c ∈ Text.trimStart cs) : c ∈ cs :=
  (List.dropWhile_suffix _).subset h

theorem startsDirective_of_hashless {cs : List Char} (hh : '#' ∉ cs) :
    startsDirective cs = false := by
  rw [Bool.eq_false_iff]
  intro hash
  rw [startsDirective, beq_iff_eq] at hash
  exact hh (mem_of_mem_trimStart (List.mem_of_mem_head? hash))

/-- Where a character stands behind that is no white space and no hash sign. -/
theorem startsDirective_append {cs : List Char} (hh : '#' ∉ cs) {d : Char}
    (hs : Text.isWhitespace d = false) (hd : d ≠ '#') (rest : List Char) :
    startsDirective (cs ++ d :: rest) = false := by
  induction cs with
  | nil => simp [startsDirective, Text.trimStart, hs, hd]
  | cons c cs ih =>
      obtain ⟨hc, hh⟩ := not_or.1 (mt List.mem_cons.2 hh)
      by_cases white : Text.isWhitespace c
      · simpa [startsDirective, Text.trimStart, white] using ih hh
      · simp [startsDirective, Text.trimStart, white, Ne.symm hc]

/-- From any mode, without a hash sign. -/
theorem step_reread (mode : Mode) {c : Char} {cs : List Char} (hh : '#' ∉ c :: cs) :
    (step mode c cs).Reread (step .expression c cs) := by
  have hc : c ≠ '#' := fun he => hh (by simp [he])
  cases mode with
  | text => exact textStep_reread hc
  | arguments => exact argumentsStep_reread hc
  | call =>
      rw [step]
      split
      · next hp =>
        obtain rfl : c = '(' := by simpa using hp
        exact openParen_reread cs _
      · exact textStep_reread hc
  | tail => exact tailStep_reread hc
  | property =>
      rw [step]
      cases hn : nameAt (c :: cs) with
      | nil => exact textStep_reread hc
      | cons d name =>
          refine .emit fun _ => ?_
          by_cases start : isNameStart c
          · rw [nameAt, if_pos start] at hn
            obtain ⟨rfl, rfl⟩ := List.cons.inj hn
            have solid := (solid_of_isNameChar (isNameChar_of_isNameStart start)).1
            simp only [step, codeStep, not_isCodeBlank solid, codeToken_word start, Token.inCode,
              String.toList_ofList, List.length_cons, Nat.add_sub_cancel]
            rfl
          · rw [nameAt, if_neg start] at hn
            cases hn
  | method =>
      rw [step]
      split
      · next hp =>
        obtain rfl : c = '(' := by simpa using hp
        exact openParen_reread cs _
      · exact tailStep_reread hc
  | code depth inTail =>
      rw [step, startsDirective_of_hashless hh]
      exact codeStep_reread c cs _ _
  | expression => exact codeStep_reread c cs _ _

theorem not_mem_drop {cs : List Char} {c d : Char} (h : d ∉ c :: cs) (n : Nat) : d ∉ cs.drop n :=
  fun hm => h (List.mem_cons_of_mem _ (List.mem_of_mem_drop hm))

/-- A run without a hash sign that finds tokens of code alone finds them in code. -/
theorem run_inCode {mode : Mode} {offset : Nat} {cs : List Char} {lexemes : List Lexeme}
    (hh : '#' ∉ cs) (h : run mode offset cs = .ok lexemes) (hc : ∀ l ∈ lexemes, l.1.isCode) :
    run .expression offset cs = .ok (lexemes.map Lexeme.inCode) := by
  induction hl : cs.length using Nat.strong_induction_on generalizing mode offset cs lexemes with
  | _ n ih =>
      subst hl
      cases cs with
      | nil =>
          rw [run] at h ⊢
          cases h
          rfl
      | cons c cs =>
          have shorter (more : Nat) : (cs.drop more).length < (c :: cs).length := by
            rw [List.length_drop, List.length_cons]
            omega
          have again := step_reread mode hh
          rcases run_eq_ok h with ⟨t, more, next, tail, hs, hr, rfl⟩ | ⟨more, next, hs, hr⟩
          · rw [hs] at again
            obtain ⟨ht, hc⟩ := List.forall_mem_cons.1 hc
            have rest := ih _ (shorter more) (not_mem_drop hh more) hr hc rfl
            cases again with
            | emit he =>
                rw [run, he ht]
                simp only [rest]
                rfl
          · rw [hs] at again
            have rest := ih _ (shorter more) (not_mem_drop hh more) hr hc rfl
            generalize hg : step .expression c cs = s at again
            cases again with
            | skip =>
                rw [run, hg]
                exact rest

end Lexer

end Template
