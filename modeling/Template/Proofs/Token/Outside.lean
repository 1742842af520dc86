import Template.Proofs.Token.Lossless
import Template.Proofs.Token.Nesting

/-!
Outside of brackets. There are no strings there: the lexer reads strings in code alone, and what
leads into code is a token that opens a level of nesting.
-/

namespace Template

namespace Lexer

/-- Not in code. -/
def Mode.isOutside : Mode → Bool
  | .code _ _ | .expression => false
  | _ => true

/-- A step that opens a level, or reads no string and stays outside of code. -/
inductive Step.Outside : Step → Prop where
  | opens {t : Token} {more : Nat} {next : Mode} (h : t.opens) : Outside (.emit t more next)
  | emit {t : Token} {more : Nat} {next : Mode} (ht : ∀ raw, t ≠ .str raw) (hn : next.isOutside) :
      Outside (.emit t more next)
  | skip {more : Nat} {next : Mode} (hn : next.isOutside) : Outside (.skip more next)
  | fail {fault : LexFault} : Outside (.fail fault)

theorem hashWordStep_outside (name : List Char) (more : Nat) :
    (hashWordStep name more).Outside := by
  unfold hashWordStep hashWord
  cases Keyword.ofWord? name with
  | none => exact .emit (by simp) rfl
  | some k =>
      refine .emit (by simp) ?_
      dsimp only [afterHashWord]
      split <;> rfl

theorem hashStep_outside (cs : List Char) : (hashStep cs).Outside := by
  unfold hashStep
  split
  · exact .skip rfl
  · split
    · exact .skip rfl
    · exact .fail
  · split
    · exact .emit (by simp) rfl
    · exact .fail
  · split
    · exact .emit (by simp) rfl
    · split
      · exact hashWordStep_outside ..
      · exact .fail
  · split
    · exact .emit (by simp) rfl
    · exact hashWordStep_outside ..

theorem dollarStep_outside (cs : List Char) : (dollarStep cs).Outside := by
  unfold dollarStep
  cases hr : reference? cs with
  | none => exact .emit (by simp) rfl
  | some found =>
      obtain ⟨t, n⟩ := found
      obtain ⟨-, ⟨name, quiet, rfl⟩ | ⟨quiet, rfl⟩⟩ := reference?_spelled hr
      · exact .emit (by simp) rfl
      · exact .opens rfl

theorem slashStep_outside (more : Nat) (rest : List Char) : (slashStep more rest).Outside := by
  simp only [slashStep]
  split
  · exact .emit (by simp) rfl
  · split <;> exact .emit (by simp) rfl

theorem textStep_outside (c : Char) (cs : List Char) : (textStep c cs).Outside := by
  unfold textStep
  split
  · exact hashStep_outside cs
  · split
    · exact dollarStep_outside cs
    · split
      · exact slashStep_outside ..
      · split <;> exact .emit (by simp) rfl

theorem tailStep_outside (c : Char) (cs : List Char) : (tailStep c cs).Outside := by
  unfold tailStep
  split
  · exact .emit (by simp) rfl
  · split
    · exact .opens rfl
    · exact textStep_outside c cs

theorem step_outside {mode : Mode} (hm : mode.isOutside) (c : Char) (cs : List Char) :
    (step mode c cs).Outside := by
  cases mode with
  | text => exact textStep_outside c cs
  | arguments =>
      simp only [step]
      split
      · exact .opens rfl
      · split
        · exact .skip rfl
        · exact textStep_outside c cs
  | call =>
      simp only [step]
      split
      · exact .opens rfl
      · exact textStep_outside c cs
  | tail => exact tailStep_outside c cs
  | property =>
      simp only [step]
      split
      · exact textStep_outside c cs
      · exact .emit (by simp) rfl
  | method =>
      simp only [step]
      split
      · exact .opens rfl
      · exact tailStep_outside c cs
  | code | expression => cases hm

/-- As long as nothing opens a level no string is read. -/
theorem run_outside {mode : Mode} (hm : mode.isOutside) {offset : Nat} {cs : List Char}
    {lexemes : List Lexeme} (h : run mode offset cs = .ok lexemes)
    (flat : ∀ l ∈ lexemes, l.1.opens = false) : ∀ l ∈ lexemes, ∀ raw, l.1 ≠ .str raw := by
  induction hl : cs.length using Nat.strong_induction_on generalizing mode offset cs lexemes with
  | _ n ih =>
      subst hl
      cases cs with
      | nil =>
          rw [run] at h
          cases h
          exact List.forall_mem_nil _
      | cons c cs =>
          have shorter (more : Nat) : (cs.drop more).length < (c :: cs).length := by
            rw [List.length_drop, List.length_cons]
            omega
          have outside := step_outside hm c cs
          rcases run_eq_ok h with ⟨t, more, next, tail, hs, hr, rfl⟩ | ⟨more, next, hs, hr⟩
          · rw [hs] at outside
            obtain ⟨closed, flat⟩ := List.forall_mem_cons.1 flat
            cases outside with
            | opens ho => exact absurd ho (by simp [closed])
            | emit ht hn => exact List.forall_mem_cons.2 ⟨ht, ih _ (shorter more) hn hr flat rfl⟩
          · rw [hs] at outside
            cases outside with
            | skip hn => exact ih _ (shorter more) hn hr flat rfl

end Lexer

/-- Where no level may be opened, none is. -/
theorem Nesting.opens_of_deepest {ts : List Token} {n : Nesting} (h : n.deepest ts = 0) :
    ∀ t ∈ ts, t.opens = false := by
  induction ts generalizing n with
  | nil => exact List.forall_mem_nil _
  | cons t ts ih =>
      refine List.forall_mem_cons.2 ⟨?_, ih (n := n.next t) ?_⟩
      · by_contra opens
        have ho : t.opens = true := by simpa using opens
        simp [deepest, deepens, ho, next_of_opens ho] at h
      · simp only [deepest] at h
        split at h <;> omega

end Template
