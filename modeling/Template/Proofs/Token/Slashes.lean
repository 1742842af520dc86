import Template.Proofs.Token.Spaced

/-!
Backslashes in front of a directive word. An odd run takes the word into the text, and of the other
backslashes every pair becomes one. An even run is text as it stands, and the word is a directive.
-/

namespace Template

namespace Keyword

theorem ofWord?_word (k : Keyword) : ofWord? k.word.toList = some k := by
  cases k <;> rfl

theorem isName_word (k : Keyword) : Lexer.IsName k.word.toList := by
  cases k <;> exact Lexer.isName_of_nameAt (by decide) (by decide)

end Keyword

namespace Lexer

/-- A name in front of the characters ends there. -/
def EndsName (rest : List Char) : Prop := ∀ c ∈ rest.head?, isNameChar c = false

theorem nameAt_append {name rest : List Char} (hn : IsName name) (hr : EndsName rest) :
    nameAt (name ++ rest) = name := by
  cases hn with
  | mk hc hs =>
      rw [List.cons_append, nameAt, if_pos hc]
      cases rest with
      | nil => rw [List.append_nil, List.takeWhile_eq_self_iff.2 hs]
      | cons d rest => rw [takeWhile_append_stop hs (hr d rfl)]

section

variable {rest : List Char}

theorem hashStep_word (k : Keyword) (hr : EndsName rest) :
    hashStep (k.word.toList ++ rest) =
      .emit (.directive k) k.word.toList.length (afterHashWord (.directive k)) := by
  have named := nameAt_append k.isName_word hr
  have token : hashWord k.word.toList = .directive k := by rw [hashWord, k.ofWord?_word]
  have start : ∃ c cs, k.word.toList = c :: cs ∧ isNameChar c := by
    cases k <;> exact ⟨_, _, rfl, rfl⟩
  obtain ⟨c, cs, hk, hc⟩ := start
  rw [hk, List.cons_append] at named
  rw [hk] at token
  rw [hk, List.cons_append]
  unfold hashStep
  split
  case h_5 =>
    rw [named]
    change hashWordStep (c :: cs) (c :: cs).length = _
    rw [hashWordStep, token]
  -- no name begins with one of the other characters that mean something behind the hash sign
  all_goals
    next heq => exact absurd (List.cons.inj heq).1 (ne_of_isNameChar hc (by decide))

/-- The word is found, and not a longer one that begins with it. -/
theorem directiveWord?_word (k : Keyword) (hr : EndsName rest) :
    directiveWord? (k.word.toList ++ rest) = some k.word.length := by
  cases k with
  | otherwise =>
      cases rest with
      | nil => rfl
      | cons c rest =>
          have other : c ≠ 'i' := by
            rintro rfl
            exact absurd (hr 'i' rfl) (by decide)
          simp [directiveWord?, Keyword.all, Keyword.word, List.isPrefixOf, Ne.symm other]
  | _ => simp [directiveWord?, Keyword.all, Keyword.word, List.isPrefixOf]

end

/-- Outside code and its brackets the characters may be text. -/
def Mode.ReadsText : Mode → Prop
  | .code .. | .expression => False
  | _ => True

theorem step_slash {mode : Mode} (hm : mode.ReadsText) (cs : List Char) :
    step mode '\\' cs = textStep '\\' cs := by
  have letter : isNameStart '\\' = false := by decide
  cases mode with
  | code | expression => exact hm.elim
  | text => rfl
  | property => simp [step, nameAt, letter]
  | arguments | call | tail | method =>
      simp [step, tailStep, show Text.isBlank '\\' = false by decide]

theorem textStep_slashes (more : Nat) {rest : List Char} (hr : rest.head? ≠ some '\\') :
    textStep '\\' (List.replicate more '\\' ++ rest) = slashStep more rest := by
  have run : (List.replicate more '\\' ++ rest).takeWhile (· == '\\') =
      List.replicate more '\\' := by
    rw [List.takeWhile_append_of_pos fun c hc => by simp [List.eq_of_mem_replicate hc]]
    cases rest with
    | nil => exact List.append_nil _
    | cons c rest =>
        have other : c ≠ '\\' := fun he => hr (congrArg some he)
        rw [List.takeWhile_cons_of_neg (by simp [other]), List.append_nil]
  simp [textStep, run]

theorem pairedSlashes_even {n : Nat} (h : n % 2 = 0) : pairedSlashes false n = n := by
  simp [pairedSlashes, h]

/-- The text that `n` backslashes and a directive word stand for. -/
def slashedText (n : Nat) (k : Keyword) : List Char :=
  if n % 2 = 1 then List.replicate (n / 2) '\\' ++ '#' :: k.word.toList
  else List.replicate n '\\'

def slashedTokens (n : Nat) (k : Keyword) : List Token :=
  if n % 2 = 1 then [.escaped (String.ofList (slashedText n k))]
  else [.text (String.ofList (slashedText n k)), .directive k]

def afterSlashed (n : Nat) (k : Keyword) : Mode :=
  if n % 2 = 1 then .text else afterHashWord (.directive k)

theorem slashStep_odd {more : Nat} (h : more % 2 = 0) (k : Keyword) {rest : List Char}
    (hr : EndsName rest) :
    slashStep more ('#' :: (k.word.toList ++ rest)) =
      .emit (.escaped (String.ofList (List.replicate (more / 2) '\\' ++ '#' :: k.word.toList)))
        (more + k.word.length + 1) .text := by
  simp only [slashStep, h, directiveWord?_word k hr, beq_self_eq_true, if_true,
    List.take_succ_cons, ← String.length_toList, List.take_left]

theorem slashStep_even {more : Nat} (h : more % 2 = 1) (cs : List Char) :
    slashStep more ('#' :: cs) =
      .emit (.text (String.ofList (List.replicate (more + 1) '\\'))) more .text := by
  have paired : pairedSlashes false (more + 1) = more + 1 := pairedSlashes_even (by omega)
  have some : more ≠ 0 := by omega
  simp [slashStep, h, some, paired]

/-- How many backslashes there are tells whether the word behind them is text or a directive. -/
theorem reads_slashes {mode : Mode} (hm : mode.ReadsText) {n : Nat} (hn : 1 ≤ n) (k : Keyword)
    {rest : List Char} (hr : EndsName rest) :
    Reads mode (List.replicate n '\\' ++ '#' :: (k.word.toList ++ rest)) (slashedTokens n k)
      (afterSlashed n k) rest := by
  obtain ⟨more, rfl⟩ : ∃ more, n = more + 1 := ⟨n - 1, by omega⟩
  have first : step mode '\\' (List.replicate more '\\' ++ '#' :: (k.word.toList ++ rest)) =
      slashStep more ('#' :: (k.word.toList ++ rest)) := by
    rw [step_slash hm, textStep_slashes more (by simp)]
  rw [List.replicate_succ, List.cons_append]
  by_cases odd : (more + 1) % 2 = 1
  · have half : (more + 1) / 2 = more / 2 := by omega
    rw [slashStep_odd (by omega) k hr] at first
    rw [slashedTokens, afterSlashed, slashedText, if_pos odd, if_pos odd, if_pos odd, half]
    have whole : List.replicate more '\\' ++ '#' :: (k.word.toList ++ rest) =
        (List.replicate more '\\' ++ '#' :: k.word.toList) ++ rest := by simp
    rw [whole] at first ⊢
    refine .emit ?_
    rw [first]
    simp [← String.length_toList, Nat.add_assoc]
  · rw [slashStep_even (by omega)] at first
    rw [slashedTokens, afterSlashed, slashedText, if_neg odd, if_neg odd, if_neg odd]
    have slashes : Reads mode ('\\' :: (List.replicate more '\\' ++ '#' :: (k.word.toList ++ rest)))
        [.text (String.ofList (List.replicate (more + 1) '\\'))] .text
        ('#' :: (k.word.toList ++ rest)) := by
      refine .emit ?_
      rw [first, List.length_replicate]
    have directive : Reads .text ('#' :: (k.word.toList ++ rest)) [.directive k]
        (afterHashWord (.directive k)) rest := .emit (hashStep_word k hr)
    exact slashes.trans directive

end Lexer

end Template
