import Template.Proofs.Token.Cut
import Template.Proofs.Token.Slashes

/-!
Where the lexer fails it has found no fault before: what stands in front of the place of an error
has its tokens. In one place it has not. Code leaves the white space in front of a hash sign to the
text that the hash sign begins, and without the hash sign it is white space of code, where only
blanks and line breaks may stand.
-/

namespace Template

/-- The fault is at the front of the characters. -/
def LexFault.Marks : LexFault → List Char → Prop
  | .unterminatedString, cs => cs.head? = some '"' ∨ cs.head? = some '\''
  | .unterminatedComment, cs => ['#', '*'] <+: cs
  | .unterminatedUnparsed, cs => ['#', '[', '['] <+: cs
  | .unexpected c, cs => cs.head? = some c

namespace Lexer

/-- The step takes `more` characters behind its first, and the machine goes on in `next`. -/
inductive Step.Goes (more : Nat) (next : Mode) : Step → Prop where
  | emit (token : Token) : Goes more next (.emit token more next)
  | skip : Goes more next (.skip more next)

/-- From the mode, the machine fails behind the characters and in front of `after`. -/
inductive Fails (fault : LexFault) (after : List Char) : Mode → List Char → Prop where
  | here {mode : Mode} {x : Char} {rest : List Char} (ha : after = x :: rest)
      (hs : step mode x rest = .fail fault) : Fails fault after mode []
  | step {mode next : Mode} {c : Char} {taken rest : List Char}
      (hs : (step mode c (taken ++ (rest ++ after))).Goes taken.length next)
      (h : Fails fault after next rest) : Fails fault after mode (c :: (taken ++ rest))

/-- From the mode, the machine finds tokens up to the end. -/
def Accepts (mode : Mode) (cs : List Char) : Prop :=
  ∀ offset, ∃ lexemes, run mode offset cs = .ok lexemes

theorem run_goes {mode next : Mode} {c : Char} {cs : List Char} {more : Nat}
    (hs : (step mode c cs).Goes more next) (offset : Nat) :
    ∃ lexemes, run mode offset (c :: cs) =
      (run next (offset + Text.byteLength (c :: cs.take more)) (cs.drop more)).map
        (lexemes ++ ·) := by
  rw [run]
  generalize step mode c cs = s at hs
  cases hs with
  | emit token =>
      refine ⟨[(token, ⟨offset, offset + Text.byteLength (c :: cs.take more)⟩)], ?_⟩
      simp only
      split <;> next he => rw [he]; rfl
  | skip =>
      refine ⟨[], ?_⟩
      simp only
      cases run next (offset + Text.byteLength (c :: cs.take more)) (cs.drop more) <;> rfl

theorem accepts_nil (mode : Mode) : Accepts mode [] := fun offset => ⟨[], by rw [run]⟩

theorem accepts_cons {mode next : Mode} {c : Char} {cs : List Char} {more : Nat}
    (hs : (step mode c cs).Goes more next) (h : Accepts next (cs.drop more)) :
    Accepts mode (c :: cs) := by
  intro offset
  obtain ⟨lexemes, he⟩ := run_goes hs offset
  obtain ⟨tail, ht⟩ := h (offset + Text.byteLength (c :: cs.take more))
  exact ⟨lexemes ++ tail, by rw [he, ht]; rfl⟩

section Faults

variable {fault : LexFault} {mode next : Mode} {c : Char} {cs before after : List Char}

theorem Fails.ne_nil (h : Fails fault after mode before) : after ≠ [] := by
  induction h with
  | here ha => rw [ha]; simp
  | step _ _ ih => exact ih

theorem Fails.run (h : Fails fault after mode before) (offset : Nat) :
    run mode offset (before ++ after) = .error ⟨fault, offset + Text.byteLength before⟩ := by
  induction h generalizing offset with
  | here ha hs =>
      rw [ha, List.nil_append, Lexer.run]
      simp only [hs]
      rfl
  | @step _ _ c taken rest hs _ ih =>
      obtain ⟨lexemes, he⟩ := run_goes hs offset
      rw [List.cons_append, List.append_assoc, he, List.take_left, List.drop_left, ih,
        ← List.cons_append, Text.byteLength_append, Nat.add_assoc]
      rfl

theorem fails_of_run {offset : Nat} {e : LexError} (h : Lexer.run mode offset cs = .error e) :
    ∃ before after, cs = before ++ after ∧ Fails e.fault after mode before ∧
      e.offset = offset + Text.byteLength before := by
  induction hl : cs.length using Nat.strong_induction_on generalizing mode offset cs with
  | _ n ih =>
      subst hl
      cases cs with
      | nil =>
          rw [Lexer.run] at h
          cases h
      | cons c cs =>
          have onward {more : Nat} {next : Mode} (hs : (Lexer.step mode c cs).Goes more next) :
              ∃ before after, c :: cs = before ++ after ∧ Fails e.fault after mode before ∧
                e.offset = offset + Text.byteLength before := by
            obtain ⟨lexemes, he⟩ := run_goes hs offset
            have later : Lexer.run next (offset + Text.byteLength (c :: cs.take more))
                (cs.drop more) = .error e := by
              rw [he] at h
              cases hr : Lexer.run next (offset + Text.byteLength (c :: cs.take more))
                (cs.drop more) with
              | ok => simp [hr, Except.map] at h
              | error => simpa [hr, Except.map] using h
            have shorter : (cs.drop more).length < (c :: cs).length := by
              rw [List.length_drop, List.length_cons]
              omega
            obtain ⟨before, after, hd, hf, ho⟩ := ih _ shorter later rfl
            have inside : more ≤ cs.length := by
              have := congrArg List.length hd
              have := List.length_pos_iff.2 hf.ne_nil
              rw [List.length_drop, List.length_append] at *
              omega
            refine ⟨c :: (cs.take more ++ before), after, ?_, .step ?_ hf, ?_⟩
            · rw [List.cons_append, List.append_assoc, ← hd, List.take_append_drop]
            · rw [← hd, List.take_append_drop, List.length_take_of_le inside]
              exact hs
            · rw [ho, ← List.cons_append, Text.byteLength_append, Nat.add_assoc]
          cases hs : Lexer.step mode c cs with
          | emit token more next => exact onward (by rw [hs]; exact .emit token)
          | skip more next => exact onward (by rw [hs]; exact .skip)
          | fail fault =>
              rw [Lexer.run] at h
              simp only [hs] at h
              cases h
              exact ⟨[], c :: cs, rfl, .here rfl hs, rfl⟩

end Faults

section Marks

theorem dollarStep_ne_fail (cs : List Char) (fault : LexFault) :
    dollarStep cs ≠ .fail fault := by
  unfold dollarStep
  split <;> simp

theorem slashStep_ne_fail (more : Nat) (cs : List Char) (fault : LexFault) :
    slashStep more cs ≠ .fail fault := by
  simp only [slashStep]
  split
  · simp
  · split <;> simp

theorem hashStep_marks {cs : List Char} {fault : LexFault} (h : hashStep cs = .fail fault) :
    fault.Marks ('#' :: cs) := by
  unfold hashStep at h
  split at h
  · cases h
  · split at h
    · cases h
    · cases h
      exact ⟨_, rfl⟩
  · split at h
    · cases h
    · cases h
      exact ⟨_, rfl⟩
  · split at h
    · cases h
    · split at h
      · cases h
      · cases h
        rfl
  · split at h <;> cases h

/-- In text only what begins with a hash sign fails. -/
theorem textStep_marks {c : Char} {cs : List Char} {fault : LexFault}
    (h : textStep c cs = .fail fault) : c = '#' ∧ fault.Marks (c :: cs) := by
  simp only [textStep] at h
  split at h
  · next hash =>
    obtain rfl : c = '#' := by simpa using hash
    exact ⟨rfl, hashStep_marks h⟩
  · split at h
    · exact absurd h (dollarStep_ne_fail cs fault)
    · split at h
      · exact absurd h (slashStep_ne_fail _ _ fault)
      · split at h <;> cases h

theorem codeToken_marks {c : Char} {cs : List Char} {fault : LexFault}
    (h : codeToken c cs = .error fault) : fault.Marks (c :: cs) := by
  unfold codeToken at h
  split at h
  · next dollar =>
    split at h
    · cases h
    · cases h
      simpa [LexFault.Marks] using dollar
  · split at h
    · next quote =>
      split at h
      · cases h
      · cases h
        simpa [LexFault.Marks] using quote
    · split at h
      · cases h
      · split at h
        · cases h
        · split at h
          · cases h
          · cases h
            rfl

theorem codeStep_marks {c : Char} {cs : List Char} {next : Token → Mode} {same : Mode}
    {fault : LexFault} (h : codeStep c cs next same = .fail fault) : fault.Marks (c :: cs) := by
  unfold codeStep at h
  split at h
  · cases h
  · split at h
    · cases h
    · next hf =>
      cases h
      exact codeToken_marks hf

theorem tailStep_marks {c : Char} {cs : List Char} {fault : LexFault}
    (h : tailStep c cs = .fail fault) : fault.Marks (c :: cs) := by
  simp only [tailStep] at h
  split at h
  · cases h
  · split at h
    · cases h
    · exact (textStep_marks h).2

theorem step_marks {mode : Mode} {c : Char} {cs : List Char} {fault : LexFault}
    (h : step mode c cs = .fail fault) : fault.Marks (c :: cs) := by
  cases mode with
  | text => exact (textStep_marks h).2
  | arguments =>
      simp only [step] at h
      split at h
      · cases h
      · split at h
        · cases h
        · exact (textStep_marks h).2
  | call =>
      simp only [step] at h
      split at h
      · cases h
      · exact (textStep_marks h).2
  | tail => exact tailStep_marks h
  | property =>
      simp only [step] at h
      split at h
      · exact (textStep_marks h).2
      · cases h
  | method =>
      simp only [step] at h
      split at h
      · cases h
      · exact tailStep_marks h
  | code depth inTail =>
      simp only [step] at h
      split at h
      · exact (textStep_marks h).2
      · exact codeStep_marks h
  | expression => exact codeStep_marks h

theorem Fails.marks {fault : LexFault} {after before : List Char} {mode : Mode}
    (h : Fails fault after mode before) : fault.Marks after := by
  induction h with
  | here ha hs =>
      rw [ha]
      exact step_marks hs
  | step _ _ ih => exact ih

end Marks

section White

theorem goes_of_slashes {cs : List Char} (h : ∀ c ∈ cs, c = '\\') :
    ∃ more, (textStep '\\' cs).Goes more .text := by
  have whole := @textStep_slashes cs.length [] (by simp)
  rw [List.append_nil, ← List.eq_replicate_length.2 h] at whole
  rw [whole]
  by_cases one : cs.length = 0
  · rw [one]
    exact ⟨0, .emit _⟩
  · simp only [slashStep, beq_iff_eq, one, if_false]
    exact ⟨_, .emit _⟩

/-- A run of backslashes is text to its end. -/
theorem accepts_slashes {cs : List Char} (h : ∀ c ∈ cs, c = '\\') : Accepts .text cs := by
  induction hl : cs.length using Nat.strong_induction_on generalizing cs with
  | _ n ih =>
      subst hl
      cases cs with
      | nil => exact accepts_nil .text
      | cons c cs =>
          obtain ⟨rfl, hs⟩ := List.forall_mem_cons.1 h
          obtain ⟨more, goes⟩ := goes_of_slashes hs
          refine accepts_cons goes (ih _ ?_ (fun c hc => hs c (List.mem_of_mem_drop hc)) rfl)
          rw [List.length_drop, List.length_cons]
          omega

theorem codeToken_white {c : Char} (h : Text.isWhitespace c) (cs : List Char) :
    codeToken c cs = .error (.unexpected c) := by
  have visible {d : Char} (hd : Text.isWhitespace d = false) : c ≠ d := by
    rintro rfl
    rw [h] at hd
    cases hd
  have name : isNameChar c = false := by
    rw [Bool.eq_false_iff]
    intro hn
    rw [(solid_of_isNameChar hn).1] at h
    cases h
  have digit : c.isDigit = false := by
    rw [Bool.eq_false_iff]
    intro hd
    rw [isNameChar_of_isDigit hd] at name
    cases name
  have start : isNameStart c = false := by
    rw [Bool.eq_false_iff]
    intro hs
    rw [isNameChar_of_isNameStart hs] at name
    cases name
  have none : symbol? c cs.head? = none := by
    unfold symbol?
    split
    all_goals first
      | rfl
      | exact absurd h (by decide)
  have dollar : c ≠ '$' := visible (by decide)
  have quote : c ≠ '"' := visible (by decide)
  have apostrophe : c ≠ '\'' := visible (by decide)
  simp [codeToken, dollar, quote, apostrophe, digit, start, none]

variable {depth : Nat} {inTail : Bool}

theorem step_white {c : Char} {cs : List Char} (h : ∀ d ∈ c :: cs, Text.isWhitespace d) :
    step (.code depth inTail) c cs =
      if Text.isCodeBlank c then .skip (cs.takeWhile Text.isCodeBlank).length (.code depth inTail)
      else .fail (.unexpected c) := by
  simp only [step, startsDirective_white h, codeStep, codeToken_white (h c (by simp))]
  rfl

/-- White space behind code: all blanks of code, or a fault at the first that is none. -/
theorem white_code {cs : List Char} (h : ∀ c ∈ cs, Text.isWhitespace c) :
    Accepts (.code depth inTail) cs ∨ ∃ blanks c rest, cs = blanks ++ c :: rest ∧
      Text.isCodeBlank c = false ∧
        Fails (.unexpected c) (c :: rest) (.code depth inTail) blanks := by
  rcases all_or_stop Text.isCodeBlank cs with all | ⟨blanks, c, rest, rfl, hb, hc⟩
  · cases cs with
    | nil => exact .inl (accepts_nil _)
    | cons c cs =>
        obtain ⟨hc, hcs⟩ := List.forall_mem_cons.1 all
        have goes : (step (.code depth inTail) c cs).Goes cs.length (.code depth inTail) := by
          rw [step_white h, if_pos hc, List.takeWhile_eq_self_iff.2 hcs]
          exact .skip
        refine .inl (accepts_cons goes ?_)
        rw [List.drop_length]
        exact accepts_nil _
  · refine .inr ⟨blanks, c, rest, rfl, hc, ?_⟩
    have behind : Fails (.unexpected c) (c :: rest) (.code depth inTail) [] := by
      refine .here rfl ?_
      rw [step_white fun d hd => h d (List.mem_append_right blanks hd), hc]
      rfl
    cases blanks with
    | nil => exact behind
    | cons b blanks =>
        obtain ⟨hb', hbs⟩ := List.forall_mem_cons.1 hb
        have goes : (step (.code depth inTail) b (blanks ++ ([] ++ c :: rest))).Goes blanks.length
            (.code depth inTail) := by
          rw [List.nil_append, step_white (by simpa using h), if_pos hb',
            takeWhile_append_stop hbs hc]
          exact .skip
        have fails := Fails.step goes behind
        rwa [List.append_nil] at fails

end White

section FirstFault

variable {fault : LexFault} {mode next : Mode} {after before : List Char}

theorem textStep_white {c : Char} (h : Text.isWhitespace c) {cs : List Char} {more : Nat}
    (hs : (textStep c cs).Goes more next) : next = .text := by
  have hash : c ≠ '#' := by
    rintro rfl
    cases h
  have dollar : c ≠ '$' := by
    rintro rfl
    cases h
  have slash : c ≠ '\\' := by
    rintro rfl
    cases h
  simp only [textStep, beq_iff_eq, hash, dollar, slash, if_false] at hs
  split at hs <;> cases hs <;> rfl

/-- A fault in text behind white space has a hash sign at its front. -/
theorem Fails.hash (h : Fails fault after .text before) (hw : ∀ c ∈ before, Text.isWhitespace c) :
    after.head? = some '#' := by
  generalize hm : Mode.text = mode at h
  induction h with
  | here ha hs =>
      subst hm
      rw [ha, (textStep_marks hs).1]
      rfl
  | @step _ next c taken rest hs _ ih =>
      subst hm
      obtain ⟨hc, hw⟩ := List.forall_mem_cons.1 hw
      exact ih (fun d hd => hw d (List.mem_append_right taken hd)) (textStep_white hc hs).symm

/-- In front of a hash sign, white space that code does not skip. -/
inductive Exposed (mode : Mode) (after : List Char) : List Char → Prop where
  | mk {code rest : List Char} {c : Char} (hash : after.head? = some '#')
      (hw : ∀ d ∈ c :: rest, Text.isWhitespace d) (hc : Text.isCodeBlank c = false)
      (h : Fails (.unexpected c) (c :: rest) mode code) : Exposed mode after (code ++ c :: rest)

theorem Exposed.step {c : Char} {taken rest : List Char}
    (hs : (step mode c (taken ++ rest)).Goes taken.length next) (h : Exposed next after rest) :
    Exposed mode after (c :: (taken ++ rest)) := by
  cases h with
  | @mk code rest d hash hw hd h =>
      rw [← List.append_assoc, ← List.cons_append]
      exact .mk hash hw hd (.step hs h)

theorem codeStep_goes {c : Char} {cs : List Char} {mode : Mode} {more : Nat}
    (h : (codeStep c cs (fun _ => mode) mode).Goes more next) : next = mode := by
  unfold codeStep at h
  split at h
  · cases h
    rfl
  · split at h <;> cases h
    rfl

/-- A step in front of a fault stays in front of it, and only one that takes all meets it. -/
theorem Fails.reached {x : Char} {rest taken left : List Char} {s : Step}
    (hs : s.Goes taken.length next) (h : Fails fault (x :: rest) next left) :
    s.Before (taken ++ left).length x rest := by
  have inside : taken.length ≤ (taken ++ left).length := by
    rw [List.length_append]
    omega
  have meets : taken.length = (taken ++ left).length →
      ∃ fault, Lexer.step next x rest = .fail fault := by
    intro all
    obtain rfl : left = [] := List.length_eq_zero_iff.1 (by rw [List.length_append] at all; omega)
    cases h with
    | here ha hs =>
        cases ha
        exact ⟨fault, hs⟩
  cases hs with
  | emit | skip => exact ⟨inside, meets⟩

/-- What stands in front of a fault is read without it. -/
theorem Fails.cut (h : Fails fault after mode before) :
    Accepts mode before ∨ mode ≠ .expression ∧ Exposed mode after before := by
  induction h with
  | here => exact .inl (accepts_nil _)
  | @step mode next c taken rest hs hf ih =>
      obtain ⟨x, tail, rfl⟩ := List.exists_cons_of_ne_nil hf.ne_nil
      rw [← List.append_assoc] at hs
      cases step_cut (hf.reached hs) with
      | same same =>
          rw [← same] at hs
          cases ih with
          | inl accepts => exact .inl (accepts_cons hs (by rwa [List.drop_left]))
          | inr exposed =>
              refine .inr ⟨fun he => exposed.1 ?_, exposed.2.step hs⟩
              subst he
              exact codeStep_goes hs
      | slashes slashes text =>
          obtain ⟨rfl, behind⟩ := List.forall_mem_cons.1 slashes
          obtain ⟨more, goes⟩ := goes_of_slashes behind
          rw [← text] at goes
          exact .inl (accepts_cons goes
            (accepts_slashes fun d hd => behind d (List.mem_of_mem_drop hd)))
      | white hm white text =>
          subst hm
          rw [text] at hs
          obtain ⟨hc, hw⟩ := List.forall_mem_cons.1 white
          have hash : (x :: tail).head? = some '#' := by
            rw [textStep_white hc hs] at hf
            exact hf.hash fun d hd => hw d (List.mem_append_right taken hd)
          cases white_code white with
          | inl accepts => exact .inl accepts
          | inr fails =>
              obtain ⟨blanks, d, rest, he, hd, fails⟩ := fails
              rw [he] at white ⊢
              exact .inr ⟨nofun, .mk hash
                (fun e h => white e (List.mem_append_right blanks h)) hd fails⟩

/-- The code in front of white space that it does not skip has its tokens. -/
theorem accepts_before_white {code rest : List Char} {c : Char} (hw : Text.isWhitespace c)
    (h : Fails (.unexpected c) (c :: rest) mode code) : Accepts mode code := by
  cases h.cut with
  | inl accepts => exact accepts
  | inr exposed =>
      cases exposed.2 with
      | mk hash =>
          cases hash
          cases hw

end FirstFault

end Lexer

namespace LexError

/-- The error is where `after` starts, behind `before` and not at the end, and of the kind that
stands there. -/
structure Marks (e : LexError) (before after : String) : Prop where
  inside : after ≠ ""
  offset : e.offset = Text.byteLength before.toList
  fault : e.fault.Marks after.toList

end LexError

/-- In front of a hash sign the source ends in white space, which code left to the text behind. Cut
off, it is white space of code, and the first of it that is no blank of code is a fault. -/
inductive EndsExposed : String → String → Prop where
  | mk {code after : String} {c : Char} {rest : List Char}
      (hash : after.toList.head? = some '#') (white : ∀ d ∈ c :: rest, Text.isWhitespace d)
      (solid : Text.isCodeBlank c = false) (accepted : (tokenize code).isOk)
      (fails : tokenize (code ++ String.ofList (c :: rest)) =
        .error ⟨.unexpected c, Text.byteLength code.toList⟩) :
      EndsExposed (code ++ String.ofList (c :: rest)) after

theorem Lexer.Accepts.isOk {mode : Lexer.Mode} {cs : List Char} (h : Lexer.Accepts mode cs) :
    (Lexer.run mode 0 cs).isOk := by
  obtain ⟨lexemes, he⟩ := h 0
  rw [he]
  rfl

theorem marks_of_fails {mode : Lexer.Mode} {source : String} {e : LexError}
    (h : Lexer.run mode 0 source.toList = .error e) : ∃ before after,
      source = String.ofList before ++ String.ofList after ∧
        e.Marks (String.ofList before) (String.ofList after) ∧
          Lexer.Fails e.fault after mode before := by
  obtain ⟨before, after, hs, hf, ho⟩ := Lexer.fails_of_run h
  refine ⟨before, after, ?_, ⟨?_, ?_, ?_⟩, hf⟩
  · rw [← String.ofList_append, ← hs, String.ofList_toList]
  · simpa using hf.ne_nil
  · rw [ho, Nat.zero_add, String.toList_ofList]
  · rw [String.toList_ofList]
    exact hf.marks

/-- An error is at the first bad place: its kind is what stands there, and what stands in front of
it has its tokens. Only where white space of code is in front of a hash sign the source cut off
there may end in a fault, and then at that white space. -/
theorem lexError_marks_first {source : String} {e : LexError} :
    (tokenize source = .error e → ∃ before after, source = before ++ after ∧
      e.Marks before after ∧ ((tokenize before).isOk ∨ EndsExposed before after)) ∧
    (tokenizeExpression source = .error e → ∃ before after, source = before ++ after ∧
      e.Marks before after ∧ (tokenizeExpression before).isOk) := by
  constructor
  · intro h
    obtain ⟨before, after, whole, marks, fails⟩ := marks_of_fails h
    refine ⟨_, _, whole, marks, ?_⟩
    cases fails.cut with
    | inl accepts =>
        refine .inl ?_
        rw [tokenize, String.toList_ofList]
        exact accepts.isOk
    | inr exposed =>
        cases exposed.2 with
        | @mk code rest c hash white solid behind =>
            have accepts := Lexer.accepts_before_white (white c (by simp)) behind
            refine .inr ?_
            rw [String.ofList_append]
            refine .mk (by rwa [String.toList_ofList]) white solid ?_ ?_
            · rw [tokenize, String.toList_ofList]
              exact accepts.isOk
            · rw [tokenize, ← String.ofList_append, String.toList_ofList, String.toList_ofList,
                behind.run, Nat.zero_add]
  · intro h
    obtain ⟨before, after, whole, marks, fails⟩ := marks_of_fails h
    refine ⟨_, _, whole, marks, ?_⟩
    cases fails.cut with
    | inl accepts =>
        rw [tokenizeExpression, String.toList_ofList]
        exact accepts.isOk
    | inr exposed => exact absurd rfl exposed.1

/-- A block comment that is not closed, behind a blank that only text knows. -/
theorem cut_in_front_of_comment :
    let source := "#if(\u00a0#*"
    let before := "#if(\u00a0"
    tokenize source = .error ⟨.unterminatedComment, 6⟩ ∧ source = before ++ "#*" ∧
      Text.byteLength before.toList = 6 ∧
        tokenize before = .error ⟨.unexpected '\u00a0', 4⟩ := by
  decide +kernel

/-- The same source, and a string that is not closed. -/
theorem lexError_marks_first_comment :
    let comment := "#if(\u00a0#*"
    let string := "a + 'é"
    (tokenize comment = .error ⟨.unterminatedComment, 6⟩ ∧
      ∃ before after, comment = before ++ after ∧
        LexError.Marks ⟨.unterminatedComment, 6⟩ before after ∧
          ((tokenize before).isOk ∨ EndsExposed before after)) ∧
    (tokenizeExpression string = .error ⟨.unterminatedString, 4⟩ ∧
      ∃ before after, string = before ++ after ∧
        LexError.Marks ⟨.unterminatedString, 4⟩ before after ∧
          (tokenizeExpression before).isOk) := by
  intro comment string
  have first : tokenize comment = .error ⟨.unterminatedComment, 6⟩ := by decide +kernel
  have second : tokenizeExpression string = .error ⟨.unterminatedString, 4⟩ := by decide +kernel
  exact ⟨⟨first, lexError_marks_first.1 first⟩, second, lexError_marks_first.2 second⟩

end Template
