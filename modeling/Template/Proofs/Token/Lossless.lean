import Mathlib.Data.List.TakeWhile
import Template.Proofs.Token.Pieces

/-!
The lexer loses nothing. Each step takes a piece of the source, and the mode it goes on in says at
which place it is, so that a run cuts the whole source into pieces.
-/

namespace Template

/-- Tokens that stand in code. -/
def Token.isCode : Token → Bool
  | .text _ | .newline | .unparsed _ | .escaped _ | .directive _ | .macroCall _ => false
  | _ => true

namespace Lexer

theorem takeWhile_split (f : Char → Bool) (cs : List Char) :
    ∃ run rest, cs.takeWhile f = run ∧ cs = run ++ rest ∧ ∀ c ∈ run, f c :=
  ⟨_, cs.dropWhile f, rfl, List.takeWhile_append_dropWhile.symm,
    fun _ hc => List.mem_takeWhile_imp hc⟩

theorem nameAt_split {cs name : List Char} (h : nameAt cs = name) (hn : name ≠ []) :
    IsName name ∧ ∃ rest, cs = name ++ rest := by
  subst h
  cases cs with
  | nil => exact absurd rfl hn
  | cons c cs =>
      by_cases hc : isNameStart c
      · obtain ⟨run, rest, hw, rfl, hr⟩ := takeWhile_split isNameChar cs
        rw [nameAt, if_pos hc, hw]
        exact ⟨.mk hc hr, rest, rfl⟩
      · rw [nameAt, if_neg hc] at hn
        exact absurd rfl hn

/-- The needle stands at the first place where it can. -/
theorem find?_split {needle cs : List Char} {n : Nat} (h : find? needle cs = some n) :
    ∃ body rest, cs = body ++ (needle ++ rest) ∧ body.length = n ∧
      ∀ k < n, ¬needle <+: cs.drop k := by
  fun_induction find? needle cs generalizing n with
  | case1 he =>
      cases h
      rw [List.isEmpty_iff.1 he]
      exact ⟨[], [], rfl, rfl, nofun⟩
  | case2 => cases h
  | case3 c cs hp =>
      cases h
      obtain ⟨rest, hr⟩ := List.isPrefixOf_iff_prefix.1 hp
      exact ⟨[], rest, hr.symm, rfl, nofun⟩
  | case4 c cs hp ih =>
      obtain ⟨m, hm, rfl⟩ := Option.map_eq_some_iff.1 h
      obtain ⟨body, rest, rfl, rfl, hk⟩ := ih hm
      refine ⟨c :: body, rest, rfl, rfl, fun k hl => ?_⟩
      cases k with
      | zero => exact fun he => hp (List.isPrefixOf_iff_prefix.2 he)
      | succ k => exact hk k (Nat.lt_of_succ_lt_succ hl)

/-- Before its last character comes, the needle has not been seen. -/
theorem not_infix_of_find? (front : List Char) (last : Char) {body rest : List Char}
    (h : ∀ k < body.length, ¬front ++ [last] <+: (body ++ (front ++ [last] ++ rest)).drop k) :
    ¬front ++ [last] <:+: body ++ front := by
  rintro ⟨a, b, he⟩
  have hl : a.length < body.length := by
    have := congrArg List.length he
    simp only [List.length_append, List.length_cons, List.length_nil] at this
    omega
  refine h a.length hl ⟨b ++ last :: rest, ?_⟩
  have whole : body ++ (front ++ [last] ++ rest) =
      a ++ (front ++ [last] ++ (b ++ last :: rest)) := by
    rw [List.append_assoc front, ← List.append_assoc body, ← he]
    simp
  rw [whole, List.drop_left]

/-- A line goes to the next line break, or to the end. -/
theorem line_split (cs : List Char) : ∃ line, cs.takeWhile (· != '\n') = line ∧ '\n' ∉ line ∧
    (cs = line ∨ ∃ rest, cs = line ++ '\n' :: rest) := by
  refine ⟨_, rfl, fun h => by simpa using List.mem_takeWhile_imp h, ?_⟩
  induction cs with
  | nil => exact .inl rfl
  | cons c cs ih =>
      by_cases hc : c = '\n'
      · subst hc
        exact .inr ⟨cs, rfl⟩
      · rw [List.takeWhile_cons_of_pos (by simpa using hc)]
        rcases ih with he | ⟨rest, he⟩
        · exact .inl (by rw [← he])
        · exact .inr ⟨rest, by rw [List.cons_append, ← he]⟩

/-- The place that the lexer is at in a mode. -/
inductive Mode.At : Mode → Place → Prop where
  | text : At .text (.within 0)
  | arguments : At .arguments .directive
  | call : At .call (.within 0)
  | tail : At .tail (.within 0)
  | property : At .property (.within 0)
  | method : At .method (.within 0)
  | code (depth : Nat) (inTail : Bool) : At (.code (depth + 1) inTail) (.within (depth + 1))

/-- The step takes a piece that may stand at the place. -/
inductive Step.Takes (p : Place) (c : Char) (cs : List Char) : Step → Prop where
  | emit {token : Token} {more : Nat} {next : Mode} (hs : token.Spelled (c :: cs.take more))
      (hn : next.At (p.after token)) : Takes p c cs (.emit token more next)
  | comment {more : Nat} (hc : Comment (c :: cs.take more)) : Takes p c cs (.skip more .text)
  | lastComment {content : List Char} {more : Nat} (hl : cs.length ≤ more)
      (hc : c :: cs = '#' :: '#' :: content) (h : '\n' ∉ content) :
      Takes p c cs (.skip more .text)
  | blanks {depth more : Nat} {next : Mode} (hp : p = .within (depth + 1))
      (hb : ∀ b ∈ c :: cs.take more, Text.isCodeBlank b) (hn : next.At p) :
      Takes p c cs (.skip more next)
  | gap {more : Nat} {rest : List Char} (hp : p = .directive)
      (hb : ∀ b ∈ c :: cs.take more, Text.isBlank b) (hr : cs.drop more = '(' :: rest) :
      Takes p c cs (.skip more .call)
  | fail {fault : LexFault} : Takes p c cs (.fail fault)

open Step (Takes)

theorem hashWordStep_takes {p : Place} {name cs : List Char} {more : Nat} (hn : IsName name)
    (h : Hashed name ('#' :: cs.take more)) : (hashWordStep name more).Takes p '#' cs := by
  simp only [hashWordStep, hashWord]
  cases hk : Keyword.ofWord? name with
  | none => exact .emit (.macroCall hn hk h) .call
  | some k =>
      have word : k.word.toList = name := by simpa using List.find?_some hk
      subst word
      refine .emit (.directive h) ?_
      change (if k.takesArguments then Mode.arguments else .text).At
        (if k.takesArguments then .directive else .within 0)
      cases k.takesArguments with
      | false => exact .text
      | true => exact .arguments

theorem hash_takes {p : Place} {cs : List Char} : (Step.emit (.text "#") 0 .text).Takes p '#' cs :=
  .emit (@Token.Spelled.text ['#'] (by simp)) .text

theorem lineComment_takes {p : Place} (cs : List Char) :
    (hashStep ('#' :: cs)).Takes p '#' ('#' :: cs) := by
  obtain ⟨line, hw, hl, rfl | ⟨rest, rfl⟩⟩ := line_split cs
  · refine .lastComment ?_ rfl hl
    simp only [hw, List.length_cons, List.length_take]
    omega
  · simp only [hashStep, hw]
    refine .comment ?_
    rw [List.take_length_add_append, List.length_append, Nat.add_comm 1, List.take_succ_cons]
    simpa [List.take_length_add_append] using Comment.line hl

theorem blockComment_takes {p : Place} (cs : List Char) :
    (hashStep ('*' :: cs)).Takes p '#' ('*' :: cs) := by
  simp only [hashStep]
  cases hf : find? ['*', '#'] cs with
  | none => exact .fail
  | some n =>
      obtain ⟨body, rest, rfl, rfl, hk⟩ := find?_split hf
      refine .comment ?_
      rw [List.take_succ_cons, List.take_length_add_append]
      exact .block (not_infix_of_find? ['*'] '#' hk)

theorem unparsed_takes {p : Place} (cs : List Char) :
    (hashStep ('[' :: '[' :: cs)).Takes p '#' ('[' :: '[' :: cs) := by
  simp only [hashStep]
  cases hf : find? [']', ']', '#'] cs with
  | none => exact .fail
  | some n =>
      obtain ⟨body, rest, rfl, rfl, hk⟩ := find?_split hf
      refine .emit ?_ .text
      rw [List.take_succ_cons, List.take_succ_cons, List.take_length_add_append, List.take_left]
      exact .unparsed (not_infix_of_find? [']', ']'] '#' hk)

theorem hashStep_takes {p : Place} (cs : List Char) : (hashStep cs).Takes p '#' cs := by
  simp only [hashStep]
  split
  · exact lineComment_takes _
  · exact blockComment_takes _
  · exact unparsed_takes _
  · next cs =>
    cases hn : nameAt cs with
    | nil => exact hash_takes
    | cons c name =>
        obtain ⟨hname, rest, rfl⟩ := nameAt_split hn (List.cons_ne_nil c name)
        simp only [List.drop_left]
        split
        · refine hashWordStep_takes hname ?_
          rw [List.take_succ_cons, List.take_length_add_append]
          exact .braced
        · exact .fail
  · cases hn : nameAt cs with
    | nil => exact hash_takes
    | cons c name =>
        obtain ⟨hname, rest, rfl⟩ := nameAt_split hn (List.cons_ne_nil c name)
        refine hashWordStep_takes hname ?_
        rw [List.take_left]
        exact .bare

/-- A reference is a name or the opening of one in braces. -/
theorem reference?_spelled {cs : List Char} {t : Token} {n : Nat}
    (h : reference? cs = some (t, n)) :
    t.Spelled ('$' :: cs.take n) ∧
      ((∃ name quiet, t = .reference name quiet) ∨ ∃ quiet, t = .formal quiet) := by
  unfold reference? at h
  split at h
  · cases h
    exact ⟨.quietFormal, .inr ⟨true, rfl⟩⟩
  · next cs _ =>
    cases hn : nameAt cs with
    | nil => simp [hn] at h
    | cons c name =>
        obtain ⟨hname, rest, rfl⟩ := nameAt_split hn (List.cons_ne_nil c name)
        simp only [hn, Option.some.injEq, Prod.mk.injEq] at h
        obtain ⟨rfl, rfl⟩ := h
        rw [List.take_succ_cons, List.take_left]
        exact ⟨.quietReference hname, .inl ⟨_, _, rfl⟩⟩
  · cases h
    exact ⟨.formal, .inr ⟨false, rfl⟩⟩
  · cases hn : nameAt cs with
    | nil => simp [hn] at h
    | cons c name =>
        obtain ⟨hname, rest, rfl⟩ := nameAt_split hn (List.cons_ne_nil c name)
        simp only [hn, Option.some.injEq, Prod.mk.injEq] at h
        obtain ⟨rfl, rfl⟩ := h
        rw [List.take_left]
        exact ⟨.reference hname, .inl ⟨_, _, rfl⟩⟩

theorem dollarStep_takes {p : Place} (hp : p.depth = 0) (cs : List Char) :
    (dollarStep cs).Takes p '$' cs := by
  simp only [dollarStep]
  cases hr : reference? cs with
  | none => exact .emit (@Token.Spelled.text ['$'] (by simp)) .text
  | some found =>
      obtain ⟨t, n⟩ := found
      obtain ⟨hs, ⟨name, quiet, rfl⟩ | ⟨quiet, rfl⟩⟩ := reference?_spelled hr
      · refine .emit hs ?_
        rw [show p.after (.reference name quiet) = .within p.depth from rfl, hp]
        exact .tail
      · refine .emit hs ?_
        rw [show p.after (.formal quiet) = .within (p.depth + 1) from rfl, hp]
        exact .code 0 false

theorem directiveWord?_hashed {cs : List Char} {n : Nat} (h : directiveWord? cs = some n) :
    ∃ k : Keyword, Hashed k.word.toList ('#' :: cs.take n) := by
  unfold directiveWord? at h
  split at h
  · next rest =>
    obtain ⟨k, hk, rfl⟩ := Option.map_eq_some_iff.1 h
    have found : (k.word.toList ++ ['\x7d']).isPrefixOf rest := by simpa using List.find?_some hk
    obtain ⟨behind, hb⟩ := List.isPrefixOf_iff_prefix.1 found
    refine ⟨k, ?_⟩
    rw [← hb, List.append_assoc, List.take_succ_cons, ← String.length_toList,
      List.take_length_add_append]
    exact .braced
  · obtain ⟨k, hk, rfl⟩ := Option.map_eq_some_iff.1 h
    have found : k.word.toList.isPrefixOf cs := by simpa using List.find?_some hk
    obtain ⟨behind, hb⟩ := List.isPrefixOf_iff_prefix.1 found
    refine ⟨k, ?_⟩
    rw [← hb, ← String.length_toList, List.take_left]
    exact .bare

theorem pairedSlashes_bounds (atEnd : Bool) {slashes : Nat} (h : 2 ≤ slashes) :
    1 ≤ pairedSlashes atEnd slashes ∧ pairedSlashes atEnd slashes ≤ slashes := by
  simp only [pairedSlashes]
  split
  · next he =>
    simp only [Bool.and_eq_true, beq_iff_eq, decide_eq_true_eq] at he
    omega
  · omega

/-- A run of backslashes, with what it escapes. -/
theorem slashStep_takes {p : Place} (more : Nat) (rest : List Char) :
    (slashStep more rest).Takes p '\\' (List.replicate more '\\' ++ rest) := by
  simp only [slashStep]
  split
  · next n hn =>
    split at hn
    · next cs =>
      split at hn
      · next he =>
        obtain ⟨k, hk⟩ := directiveWord?_hashed hn
        refine .emit ?_ .text
        have odd : more + 1 = 2 * (more / 2) + 1 := by
          have : more % 2 = 0 := by simpa using he
          omega
        rw [show more + n + 1 = (List.replicate more '\\').length + (n + 1) by
          rw [List.length_replicate]; omega, List.take_length_add_append, List.take_succ_cons,
          ← List.cons_append, ← List.replicate_succ, odd]
        exact .escaped _ hk
      · cases hn
    · cases hn
  · split
    · next h0 =>
      rw [show more = 0 by simpa using h0]
      exact .emit (@Token.Spelled.text ['\\'] (by simp)) .text
    · next h0 =>
      refine .emit ?_ .text
      have : more ≠ 0 := by simpa using h0
      obtain ⟨h1, hm⟩ := pairedSlashes_bounds rest.isEmpty (show 2 ≤ more + 1 by omega)
      generalize pairedSlashes rest.isEmpty (more + 1) = taken at h1 hm
      obtain ⟨taken, rfl⟩ := Nat.exists_eq_succ_of_ne_zero (Nat.ne_of_gt h1)
      have run : '\\' :: (List.replicate more '\\' ++ rest).take taken =
          List.replicate (taken + 1) '\\' := by
        rw [List.take_append_of_le_length (by rw [List.length_replicate]; omega),
          List.take_replicate, Nat.min_eq_left (by omega), List.replicate_succ]
      rw [Nat.succ_eq_add_one, Nat.add_sub_cancel, run]
      exact .text (by simp)

theorem textStep_takes {p : Place} {c : Char} (hp : c = '$' → p.depth = 0) (cs : List Char) :
    (textStep c cs).Takes p c cs := by
  simp only [textStep]
  split
  · next hc =>
    rw [show c = '#' by simpa using hc]
    exact hashStep_takes cs
  · split
    · next hc =>
      have hc : c = '$' := by simpa using hc
      rw [hc]
      exact dollarStep_takes (hp hc) cs
    · split
      · next hc =>
        obtain ⟨run, rest, hw, rfl, hr⟩ := takeWhile_split (· == '\\') cs
        have slashes : run = List.replicate run.length '\\' :=
          List.eq_replicate_length.2 fun d hd => by simpa using hr d hd
        have taken := slashStep_takes (p := p) run.length rest
        rw [← slashes] at taken
        simp only [hw, List.drop_left, show c = '\\' by simpa using hc]
        exact taken
      · split
        · next hc =>
          rw [show c = '\n' by simpa using hc]
          exact .emit .newline .text
        · obtain ⟨run, rest, hw, rfl, hr⟩ := takeWhile_split isPlain cs
          refine .emit ?_ .text
          rw [hw, List.take_left]
          exact .text (by simp)

theorem stringLength?_split {quote : Char} {cs : List Char} {n : Nat}
    (h : stringLength? quote cs = some n) : ∃ inner, cs.take n = inner ++ [quote] := by
  fun_induction stringLength? quote cs generalizing n with
  | case1 | case3 => cases h
  | case2 =>
      cases h
      exact ⟨[], rfl⟩
  | case4 d cs ih =>
      obtain ⟨m, hm, rfl⟩ := Option.map_eq_some_iff.1 h
      obtain ⟨inner, he⟩ := ih hm
      exact ⟨'\\' :: d :: inner, by rw [List.take_succ_cons, List.take_succ_cons, he]; rfl⟩
  | case5 cs _ ih =>
      obtain ⟨m, hm, rfl⟩ := Option.map_eq_some_iff.1 h
      obtain ⟨inner, he⟩ := ih hm
      exact ⟨quote :: quote :: inner, by rw [List.take_succ_cons, List.take_succ_cons, he]; rfl⟩
  | case6 =>
      cases h
      exact ⟨[], rfl⟩
  | case7 c d cs _ _ ih =>
      obtain ⟨m, hm, rfl⟩ := Option.map_eq_some_iff.1 h
      obtain ⟨inner, he⟩ := ih hm
      exact ⟨c :: inner, by rw [List.take_succ_cons, he]; rfl⟩

theorem symbol?_spelled {c : Char} {cs : List Char} {s : Symbol} {n : Nat}
    (h : symbol? c cs.head? = some (s, n)) : s.text.toList = c :: cs.take n := by
  have one {d : Char} (hd : cs.head? = some d) : cs.take 1 = [d] := by
    rw [List.take_one, hd]
    rfl
  generalize hd : cs.head? = next at h
  unfold symbol? at h
  split at h
  all_goals cases h
  all_goals first
    | rfl
    | rw [one hd]; rfl

theorem word_of_reserved {word : String} {w : ReservedWord}
    (h : ReservedWord.ofWord? word = some w) : w.word = word := by
  unfold ReservedWord.ofWord? at h
  split at h
  all_goals cases h
  all_goals rfl

theorem wordToken_spelled {name : List Char} (hn : IsName name) :
    (wordToken name).Spelled name := by
  simp only [wordToken]
  split
  · next w hw =>
    have spelled := Token.Spelled.reserved w
    rwa [word_of_reserved hw, String.toList_ofList] at spelled
  · split
    · next s hs =>
      have spelled := Token.Spelled.wordSymbol hs
      rwa [String.toList_ofList] at spelled
    · exact .ident hn

theorem isCode_wordToken (name : List Char) : (wordToken name).isCode := by
  simp only [wordToken]
  split
  · rfl
  · split <;> rfl

theorem codeToken_spelled {c : Char} {cs : List Char} {t : Token} {n : Nat}
    (h : codeToken c cs = .ok (t, n)) : t.Spelled (c :: cs.take n) ∧ t.isCode := by
  unfold codeToken at h
  split at h
  · next hc =>
    cases hr : reference? cs with
    | none => simp [hr] at h
    | some found =>
        simp only [hr, Except.ok.injEq] at h
        subst h
        rw [show c = '$' by simpa using hc]
        obtain ⟨hs, ⟨name, quiet, rfl⟩ | ⟨quiet, rfl⟩⟩ := reference?_spelled hr
        · exact ⟨hs, rfl⟩
        · exact ⟨hs, rfl⟩
  · split at h
    · next hc =>
      cases hl : stringLength? c cs with
      | none => simp [hl] at h
      | some m =>
          simp only [hl, Except.ok.injEq, Prod.mk.injEq] at h
          obtain ⟨rfl, rfl⟩ := h
          obtain ⟨inner, he⟩ := stringLength?_split hl
          rw [he]
          exact ⟨.str (by simpa using hc), rfl⟩
    · split at h
      · next hc =>
        cases h
        exact ⟨.number hc, rfl⟩
      · split at h
        · next hc =>
          cases h
          obtain ⟨run, rest, hw, rfl, hr⟩ := takeWhile_split isNameChar cs
          rw [hw, List.take_left]
          exact ⟨wordToken_spelled (.mk hc hr), isCode_wordToken _⟩
        · cases hy : symbol? c cs.head? with
          | none => simp [hy] at h
          | some found =>
              simp only [hy, Except.ok.injEq, Prod.mk.injEq] at h
              obtain ⟨rfl, rfl⟩ := h
              rw [← symbol?_spelled hy]
              exact ⟨.symbol _, rfl⟩

/-- The last bracket that closes leads back to the text or the reference around it. -/
theorem closed_at (depth : Nat) (inTail : Bool) :
    Mode.At (if depth + 1 ≤ 1 then (if inTail then .tail else .text) else .code depth inTail)
      (.within depth) := by
  cases depth with
  | zero =>
      cases inTail with
      | false => exact .text
      | true => exact .tail
  | succ depth =>
      rw [if_neg (by omega)]
      exact .code depth inTail

theorem afterCode_at {t : Token} (h : t.isCode) (depth : Nat) (inTail : Bool) :
    (afterCode t (depth + 1) inTail).At ((Place.within (depth + 1)).after t) := by
  cases t with
  | text | newline | unparsed | escaped | directive | macroCall => cases h
  | reference | ident | str | number | reserved => exact .code depth inTail
  | formal => exact .code (depth + 1) inTail
  | symbol s =>
      cases s with
      | openParen | openBracket | openBrace => exact .code (depth + 1) inTail
      | closeParen | closeBracket | closeBrace => exact closed_at depth inTail
      | _ => exact .code depth inTail

theorem codeStep_takes (c : Char) (cs : List Char) (depth : Nat) (inTail : Bool) :
    (codeStep c cs (afterCode · (depth + 1) inTail) (.code (depth + 1) inTail)).Takes
      (.within (depth + 1)) c cs := by
  simp only [codeStep]
  split
  · next hc =>
    obtain ⟨run, rest, hw, rfl, hr⟩ := takeWhile_split Text.isCodeBlank cs
    refine .blanks rfl ?_ (.code depth inTail)
    rw [hw, List.take_left]
    exact List.forall_mem_cons.2 ⟨hc, hr⟩
  · cases ht : codeToken c cs with
    | error => exact .fail
    | ok found =>
        obtain ⟨t, n⟩ := found
        obtain ⟨hs, hc⟩ := codeToken_spelled ht
        exact .emit hs (afterCode_at hc depth inTail)

/-- No directive starts with a dollar sign, so that what ends code is never a reference. -/
theorem startsDirective_dollar (cs : List Char) : startsDirective ('$' :: cs) = false := by
  have blank : Text.isWhitespace '$' = false := by decide
  simp [startsDirective, Text.trimStart, blank]

theorem openParen_takes {p : Place} (hp : p.depth = 0) (cs : List Char) (inTail : Bool) :
    (Step.emit (.symbol .openParen) 0 (.code 1 inTail)).Takes p '(' cs := by
  refine .emit (.symbol .openParen) ?_
  rw [show p.after (.symbol .openParen) = .within (p.depth + 1) from rfl, hp]
  exact .code 0 inTail

theorem tailStep_takes (c : Char) (cs : List Char) : (tailStep c cs).Takes (.within 0) c cs := by
  simp only [tailStep]
  split
  · next hc =>
    obtain ⟨hc, -⟩ := Bool.and_eq_true_iff.1 hc
    rw [show c = '.' by simpa using hc]
    exact .emit (.symbol .dot) .property
  · split
    · next hc =>
      rw [show c = '[' by simpa using hc]
      exact .emit (.symbol .openBracket) (.code 0 true)
    · exact textStep_takes (fun _ => rfl) cs

theorem argumentsStep_takes (c : Char) (cs : List Char) :
    (step .arguments c cs).Takes .directive c cs := by
  simp only [step]
  split
  · next hc =>
    rw [show c = '(' by simpa using hc]
    exact openParen_takes rfl cs false
  · obtain ⟨run, rest, hw, rfl, hr⟩ := takeWhile_split Text.isBlank cs
    rw [hw, List.drop_left]
    split
    · next hb =>
      obtain ⟨hc, ho⟩ := Bool.and_eq_true_iff.1 hb
      cases rest with
      | nil => cases ho
      | cons d rest =>
          have hd : d = '(' := by simpa using ho
          subst hd
          refine .gap rfl ?_ List.drop_left
          rw [List.take_left]
          exact List.forall_mem_cons.2 ⟨hc, hr⟩
    · exact textStep_takes (fun _ => rfl) _

theorem step_takes {mode : Mode} {p : Place} (h : mode.At p) (c : Char) (cs : List Char) :
    (step mode c cs).Takes p c cs := by
  cases h with
  | text => exact textStep_takes (fun _ => rfl) cs
  | arguments => exact argumentsStep_takes c cs
  | call =>
      simp only [step]
      split
      · next hc =>
        rw [show c = '(' by simpa using hc]
        exact openParen_takes rfl cs false
      · exact textStep_takes (fun _ => rfl) cs
  | tail => exact tailStep_takes c cs
  | property =>
      simp only [step]
      cases hn : nameAt (c :: cs) with
      | nil => exact textStep_takes (fun _ => rfl) cs
      | cons d name =>
          obtain ⟨hname, rest, he⟩ := nameAt_split hn (List.cons_ne_nil d name)
          have hd : c = d := (List.cons.inj he).1
          have hcs : cs = name ++ rest := (List.cons.inj he).2
          refine .emit ?_ .method
          rw [hd, hcs, List.length_cons, Nat.add_sub_cancel, List.take_left]
          exact .ident hname
  | method =>
      simp only [step]
      split
      · next hc =>
        rw [show c = '(' by simpa using hc]
        exact openParen_takes rfl cs true
      · exact tailStep_takes c cs
  | code depth inTail =>
      simp only [step]
      split
      · next hd =>
        refine textStep_takes (fun hc => ?_) cs
        rw [hc, startsDirective_dollar] at hd
        cases hd
      · exact codeStep_takes c cs depth inTail

theorem run_eq_ok {mode : Mode} {offset : Nat} {c : Char} {cs : List Char} {lexemes : List Lexeme}
    (h : run mode offset (c :: cs) = .ok lexemes) :
    (∃ token more next tail, step mode c cs = .emit token more next ∧
      run next (offset + Text.byteLength (c :: cs.take more)) (cs.drop more) = .ok tail ∧
      lexemes = (token, ⟨offset, offset + Text.byteLength (c :: cs.take more)⟩) :: tail) ∨
    ∃ more next, step mode c cs = .skip more next ∧
      run next (offset + Text.byteLength (c :: cs.take more)) (cs.drop more) = .ok lexemes := by
  unfold run at h
  cases hs : step mode c cs with
  | fail => simp [hs] at h
  | skip more next =>
      simp only [hs] at h
      exact .inr ⟨more, next, rfl, h⟩
  | emit token more next =>
      simp only [hs] at h
      cases hr : run next (offset + Text.byteLength (c :: cs.take more)) (cs.drop more) with
      | error => simp [hr] at h
      | ok tail =>
          simp only [hr, Except.ok.injEq] at h
          exact .inl ⟨token, more, next, tail, rfl, hr, h.symm⟩

/-- The parenthesis behind a directive word and its blanks opens code. -/
theorem run_openParen {offset : Nat} {cs : List Char} {lexemes : List Lexeme}
    (h : run .call offset ('(' :: cs) = .ok lexemes) : ∃ tail,
      run (.code 1 false) (offset + Text.byteLength ['(']) cs = .ok tail ∧
        lexemes = (.symbol .openParen, ⟨offset, offset + Text.byteLength ['(']⟩) :: tail := by
  have hs : step .call '(' cs = .emit (.symbol .openParen) 0 (.code 1 false) := rfl
  rcases run_eq_ok h with ⟨_, _, _, tail, he, hr, rfl⟩ | ⟨_, _, he, _⟩
  · rw [hs] at he
    cases he
    exact ⟨tail, hr, rfl⟩
  · rw [hs] at he
    cases he

/-- A first piece that is taken off what is read, and the pieces of the rest. -/
theorem allChars_cons_of_take {c : Char} {cs : List Char} {more : Nat} {piece : Piece}
    {pieces : List Piece} (hp : allChars pieces = cs.drop more)
    (hc : piece.chars = c :: cs.take more) : allChars (piece :: pieces) = c :: cs := by
  rw [allChars, List.flatMap_cons, ← allChars, hp, hc, List.cons_append, List.take_append_drop]

/-- A run cuts what it reads into pieces. -/
theorem run_laid {mode : Mode} {p : Place} (hm : mode.At p) {offset : Nat} {cs : List Char}
    {lexemes : List Lexeme} (h : run mode offset cs = .ok lexemes) : ∃ pieces,
      Laid p pieces ∧ allChars pieces = cs ∧ lexemesFrom offset pieces = lexemes := by
  induction hl : cs.length using Nat.strong_induction_on generalizing mode p offset cs lexemes with
  | _ n ih =>
      subst hl
      cases cs with
      | nil =>
          rw [run] at h
          cases h
          exact ⟨[], .nil, rfl, rfl⟩
      | cons c cs =>
          have shorter (more : Nat) : (cs.drop more).length < (c :: cs).length := by
            rw [List.length_drop, List.length_cons]
            omega
          have takes := step_takes hm c cs
          rcases run_eq_ok h with ⟨t, more, next, tail, hs, hr, rfl⟩ | ⟨more, next, hs, hr⟩
          · rw [hs] at takes
            cases takes with
            | emit spelled hn =>
                obtain ⟨pieces, laid, hc, rfl⟩ := ih _ (shorter more) hn hr rfl
                exact ⟨.token t (c :: cs.take more) :: pieces, .token spelled laid,
                  allChars_cons_of_take hc rfl, rfl⟩
          · rw [hs] at takes
            cases takes with
            | comment hc =>
                obtain ⟨pieces, laid, hp, rfl⟩ := ih _ (shorter more) .text hr rfl
                exact ⟨.comment (c :: cs.take more) :: pieces, .comment hc laid,
                  allChars_cons_of_take hp rfl, rfl⟩
            | lastComment hl hc hn =>
                rw [List.drop_eq_nil_of_le hl, run] at hr
                cases hr
                rw [hc]
                exact ⟨[.comment _], .lastComment hn, List.append_nil _, rfl⟩
            | blanks hp hb hn =>
                obtain ⟨pieces, laid, hc, rfl⟩ := ih _ (shorter more) hn hr rfl
                subst hp
                exact ⟨.blanks (c :: cs.take more) :: pieces, .blanks hb laid,
                  allChars_cons_of_take hc rfl, rfl⟩
            | @gap _ rest hp hb ho =>
                have less := shorter more
                rw [ho] at hr less
                obtain ⟨tail, ht, rfl⟩ := run_openParen hr
                obtain ⟨pieces, laid, hc, rfl⟩ :=
                  ih _ (Nat.lt_of_succ_lt less) (.code 0 false) ht rfl
                subst hp
                refine ⟨.blanks (c :: cs.take more) :: .token (.symbol .openParen) ['('] :: pieces,
                  .gap hb laid, allChars_cons_of_take ?_ rfl, rfl⟩
                rw [ho, ← hc]
                rfl

/-- A source that is code from start to end is cut into tokens and blanks. -/
theorem run_expression_cut {offset : Nat} {cs : List Char} {lexemes : List Lexeme}
    (h : run .expression offset cs = .ok lexemes) : ∃ pieces,
      (∀ t s, .token t s ∈ pieces → t.Spelled s) ∧ allChars pieces = cs ∧
        lexemesFrom offset pieces = lexemes := by
  induction hl : cs.length using Nat.strong_induction_on generalizing offset cs lexemes with
  | _ n ih =>
      subst hl
      cases cs with
      | nil =>
          rw [run] at h
          cases h
          exact ⟨[], by simp, rfl, rfl⟩
      | cons c cs =>
          have shorter (more : Nat) : (cs.drop more).length < (c :: cs).length := by
            rw [List.length_drop, List.length_cons]
            omega
          rcases run_eq_ok h with ⟨t, more, next, tail, hs, hr, rfl⟩ | ⟨more, next, hs, hr⟩
          · simp only [step, codeStep] at hs
            split at hs
            · cases hs
            · split at hs
              next ht =>
                cases hs
                obtain ⟨pieces, spelled, hc, rfl⟩ := ih _ (shorter more) hr rfl
                refine ⟨.token t (c :: cs.take more) :: pieces, fun t' s hm => ?_,
                  allChars_cons_of_take hc rfl, rfl⟩
                rcases List.mem_cons.1 hm with he | hm
                · cases he
                  exact (codeToken_spelled ht).1
                · exact spelled t' s hm
              next => cases hs
          · simp only [step, codeStep] at hs
            split at hs
            · cases hs
              obtain ⟨pieces, spelled, hc, rfl⟩ := ih _ (shorter _) hr rfl
              refine ⟨.blanks (c :: cs.take _) :: pieces, fun t s hm => ?_,
                allChars_cons_of_take hc rfl, rfl⟩
              rcases List.mem_cons.1 hm with he | hm
              · cases he
              · exact spelled t s hm
            · split at hs <;> cases hs

end Lexer

/-- The tokens of a source stand one behind the other where the source spells them. Together with
whole comments and blanks without meaning they make up the source, so that nothing else is lost. -/
theorem tokenize_lossless {source : String} {lexemes : List Lexeme}
    (h : tokenize source = .ok lexemes) :
    (∀ l ∈ lexemes, l.2.start < l.2.stop ∧ l.2.stop ≤ Text.byteLength source.toList) ∧
      lexemes.Pairwise (fun a b => a.2.stop ≤ b.2.start) ∧
      (∀ l ∈ lexemes, ∃ cs, Text.slice? l.2.start l.2.stop source.toList = some cs ∧
        l.1.Spelled cs) ∧
      ∃ pieces, Lexer.Laid (.within 0) pieces ∧ Lexer.allChars pieces = source.toList ∧
        Lexer.lexemesFrom 0 pieces = lexemes := by
  obtain ⟨pieces, laid, hc, rfl⟩ := Lexer.run_laid .text h
  refine ⟨fun l hl => ⟨?_, ?_⟩, Lexer.lexemesFrom_ascend 0 pieces, fun l hl => ?_,
    pieces, laid, hc, rfl⟩
  · obtain ⟨before, t, cs, after, rfl, rfl⟩ := Lexer.exists_of_mem_lexemesFrom hl
    have ht : .token t cs ∈ before ++ .token t cs :: after := by simp
    have := Text.byteLength_pos (laid.spelled ht).ne_nil
    simpa using this
  · rw [← hc]
    exact Lexer.stop_of_mem hl
  · obtain ⟨cs, hm, hs⟩ := Lexer.slice?_of_mem hl
    rw [hc] at hs
    exact ⟨cs, hs, laid.spelled hm⟩

/-- Blanks before a parenthesis and inside it, and a comment behind it. -/
theorem tokenize_lossless_set :
    let source := "#set ($x= 'é')## c\n$x"
    let lexemes : List Lexeme :=
      [(.directive .assign, ⟨0, 4⟩), (.symbol .openParen, ⟨5, 6⟩), (.reference "x" false, ⟨6, 8⟩),
        (.symbol .assign, ⟨8, 9⟩), (.str "'é'", ⟨10, 14⟩), (.symbol .closeParen, ⟨14, 15⟩),
        (.reference "x" false, ⟨20, 22⟩)]
    tokenize source = .ok lexemes ∧
      (∀ l ∈ lexemes, ∃ cs, Text.slice? l.2.start l.2.stop source.toList = some cs ∧
        l.1.Spelled cs) ∧
      ∃ pieces, Lexer.Laid (.within 0) pieces ∧ Lexer.allChars pieces = source.toList ∧
        Lexer.lexemesFrom 0 pieces = lexemes := by
  intro source lexemes
  have tokens : tokenize source = .ok lexemes := by decide +kernel
  obtain ⟨-, -, spelled, cut⟩ := tokenize_lossless tokens
  exact ⟨tokens, spelled, cut⟩

end Template
