import Mathlib.Data.List.TakeWhile
import Template.Proofs.Token.Pieces

/-!
Code written with single blanks between its tokens. Each token is read back as it is spelled, so the
lexer finds the tokens that were written.
-/

namespace Template

/-- Digits of a number, one at least. -/
structure Digits where
  chars : List Char
  ne_nil : chars ≠ []
  isDigit : ∀ c ∈ chars, c.isDigit

structure Exponent where
  capital : Bool
  /-- A minus, a plus or no sign. -/
  sign : Option Bool
  digits : Digits

/-- A number by its digits. -/
structure Numeral where
  whole : Digits
  fraction : Option Digits
  exponent : Option Exponent

namespace Exponent

def letter (e : Exponent) : Char := if e.capital then 'E' else 'e'

def signChars (e : Exponent) : List Char :=
  match e.sign with
  | none => []
  | some negative => [if negative then '-' else '+']

def chars (e : Exponent) : List Char := e.letter :: (e.signChars ++ e.digits.chars)

end Exponent

namespace Numeral

def fractionChars (n : Numeral) : List Char :=
  match n.fraction with
  | none => []
  | some digits => '.' :: digits.chars

def exponentChars (n : Numeral) : List Char := (n.exponent.map Exponent.chars).getD []

def chars (n : Numeral) : List Char := n.whole.chars ++ (n.fractionChars ++ n.exponentChars)

def text (n : Numeral) : String := String.ofList n.chars

end Numeral

/-- Text that stands between apostrophes without being hidden behind a backslash. -/
structure PlainText where
  chars : List Char
  plain : '\\' ∉ chars

namespace PlainText

def text (t : PlainText) : String := String.ofList t.chars

/-- Quotes are doubled. -/
def doubled (quote : Char) : List Char → List Char
  | [] => []
  | c :: cs => if c = quote then quote :: quote :: doubled quote cs else c :: doubled quote cs

def quoted (t : PlainText) : List Char := '\'' :: (doubled '\'' t.chars ++ ['\''])

end PlainText

namespace Lexer

/-- Behind these characters a token of code is at its end. -/
def EndsToken (d : Char) : Prop := d = ' ' ∨ d = ')'

/-- In code the characters are the token, wherever it ends. -/
structure Written (t : Token) (c : Char) (cs : List Char) : Prop where
  solid : Text.isWhitespace c = false
  notHash : c ≠ '#'
  read : ∀ d rest, EndsToken d → codeToken c (cs ++ d :: rest) = .ok (t, cs.length)

theorem EndsToken.not_name {d : Char} (h : EndsToken d) : isNameChar d = false := by
  rcases h with rfl | rfl <;> decide

theorem EndsToken.not_digit {d : Char} (h : EndsToken d) : d.isDigit = false := by
  rcases h with rfl | rfl <;> decide

theorem takeWhile_append_stop {f : Char → Bool} {cs : List Char} {d : Char}
    (hc : ∀ c ∈ cs, f c) (hd : f d = false) (rest : List Char) :
    (cs ++ d :: rest).takeWhile f = cs := by
  rw [List.takeWhile_append_of_pos hc, List.takeWhile_cons_of_neg (by simp [hd]), List.append_nil]

theorem nameAt_of_isName {name : List Char} (hn : IsName name) {d : Char} (hd : EndsToken d)
    (rest : List Char) : nameAt (name ++ d :: rest) = name := by
  cases hn with
  | mk hc hs => rw [List.cons_append, nameAt, if_pos hc, takeWhile_append_stop hs hd.not_name]

/-- What is a name from its front to its end. -/
theorem isName_of_nameAt {name : List Char} (hn : name ≠ []) (h : nameAt name = name) :
    IsName name := by
  cases name with
  | nil => exact absurd rfl hn
  | cons c cs =>
      by_cases start : isNameStart c
      · rw [nameAt, if_pos start] at h
        exact .mk start (List.takeWhile_eq_self_iff.1 (List.cons.inj h).2)
      · rw [nameAt, if_neg start] at h
        cases h

theorem isWhitespace_of_visible {c : Char} (hl : 0x20 < c.toNat) (hh : c.toNat < 0x85) :
    Text.isWhitespace c = false := by
  simp only [Text.isWhitespace, CodeRange.hold, Text.whitespaceRanges, CodeRange.contains]
  simp
  omega

/-- Letters, digits and underscores are no white space, and no hash sign. -/
theorem solid_of_isNameChar {c : Char} (h : isNameChar c) :
    Text.isWhitespace c = false ∧ c ≠ '#' := by
  have bounds : 0x2f < c.toNat ∧ c.toNat < 0x7b := by
    delta isNameChar Char.isAlphanum Char.isAlpha Char.isUpper Char.isLower Char.isDigit at h
    simp only [Bool.or_eq_true, Bool.and_eq_true, decide_eq_true_eq, beq_iff_eq, ge_iff_le,
      UInt32.le_iff_toNat_le, Char.toNat_val] at h
    rcases h with ((⟨hl, hh⟩ | ⟨hl, hh⟩) | ⟨hl, hh⟩) | rfl
    · simp at hl hh; omega
    · simp at hl hh; omega
    · simp at hl hh; omega
    · decide
  refine ⟨isWhitespace_of_visible (by omega) (by omega), ?_⟩
  rintro rfl
  exact absurd bounds.1 (by decide)

theorem isNameChar_of_isNameStart {c : Char} (h : isNameStart c) : isNameChar c := by
  simp only [isNameStart, isNameChar, Char.isAlphanum, Bool.or_eq_true] at h ⊢
  tauto

theorem isNameChar_of_isDigit {c : Char} (h : c.isDigit) : isNameChar c := by
  simp [isNameChar, Char.isAlphanum, h]

theorem not_isDigit_of_isNameStart {c : Char} (h : isNameStart c) : c.isDigit = false := by
  delta isNameStart Char.isAlpha Char.isUpper Char.isLower at h
  simp only [Bool.or_eq_true, Bool.and_eq_true, decide_eq_true_eq, beq_iff_eq, ge_iff_le,
    UInt32.le_iff_toNat_le, Char.toNat_val] at h
  simp only [Char.isDigit, ge_iff_le, UInt32.le_iff_toNat_le, Char.toNat_val, Bool.and_eq_false_iff,
    decide_eq_false_iff_not]
  rcases h with (⟨hl, hh⟩ | ⟨hl, hh⟩) | rfl
  · simp at hl hh ⊢; omega
  · simp at hl hh ⊢; omega
  · decide

theorem ne_of_isNameChar {c d : Char} (h : isNameChar c) (hd : isNameChar d = false) : c ≠ d := by
  rintro rfl
  rw [h] at hd
  cases hd

theorem reference?_of_isName {name : List Char} (hn : IsName name) {d : Char} (hd : EndsToken d)
    (rest : List Char) :
    reference? (name ++ d :: rest) = some (.reference (String.ofList name) false, name.length) := by
  have named := nameAt_of_isName hn hd rest
  cases hn with
  | @mk c cs hc hs =>
      have bang : c ≠ '!' := ne_of_isNameChar (isNameChar_of_isNameStart hc) (by decide)
      have brace : c ≠ '\x7b' := ne_of_isNameChar (isNameChar_of_isNameStart hc) (by decide)
      unfold reference?
      split
      next heq => exact absurd (List.cons.inj heq).1 bang
      next heq => exact absurd (List.cons.inj heq).1 bang
      next heq => exact absurd (List.cons.inj heq).1 brace
      next => rw [named]

theorem reference?_of_isName_quiet {name : List Char} (hn : IsName name) {d : Char}
    (hd : EndsToken d) (rest : List Char) :
    reference? ('!' :: (name ++ d :: rest)) =
      some (.reference (String.ofList name) true, name.length + 1) := by
  have named := nameAt_of_isName hn hd rest
  cases hn with
  | @mk c cs hc hs =>
      have brace : c ≠ '\x7b' := ne_of_isNameChar (isNameChar_of_isNameStart hc) (by decide)
      simp only [List.cons_append] at named ⊢
      simp [reference?, brace, named]

theorem written_reference {name : String} (hn : IsName name.toList) (quiet : Bool) :
    ∃ cs, (Token.reference name quiet).describe.toList = '$' :: cs ∧
      Written (.reference name quiet) '$' cs := by
  cases quiet with
  | false =>
      refine ⟨name.toList, by simp [Token.describe], by decide, by decide, fun d rest hd => ?_⟩
      simp only [codeToken]
      rw [reference?_of_isName hn hd, String.ofList_toList]
      rfl
  | true =>
      refine ⟨'!' :: name.toList, by simp [Token.describe], by decide, by decide,
        fun d rest hd => ?_⟩
      simp only [codeToken, List.cons_append]
      rw [reference?_of_isName_quiet hn hd, String.ofList_toList]
      rfl

theorem codeToken_word {c : Char} (hc : isNameStart c) (cs : List Char) :
    codeToken c cs =
      .ok (wordToken (c :: cs.takeWhile isNameChar), (cs.takeWhile isNameChar).length) := by
  have dollar : c ≠ '$' := ne_of_isNameChar (isNameChar_of_isNameStart hc) (by decide)
  have quote : c ≠ '"' := ne_of_isNameChar (isNameChar_of_isNameStart hc) (by decide)
  have apostrophe : c ≠ '\'' := ne_of_isNameChar (isNameChar_of_isNameStart hc) (by decide)
  simp [codeToken, dollar, quote, apostrophe, not_isDigit_of_isNameStart hc, hc]

theorem written_word {c : Char} {cs : List Char} (hn : IsName (c :: cs)) :
    Written (wordToken (c :: cs)) c cs := by
  cases hn with
  | mk hc hs =>
      obtain ⟨solid, notHash⟩ := solid_of_isNameChar (isNameChar_of_isNameStart hc)
      refine ⟨solid, notHash, fun d rest hd => ?_⟩
      rw [codeToken_word hc, takeWhile_append_stop hs hd.not_name]

theorem stringLength?_doubled {quote : Char} (hq : quote ≠ '\\') {cs : List Char} (h : '\\' ∉ cs)
    {d : Char} (hd : d ≠ quote) (rest : List Char) :
    stringLength? quote (PlainText.doubled quote cs ++ quote :: d :: rest) =
      some ((PlainText.doubled quote cs).length + 1) := by
  induction cs with
  | nil => simp [PlainText.doubled, stringLength?, hq, hd]
  | cons c cs ih =>
      have hc : c ≠ '\\' := fun he => h (by simp [he])
      have ih := ih fun hm => h (List.mem_cons_of_mem _ hm)
      by_cases same : c = quote
      · simp [PlainText.doubled, same, stringLength?, hq, ih]
      · obtain ⟨e, es, he⟩ : ∃ e es, PlainText.doubled quote cs ++ quote :: d :: rest = e :: es :=
          List.exists_cons_of_ne_nil (by simp)
        rw [he] at ih
        simp [PlainText.doubled, same, he, stringLength?, hc, ih]

theorem written_quoted {quote : Char} (hq : quote = '"' ∨ quote = '\'') {cs : List Char}
    (h : '\\' ∉ cs) :
    Written (.str (String.ofList (quote :: (PlainText.doubled quote cs ++ [quote])))) quote
      (PlainText.doubled quote cs ++ [quote]) := by
  refine ⟨by rcases hq with rfl | rfl <;> decide, by rcases hq with rfl | rfl <;> decide,
    fun d rest hd => ?_⟩
  have slash : quote ≠ '\\' := by rcases hq with rfl | rfl <;> decide
  have close : d ≠ quote := by rcases hd with rfl | rfl <;> rcases hq with rfl | rfl <;> decide
  have length := stringLength?_doubled slash h close rest
  have taken : (PlainText.doubled quote cs ++ quote :: d :: rest).take
      ((PlainText.doubled quote cs).length + 1) = PlainText.doubled quote cs ++ [quote] := by
    rw [List.take_length_add_append]
    rfl
  have dollar : quote ≠ '$' := by rcases hq with rfl | rfl <;> decide
  rw [List.append_assoc, List.singleton_append, codeToken]
  simp [dollar, hq, length, taken]

theorem written_text (t : PlainText) :
    ∃ cs, t.quoted = '\'' :: cs ∧ Written (.str (String.ofList t.quoted)) '\'' cs :=
  ⟨_, rfl, written_quoted (.inr rfl) t.plain⟩

theorem exponentLength_of_sign {letter : Char} (hl : letter = 'e' ∨ letter = 'E')
    {sign : List Char} (hs : sign = [] ∨ sign = ['-'] ∨ sign = ['+']) (digits : Digits) {d : Char}
    (hd : EndsToken d) (rest : List Char) :
    exponentLength (letter :: (sign ++ (digits.chars ++ d :: rest))) =
      1 + sign.length + digits.chars.length := by
  have read := takeWhile_append_stop digits.isDigit hd.not_digit rest
  obtain ⟨c, cs, hc⟩ := List.exists_cons_of_ne_nil digits.ne_nil
  have first : c.isDigit := digits.isDigit c (by simp [hc])
  have plus : c ≠ '+' := ne_of_isNameChar (isNameChar_of_isDigit first) (by decide)
  have minus : c ≠ '-' := ne_of_isNameChar (isNameChar_of_isDigit first) (by decide)
  have size : digits.chars.length ≠ 0 := by simp [hc]
  have start : (letter == 'e' || letter == 'E') = true := by rcases hl with rfl | rfl <;> rfl
  simp only [exponentLength, start, if_true]
  rcases hs with rfl | rfl | rfl
  · rw [hc, List.cons_append] at read
    simp [hc, plus, minus, read]
  · simp [read, size]
  · simp [read, size]

theorem exponentLength_exponentChars (n : Numeral) {d : Char} (hd : EndsToken d)
    (rest : List Char) :
    exponentLength (n.exponentChars ++ d :: rest) = n.exponentChars.length := by
  unfold Numeral.exponentChars
  cases n.exponent with
  | none => rcases hd with rfl | rfl <;> rfl
  | some e =>
      have letter : e.letter = 'e' ∨ e.letter = 'E' := by
        unfold Exponent.letter
        split <;> simp
      have sign : e.signChars = [] ∨ e.signChars = ['-'] ∨ e.signChars = ['+'] := by
        unfold Exponent.signChars
        split
        · simp
        · split <;> simp
      simp only [Option.map_some, Option.getD_some, Exponent.chars, List.cons_append,
        List.append_assoc, List.length_cons, List.length_append]
      rw [exponentLength_of_sign letter sign e.digits hd rest]
      omega

/-- Behind the digits of a number there is no further digit, and behind those of its fraction no
further point. -/
theorem exponentChars_head (n : Numeral) {d : Char} (hd : EndsToken d) (rest : List Char) :
    ∃ c cs, n.exponentChars ++ d :: rest = c :: cs ∧ c.isDigit = false ∧ c ≠ '.' := by
  unfold Numeral.exponentChars
  cases n.exponent with
  | none => exact ⟨d, rest, rfl, hd.not_digit, by rcases hd with rfl | rfl <;> decide⟩
  | some e =>
      refine ⟨e.letter, _, rfl, ?_⟩
      unfold Exponent.letter
      split <;> decide

theorem fractionLength_fractionChars (n : Numeral) {c : Char} (hc : c.isDigit = false ∧ c ≠ '.')
    (cs : List Char) :
    fractionLength (n.fractionChars ++ c :: cs) = n.fractionChars.length := by
  unfold Numeral.fractionChars
  cases n.fraction with
  | none => simp [fractionLength, hc.2]
  | some digits =>
      simp [fractionLength, takeWhile_append_stop digits.isDigit hc.1, digits.ne_nil]

theorem numberLength_eq (n : Numeral) {ds : List Char} (hds : ∀ c ∈ ds, c.isDigit) {d : Char}
    (hd : EndsToken d) (rest : List Char) :
    numberLength (ds ++ (n.fractionChars ++ n.exponentChars) ++ d :: rest) =
      (ds ++ (n.fractionChars ++ n.exponentChars)).length := by
  obtain ⟨c, cs, he, hc⟩ := exponentChars_head n hd rest
  have fraction := fractionLength_fractionChars n hc cs
  have exponent := exponentLength_exponentChars n hd rest
  have whole : (ds ++ (n.fractionChars ++ (n.exponentChars ++ d :: rest))).takeWhile Char.isDigit =
      ds := by
    rw [he]
    unfold Numeral.fractionChars
    cases n.fraction with
    | none => exact takeWhile_append_stop hds hc.1 cs
    | some digits => exact takeWhile_append_stop hds (show '.'.isDigit = false from rfl) _
  simp only [List.append_assoc, numberLength, whole]
  rw [List.drop_left, he, fraction, ← he, List.drop_length_add_append, List.drop_left, exponent]
  simp only [List.length_append, Nat.add_assoc]

theorem written_number (n : Numeral) :
    ∃ c cs, n.chars = c :: cs ∧ Written (.number n.text) c cs := by
  obtain ⟨c, cs, hc⟩ := List.exists_cons_of_ne_nil n.whole.ne_nil
  have digits := n.whole.isDigit
  rw [hc] at digits
  have chars : n.chars = c :: (cs ++ (n.fractionChars ++ n.exponentChars)) := by
    simp [Numeral.chars, hc]
  refine ⟨c, _, chars, ?_⟩
  have first : c.isDigit := digits c (by simp)
  obtain ⟨solid, notHash⟩ := solid_of_isNameChar (isNameChar_of_isDigit first)
  refine ⟨solid, notHash, fun d rest hd => ?_⟩
  have dollar : c ≠ '$' := ne_of_isNameChar (isNameChar_of_isDigit first) (by decide)
  have quote : c ≠ '"' := ne_of_isNameChar (isNameChar_of_isDigit first) (by decide)
  have apostrophe : c ≠ '\'' := ne_of_isNameChar (isNameChar_of_isDigit first) (by decide)
  have length := numberLength_eq n (fun e he => digits e (List.mem_cons_of_mem c he)) hd rest
  rw [Numeral.text, chars]
  generalize cs ++ (n.fractionChars ++ n.exponentChars) = more at length ⊢
  simp [codeToken, dollar, quote, apostrophe, first, length]

theorem written_symbol (s : Symbol) :
    ∃ c cs, s.text.toList = c :: cs ∧ Written (.symbol s) c cs := by
  cases s
  all_goals
    refine ⟨_, _, rfl, by decide, by decide, fun d rest hd => ?_⟩
    rcases hd with rfl | rfl <;> rfl

/-- Tokens of code with canonical spelling. Words with a meaning of their own name no property. -/
inductive Printed : Token → Prop where
  | reference {name : String} (hn : IsName name.toList) (quiet : Bool) :
      Printed (.reference name quiet)
  | ident {name : String} (hn : IsName name.toList) (hr : ReservedWord.ofWord? name = none)
      (hs : Symbol.ofWord? name = none) : Printed (.ident name)
  | text (t : PlainText) : Printed (.str (String.ofList t.quoted))
  | number (n : Numeral) : Printed (.number n.text)
  | reserved (w : ReservedWord) : Printed (.reserved w)
  | symbol (s : Symbol) : Printed (.symbol s)

theorem Printed.written {t : Token} (h : Printed t) :
    ∃ c cs, t.describe.toList = c :: cs ∧ Written t c cs := by
  cases h with
  | reference hn quiet => exact ⟨_, written_reference hn quiet⟩
  | @ident name hn hr hs =>
      obtain ⟨c, cs, he⟩ : ∃ c cs, name.toList = c :: cs := by
        cases hn' : name.toList with
        | nil => rw [hn'] at hn; cases hn
        | cons c cs => exact ⟨c, cs, rfl⟩
      rw [he] at hn
      have word : wordToken (c :: cs) = .ident name := by
        simp [wordToken, ← he, String.ofList_toList, hr, hs]
      exact ⟨c, cs, he, word ▸ written_word hn⟩
  | text t =>
      obtain ⟨cs, he, written⟩ := written_text t
      exact ⟨_, cs, by rw [Token.describe, String.toList_ofList, he], written⟩
  | number n =>
      obtain ⟨c, cs, he, written⟩ := written_number n
      exact ⟨c, cs, by rw [Token.describe, Numeral.text, String.toList_ofList, he], written⟩
  | reserved w =>
      have word : wordToken w.word.toList = .reserved w := by cases w <;> rfl
      have named : IsName w.word.toList := by
        cases w <;> exact isName_of_nameAt (by decide) (by decide)
      obtain ⟨c, cs, he⟩ : ∃ c cs, w.word.toList = c :: cs := by cases w <;> exact ⟨_, _, rfl⟩
      rw [he] at word named
      exact ⟨c, cs, he, word ▸ written_word named⟩
  | symbol s => exact written_symbol s

/-- From the mode the lexer reads the tokens, and goes on in the next mode with the rest. -/
def Reads (mode : Mode) (cs : List Char) (ts : List Token) (next : Mode) (rest : List Char) :
    Prop :=
  ∀ offset, ∃ lexemes stop, lexemes.map Prod.fst = ts ∧
    run mode offset cs = (run next stop rest).map (lexemes ++ ·)

namespace Reads

variable {mode next last : Mode} {cs rest end' : List Char} {ts us : List Token}

theorem refl (mode : Mode) (cs : List Char) : Reads mode cs [] mode cs :=
  fun offset => ⟨[], offset, rfl, by cases run mode offset cs <;> rfl⟩

theorem trans (h : Reads mode cs ts next rest) (h' : Reads next rest us last end') :
    Reads mode cs (ts ++ us) last end' := by
  intro offset
  obtain ⟨ls, stop, rfl, run₁⟩ := h offset
  obtain ⟨ls', stop', rfl, run₂⟩ := h' stop
  refine ⟨ls ++ ls', stop', List.map_append, ?_⟩
  rw [run₁, run₂]
  cases run last stop' end' with
  | error e => rfl
  | ok found => simp [Except.map]

theorem emit {t : Token} {c : Char} {more : List Char}
    (h : step mode c (more ++ rest) = .emit t more.length next) :
    Reads mode (c :: (more ++ rest)) [t] next rest := by
  intro offset
  refine ⟨[(t, ⟨offset, offset + Text.byteLength (c :: more)⟩)],
    offset + Text.byteLength (c :: more), rfl, ?_⟩
  rw [run, h]
  simp only [List.drop_left, List.take_left]
  cases run next _ rest <;> rfl

theorem skip {c : Char} {more : List Char}
    (h : step mode c (more ++ rest) = .skip more.length next) :
    Reads mode (c :: (more ++ rest)) [] next rest := by
  intro offset
  refine ⟨[], offset + Text.byteLength (c :: more), rfl, ?_⟩
  rw [run, h]
  simp only [List.drop_left, List.take_left]
  cases run next _ rest <;> rfl

theorem tokenize {source : String} (h : Reads .text source.toList ts next []) :
    ∃ lexemes, tokenize source = .ok lexemes ∧ lexemes.map Prod.fst = ts := by
  obtain ⟨lexemes, stop, tokens, found⟩ := h 0
  refine ⟨lexemes, ?_, tokens⟩
  rw [Template.tokenize, found]
  simp [run, Except.map]

end Reads

/-- How many brackets are open behind a token of code, if it does not close the first. -/
def depthAfter (depth : Nat) (t : Token) : Option Nat :=
  if t.opens then some (depth + 1)
  else if t.closes then if depth ≤ 1 then none else some (depth - 1)
  else some depth

theorem afterCode_of_depthAfter {t : Token} {depth depth' : Nat}
    (h : depthAfter depth t = some depth') (inTail : Bool) :
    afterCode t depth inTail = .code depth' inTail := by
  unfold depthAfter at h
  unfold afterCode
  split at h
  · cases h
    rw [if_pos ‹_›]
  · rw [if_neg ‹_›]
    split at h
    · rw [if_pos ‹_›]
      split at h
      · cases h
      · cases h
        rw [if_neg ‹_›]
    · cases h
      rw [if_neg ‹_›]

theorem not_isCodeBlank {c : Char} (h : Text.isWhitespace c = false) :
    Text.isCodeBlank c = false := by
  rw [Bool.eq_false_iff]
  intro blank
  simp only [Text.isCodeBlank, Bool.or_eq_true, beq_iff_eq] at blank
  rcases blank with ((rfl | rfl) | rfl) | rfl <;> cases h

theorem step_of_written {t : Token} {c : Char} {cs : List Char} (h : Written t c cs)
    {depth depth' : Nat} (ht : depthAfter depth t = some depth') (inTail : Bool) {d : Char}
    (hd : EndsToken d) (rest : List Char) :
    step (.code depth inTail) c (cs ++ d :: rest) = .emit t cs.length (.code depth' inTail) := by
  have hash : startsDirective (c :: (cs ++ d :: rest)) = false := by
    simp [startsDirective, Text.trimStart, h.solid, h.notHash]
  simp [step, hash, codeStep, not_isCodeBlank h.solid, h.read d rest hd,
    afterCode_of_depthAfter ht]

theorem step_blank {c : Char} (hs : Text.isWhitespace c = false) (hc : c ≠ '#') (depth : Nat)
    (inTail : Bool) (cs : List Char) :
    step (.code depth inTail) ' ' (c :: cs) = .skip 0 (.code depth inTail) := by
  have hash : startsDirective (' ' :: c :: cs) = false := by
    have space : Text.isWhitespace ' ' = true := by decide
    simp [startsDirective, Text.trimStart, space, hs, hc]
  have blank : Text.isCodeBlank ' ' = true := rfl
  simp [step, hash, codeStep, blank, not_isCodeBlank hs]

/-- A blank in front of a token is skipped. A hash sign would end the code. -/
theorem reads_blank {c : Char} (hs : Text.isWhitespace c = false) (hc : c ≠ '#') (depth : Nat)
    (inTail : Bool) (cs : List Char) :
    Reads (.code depth inTail) (' ' :: c :: cs) [] (.code depth inTail) (c :: cs) :=
  @Reads.skip _ _ _ ' ' [] (step_blank hs hc depth inTail cs)

/-- The tokens with single blanks between them. -/
def spaced : List Token → List Char
  | [] => []
  | [t] => t.describe.toList
  | t :: u :: ts => t.describe.toList ++ ' ' :: spaced (u :: ts)

theorem reads_written {t : Token} {c : Char} {cs : List Char} (h : Written t c cs)
    {depth depth' : Nat} (ht : depthAfter depth t = some depth') (inTail : Bool) {d : Char}
    (hd : EndsToken d) (rest : List Char) :
    Reads (.code depth inTail) (c :: (cs ++ d :: rest)) [t] (.code depth' inTail) (d :: rest) :=
  .emit (step_of_written h ht inTail hd rest)

theorem reads_spaced {ts : List Token} (hp : ∀ t ∈ ts, Printed t) {depth depth' : Nat}
    (ht : ts.foldlM depthAfter depth = some depth') (inTail : Bool) {d : Char} (hd : EndsToken d)
    (rest : List Char) :
    Reads (.code depth inTail) (spaced ts ++ d :: rest) ts (.code depth' inTail) (d :: rest) := by
  induction ts generalizing depth with
  | nil =>
      cases ht
      exact .refl _ _
  | cons t ts ih =>
      obtain ⟨middle, first, more⟩ := Option.bind_eq_some_iff.1 ht
      obtain ⟨c, cs, he, written⟩ := (hp t (by simp)).written
      cases ts with
      | nil =>
          cases more
          rw [spaced, he]
          exact reads_written written first inTail hd rest
      | cons u ts =>
          have behind := ih (fun t ht => hp t (List.mem_cons_of_mem _ ht)) more
          obtain ⟨e, es, hu, next⟩ := (hp u (by simp)).written
          have start : ∃ more, spaced (u :: ts) ++ d :: rest = e :: more := by
            cases ts <;> simp [spaced, hu]
          obtain ⟨more, hm⟩ := start
          have blank := reads_blank next.solid next.notHash middle inTail more
          rw [spaced, List.append_assoc, List.cons_append, he, hm]
          rw [hm] at behind
          exact (reads_written written first inTail (.inl rfl) (e :: more)).trans
            (blank.trans behind)

/-- Tokens of code in which every bracket has its partner. -/
structure Balanced (ts : List Token) : Prop where
  printed : ∀ t ∈ ts, Printed t
  depth : ∀ n, ts.foldlM depthAfter (n + 1) = some (n + 1)

namespace Balanced

variable {ts us : List Token}

theorem nil : Balanced [] := ⟨nofun, fun _ => rfl⟩

theorem append (hts : Balanced ts) (hus : Balanced us) : Balanced (ts ++ us) := by
  refine ⟨List.forall_mem_append.2 ⟨hts.printed, hus.printed⟩, fun n => ?_⟩
  rw [List.foldlM_append, hts.depth]
  exact hus.depth n

theorem cons {t : Token} (hp : Printed t) (ho : t.opens = false) (hc : t.closes = false)
    (h : Balanced ts) : Balanced (t :: ts) := by
  refine ⟨List.forall_mem_cons.2 ⟨hp, h.printed⟩, fun n => ?_⟩
  rw [List.foldlM_cons, depthAfter, ho, hc]
  exact h.depth n

theorem single {t : Token} (hp : Printed t) (ho : t.opens = false) (hc : t.closes = false) :
    Balanced [t] := nil.cons hp ho hc

/-- Between a bracket that opens and one that closes. -/
theorem between {opener closer : Symbol} (ho : (Token.symbol opener).opens)
    (hn : (Token.symbol closer).opens = false) (hc : (Token.symbol closer).closes)
    (h : Balanced ts) : Balanced (.symbol opener :: (ts ++ [.symbol closer])) := by
  refine ⟨?_, fun n => ?_⟩
  · simp only [List.mem_cons, List.mem_append, List.not_mem_nil, or_false]
    rintro t (rfl | ht | rfl)
    · exact .symbol opener
    · exact h.printed t ht
    · exact .symbol closer
  · simp only [List.foldlM_cons, List.foldlM_append, List.foldlM_nil, depthAfter, ho, hn, hc]
    simp [h.depth (n + 1)]

theorem reads (h : Balanced ts) (depth : Nat) (inTail : Bool) {d : Char} (hd : EndsToken d)
    (rest : List Char) :
    Reads (.code (depth + 1) inTail) (spaced ts ++ d :: rest) ts (.code (depth + 1) inTail)
      (d :: rest) := reads_spaced h.printed (h.depth depth) inTail hd rest

end Balanced

end Lexer

end Template
