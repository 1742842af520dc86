import Mathlib.Data.List.Infix
import Template.Proofs.Token.Lossless

/-!
String literals by their units. Between its quotes a literal is a sequence of plain characters, of
characters hidden behind a backslash, and of doubled quotes. The lexer finds the quote that closes by
taking the units from the left, and no literal has two sequences of units.
-/

namespace Template

/-- A part of a string literal that the lexer takes at once. -/
inductive StringUnit where
  | plain (c : Char)
  /-- A backslash, and the character behind it. -/
  | hidden (c : Char)
  /-- The quote, twice. -/
  | doubled
deriving DecidableEq, Repr

namespace StringUnit

def chars (quote : Char) : StringUnit → List Char
  | plain c => [c]
  | hidden c => ['\\', c]
  | doubled => [quote, quote]

/-- A backslash or the quote is never a unit of its own. -/
def Fits (quote : Char) : StringUnit → Prop
  | plain c => c ≠ '\\' ∧ c ≠ quote
  | _ => True

/-- The characters of units that stand one behind the other. -/
def allChars (quote : Char) (us : List StringUnit) : List Char := us.flatMap (chars quote)

variable {quote : Char} {us us' : List StringUnit}

@[simp]
theorem allChars_nil : allChars quote [] = [] := rfl

@[simp]
theorem allChars_cons (u : StringUnit) :
    allChars quote (u :: us) = u.chars quote ++ allChars quote us := rfl

theorem chars_append_inj (hq : quote ≠ '\\') {u u' : StringUnit} (h : u.Fits quote)
    (h' : u'.Fits quote) {cs cs' : List Char} (he : u.chars quote ++ cs = u'.chars quote ++ cs') :
    u = u' ∧ cs = cs' := by
  cases u <;> cases u' <;> grind [chars, Fits]

/-- A unit is not a quote that closes. -/
theorem not_closed (hq : quote ≠ '\\') {u : StringUnit} (h : u.Fits quote) {cs rest : List Char}
    (hr : rest.head? ≠ some quote) : u.chars quote ++ cs ≠ quote :: rest := by
  intro he
  cases u with
  | plain c => exact h.2 (List.cons.inj he).1
  | hidden c => exact hq (List.cons.inj he).1.symm
  | doubled => exact hr (by rw [← (List.cons.inj he).2]; rfl)

/-- Units in front of a quote that closes can be told from the left. -/
theorem allChars_injective (hq : quote ≠ '\\') {rest rest' : List Char} (h : ∀ u ∈ us, u.Fits quote)
    (h' : ∀ u ∈ us', u.Fits quote) (hr : rest.head? ≠ some quote) (hr' : rest'.head? ≠ some quote)
    (he : allChars quote us ++ quote :: rest = allChars quote us' ++ quote :: rest') :
    us = us' ∧ rest = rest' := by
  induction us generalizing us' with
  | nil =>
      cases us' with
      | nil => exact ⟨rfl, (List.cons.inj he).2⟩
      | cons u us' =>
          rw [allChars_cons, List.append_assoc] at he
          exact absurd he.symm (not_closed hq (h' u (by simp)) hr)
  | cons u us ih =>
      rw [allChars_cons, List.append_assoc] at he
      cases us' with
      | nil => exact absurd he (not_closed hq (h u (by simp)) hr')
      | cons u' us' =>
          rw [allChars_cons, List.append_assoc] at he
          obtain ⟨rfl, more⟩ := chars_append_inj hq (h u (by simp)) (h' u' (by simp)) he
          obtain ⟨rfl, rfl⟩ := ih (fun u hu => h u (List.mem_cons_of_mem _ hu))
            (fun u hu => h' u (List.mem_cons_of_mem _ hu)) more
          exact ⟨rfl, rfl⟩

end StringUnit

/-- The string literal is made up of the units between its quotes. -/
structure HasUnits (raw : String) (quote : Char) (us : List StringUnit) : Prop where
  isQuote : quote = '"' ∨ quote = '\''
  fits : ∀ u ∈ us, u.Fits quote
  chars : raw.toList = quote :: (StringUnit.allChars quote us ++ [quote])

namespace HasUnits

variable {raw : String} {quote quote' : Char} {us us' : List StringUnit}

theorem quote_ne (h : HasUnits raw quote us) : quote ≠ '\\' := by
  rcases h.isQuote with rfl | rfl <;> decide

theorem unique (h : HasUnits raw quote us) (h' : HasUnits raw quote' us') :
    quote = quote' ∧ us = us' := by
  have same := h.chars.symm.trans h'.chars
  obtain ⟨rfl, same⟩ := List.cons.inj same
  have last : ([] : List Char).head? ≠ some quote := nofun
  exact ⟨rfl, (StringUnit.allChars_injective h.quote_ne h.fits h'.fits last last same).1⟩

end HasUnits

/-- String literals start with a quote. -/
theorem Token.Spelled.isQuote {raw : String} {c : Char} {cs : List Char}
    (h : (Token.str raw).Spelled (c :: cs)) : c = '"' ∨ c = '\'' := by
  generalize ht : Token.str raw = t, hc : c :: cs = spelling at h
  cases h with
  | str hq => exact (List.cons.inj hc).1 ▸ hq
  | _ => cases ht

namespace Lexer

variable {quote : Char} {cs : List Char} {n : Nat}

/-- The quote that closes stands behind the units, and is not doubled. -/
theorem stringLength?_eq_some_iff (hq : quote ≠ '\\') :
    stringLength? quote cs = some n ↔ ∃ us rest, (∀ u ∈ us, u.Fits quote) ∧
      cs = StringUnit.allChars quote us ++ quote :: rest ∧ rest.head? ≠ some quote ∧
      n = (StringUnit.allChars quote us).length + 1 := by
  refine ⟨fun h => ?_, ?_⟩
  · fun_induction stringLength? quote cs generalizing n with
    | case1 | case3 => cases h
    | case2 =>
        cases h
        exact ⟨[], [], List.forall_mem_nil _, rfl, by simp, rfl⟩
    | case4 d cs ih =>
        obtain ⟨m, hm, rfl⟩ := Option.map_eq_some_iff.1 h
        obtain ⟨us, rest, fits, rfl, hr, rfl⟩ := ih hm
        exact ⟨.hidden d :: us, rest, List.forall_mem_cons.2 ⟨trivial, fits⟩, rfl, hr, rfl⟩
    | case5 cs _ ih =>
        obtain ⟨m, hm, rfl⟩ := Option.map_eq_some_iff.1 h
        obtain ⟨us, rest, fits, rfl, hr, rfl⟩ := ih hm
        exact ⟨.doubled :: us, rest, List.forall_mem_cons.2 ⟨trivial, fits⟩, rfl, hr, rfl⟩
    | case6 d cs hd =>
        cases h
        exact ⟨[], d :: cs, List.forall_mem_nil _, rfl, by simpa using ‹_›, rfl⟩
    | case7 c d cs slash other ih =>
        obtain ⟨m, hm, rfl⟩ := Option.map_eq_some_iff.1 h
        obtain ⟨us, rest, fits, he, hr, rfl⟩ := ih hm
        exact ⟨.plain c :: us, rest, List.forall_mem_cons.2 ⟨⟨slash, other⟩, fits⟩, by rw [he]; rfl,
          hr, rfl⟩
  · rintro ⟨us, rest, fits, rfl, hr, rfl⟩
    induction us with
    | nil =>
        cases rest with
        | nil => simp [stringLength?]
        | cons d rest =>
            have other : d ≠ quote := by simpa using hr
            simp [stringLength?, hq, other]
    | cons u us ih =>
        have ih := ih fun u hu => fits u (List.mem_cons_of_mem _ hu)
        have fits := fits u (by simp)
        cases u with
        | plain c =>
            obtain ⟨d, ds, hd⟩ : ∃ d ds, StringUnit.allChars quote us ++ quote :: rest = d :: ds :=
              List.exists_cons_of_ne_nil (by simp)
            rw [hd] at ih
            simp [StringUnit.chars, hd, stringLength?, fits.1, fits.2, ih]
        | hidden c => simp [StringUnit.chars, stringLength?, ih]
        | doubled => simp [StringUnit.chars, stringLength?, hq, ih]

theorem hasUnits_of_codeToken {c : Char} {raw : String}
    (h : codeToken c cs = .ok (.str raw, n)) : ∃ us, HasUnits raw c us := by
  have isQuote := (codeToken_spelled h).1.isQuote
  cases hl : stringLength? c cs with
  | none => rcases isQuote with rfl | rfl <;> simp [codeToken, hl] at h
  | some m =>
      have read : codeToken c cs = .ok (.str (String.ofList (c :: cs.take m)), m) := by
        rcases isQuote with rfl | rfl <;> simp [codeToken, hl]
      cases read.symm.trans h
      obtain ⟨us, rest, fits, rfl, -, rfl⟩ :=
        (stringLength?_eq_some_iff (by rcases isQuote with rfl | rfl <;> decide)).1 hl
      refine ⟨us, isQuote, fits, ?_⟩
      rw [String.toList_ofList, List.take_length_add_append]
      rfl

/-- Text holds no string literals. -/
theorem textStep_ne_str {c : Char} {raw : String} {more : Nat} {next : Mode} :
    textStep c cs ≠ .emit (.str raw) more next := by
  intro h
  have takes := @textStep_takes (.within 0) c (fun _ => rfl) cs
  rw [h] at takes
  cases takes with
  | emit hs => rcases hs.isQuote with rfl | rfl <;> cases h

theorem tailStep_ne_str {c : Char} {raw : String} {more : Nat} {next : Mode} :
    tailStep c cs ≠ .emit (.str raw) more next := by
  unfold tailStep
  split
  · nofun
  · split
    · nofun
    · exact textStep_ne_str

/-- Only code holds string literals. -/
theorem codeToken_of_step {mode : Mode} {c : Char} {raw : String} {more : Nat} {next : Mode}
    (h : step mode c cs = .emit (.str raw) more next) : codeToken c cs = .ok (.str raw, more) := by
  have code {next : Token → Mode} {same last : Mode}
      (h : codeStep c cs next same = .emit (.str raw) more last) :
      codeToken c cs = .ok (.str raw, more) := by
    unfold codeStep at h
    split at h
    · cases h
    · split at h
      · next ht =>
        cases h
        exact ht
      · cases h
  cases mode with
  | text => exact absurd h textStep_ne_str
  | tail => exact absurd h tailStep_ne_str
  | expression => exact code h
  | code depth inTail =>
      simp only [step] at h
      split at h
      · exact absurd h textStep_ne_str
      · exact code h
  | arguments =>
      simp only [step] at h
      split at h
      · cases h
      · split at h
        · cases h
        · exact absurd h textStep_ne_str
  | call =>
      simp only [step] at h
      split at h
      · cases h
      · exact absurd h textStep_ne_str
  | method =>
      simp only [step] at h
      split at h
      · cases h
      · exact absurd h tailStep_ne_str
  | property =>
      simp only [step] at h
      split at h
      · exact absurd h textStep_ne_str
      · cases h

/-- Every token is the work of one step. -/
theorem exists_step_of_mem_run {mode : Mode} {offset : Nat} {lexemes : List Lexeme} {l : Lexeme}
    (h : run mode offset cs = .ok lexemes) (hl : l ∈ lexemes) :
    ∃ mode c cs more next, step mode c cs = .emit l.1 more next := by
  induction hn : cs.length using Nat.strong_induction_on generalizing mode offset cs lexemes with
  | _ n ih =>
      subst hn
      cases cs with
      | nil =>
          rw [run] at h
          cases h
          cases hl
      | cons c cs =>
          have shorter (more : Nat) : (cs.drop more).length < (c :: cs).length := by
            rw [List.length_drop, List.length_cons]
            omega
          rcases run_eq_ok h with ⟨t, more, next, tail, hs, hr, rfl⟩ | ⟨more, next, hs, hr⟩
          · rcases List.mem_cons.1 hl with rfl | hl
            · exact ⟨mode, c, cs, more, next, hs⟩
            · exact ih _ (shorter more) hr hl rfl
          · exact ih _ (shorter more) hr hl rfl

theorem hasUnits_of_mem_run {mode : Mode} {offset : Nat} {lexemes : List Lexeme} {raw : String}
    {span : Span} (h : run mode offset cs = .ok lexemes) (hl : (.str raw, span) ∈ lexemes) :
    ∃ quote us, HasUnits raw quote us := by
  obtain ⟨_, c, _, _, _, hs⟩ := exists_step_of_mem_run h hl
  exact ⟨c, hasUnits_of_codeToken (codeToken_of_step hs)⟩

end Lexer

end Template
