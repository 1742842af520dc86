import Template.Proofs.Token.StringUnits
import Template.Tree.OfMarkup

/-!
What string literals stand for. The builder reads the characters between the quotes again, without
knowing the units that the lexer found. It is in step with them but for one place: where a backslash
hides another and doubled quotes follow, it takes the second backslash together with the first quote.
-/

namespace Template

namespace StringUnit

/-- What the unit is meant to stand for: a quote if it is doubled or hidden, and else itself. -/
def value (quote : Char) : StringUnit → List Char
  | plain c => [c]
  | hidden c => if c = quote then [quote] else ['\\', c]
  | doubled => [quote]

def allValues (quote : Char) (us : List StringUnit) : List Char := us.flatMap (value quote)

/-- What the units stand for. A hidden backslash turns into a quote if doubled quotes follow. -/
def decoded (quote : Char) : List StringUnit → List Char
  | [] => []
  | u :: us =>
    (if u = hidden '\\' ∧ us.head? = some doubled then ['\\', quote] else u.value quote) ++
      decoded quote us

variable {quote : Char} {us : List StringUnit}

@[simp]
theorem allValues_cons (u : StringUnit) :
    allValues quote (u :: us) = u.value quote ++ allValues quote us := rfl

/-- The units mean what they stand for, unless a hidden backslash is followed by doubled quotes. -/
theorem decoded_eq_allValues_iff (hq : quote ≠ '\\') :
    decoded quote us = allValues quote us ↔ ¬[hidden '\\', doubled] <:+: us := by
  induction us with
  | nil => simp [decoded, allValues]
  | cons u us ih =>
      have front : [hidden '\\', doubled] <+: u :: us ↔ u = hidden '\\' ∧ us.head? = some doubled := by
        cases us <;> simp [List.cons_prefix_cons, eq_comm]
      rw [List.infix_cons_iff, front, not_or, ← ih, decoded, allValues_cons]
      split
      · next h =>
        obtain ⟨rfl, hd⟩ := h
        simp [value, hq, hq.symm, hd]
      · next h => simp [h]

end StringUnit

namespace Tree

open StringUnit (allChars decoded hidden plain doubled)

variable {quote : Char} {us : List StringUnit}

theorem unquote_plain {c : Char} (hs : c ≠ '\\') (hq : c ≠ quote) (cs : List Char) :
    unquote quote (c :: cs) = c :: unquote quote cs := by
  cases cs <;> simp [unquote, hs, hq]

theorem unquote_pair {c : Char} (hc : c = '\\' ∨ c = quote) (cs : List Char) :
    unquote quote (c :: quote :: cs) = quote :: unquote quote cs := by
  simp [unquote, hc]

theorem unquote_single {c d : Char} (hd : d ≠ quote) (cs : List Char) :
    unquote quote (c :: d :: cs) = c :: unquote quote (d :: cs) := by
  simp [unquote, hd]

/-- In step with the units, or one character ahead of them. -/
theorem unquote_allChars (hq : quote ≠ '\\') (fits : ∀ u ∈ us, u.Fits quote) :
    unquote quote (allChars quote us) = decoded quote us ∧
      ∀ c, c = '\\' ∨ c = quote → unquote quote (c :: allChars quote us) =
        (if us.head? = some doubled then quote else c) :: decoded quote us := by
  induction us with
  | nil => exact ⟨rfl, fun c _ => rfl⟩
  | cons u us ih =>
      obtain ⟨level, ahead⟩ := ih fun u hu => fits u (List.mem_cons_of_mem _ hu)
      have fits := fits u (by simp)
      have rest : unquote quote (allChars quote (u :: us)) = decoded quote (u :: us) := by
        cases u with
        | plain d =>
            simp [StringUnit.chars, decoded, StringUnit.value, unquote_plain fits.1 fits.2, level]
        | doubled =>
            simp [StringUnit.chars, decoded, StringUnit.value, unquote_pair (.inr rfl), level]
        | hidden d =>
            by_cases same : d = quote
            · subst same
              simp [StringUnit.chars, decoded, StringUnit.value, unquote_pair (.inl rfl), level, hq]
            · simp only [StringUnit.allChars_cons, StringUnit.chars, List.cons_append,
                List.nil_append, unquote_single same]
              by_cases slash : d = '\\'
              · -- Here the scan gets ahead: the second backslash may take a quote with it.
                subst slash
                rw [ahead '\\' (.inl rfl)]
                simp only [decoded, StringUnit.value, same, true_and, if_false]
                split <;> rfl
              · simp [unquote_plain slash same, level, decoded, StringUnit.value, same, slash]
      refine ⟨rest, fun c hc => ?_⟩
      cases u with
      | plain d =>
          rw [← rest]
          exact unquote_single fits.2 _
      | hidden d =>
          rw [← rest]
          exact unquote_single hq.symm _
      | doubled =>
          -- It stays ahead as long as doubled quotes follow.
          have second := ahead quote (.inr rfl)
          rw [ite_self] at second
          simp [StringUnit.chars, decoded, StringUnit.value, unquote_pair hc, second]

/-- The builder's reading of what stands between the quotes. -/
theorem unquote_units (hq : quote ≠ '\\') (fits : ∀ u ∈ us, u.Fits quote) :
    unquote quote (allChars quote us) = decoded quote us := (unquote_allChars hq fits).1

theorem splitQuotes_of_hasUnits {raw : String} (h : HasUnits raw quote us) :
    splitQuotes raw = (quote, allChars quote us) := by
  simp [splitQuotes, h.chars]

namespace Builder

/-- A literal is plain text, unless it is in double quotes and holds a template. -/
theorem literal_str (b : Builder) {raw : String} {body : List Char}
    (h : splitQuotes raw = (quote, body)) (s : Span) :
    b.literal (.str raw) s = .literal (.text (String.ofList (unquote quote body))) (b.region s) ∨
      quote = '"' ∧ mayInterpolate body ∧ ∃ nodes,
        b.template body (b.offset + s.start + 1) = some nodes ∧
        b.literal (.str raw) s = .interpolated nodes (b.region s) := by
  simp only [literal, h]
  by_cases inner : quote == '"' && mayInterpolate body
  · rw [if_pos inner]
    cases ht : b.template body (b.offset + s.start + 1) with
    | none => exact .inl rfl
    | some nodes =>
        simp only [Bool.and_eq_true, beq_iff_eq] at inner
        exact .inr ⟨inner.1, inner.2, nodes, rfl, rfl⟩
  · rw [if_neg inner]
    exact .inl rfl

theorem mapKey_of_hasUnits {raw : String} (h : HasUnits raw quote us) :
    mapKey (.str raw) = String.ofList (decoded quote us) := by
  simp only [mapKey, splitQuotes_of_hasUnits h, unquote_units h.quote_ne h.fits]

end Builder

end Tree

/-- Every string token has its units, and only one sequence of them. They give the text of the
literal that it is, unless this is a template, and the name of a map's key. Each unit gives what it
means exactly if no hidden backslash is followed by doubled quotes. -/
theorem string_tokens_decoded {source raw : String} {lexemes : List Lexeme} {span : Span}
    (h : tokenize source = .ok lexemes ∨ tokenizeExpression source = .ok lexemes)
    (hl : (.str raw, span) ∈ lexemes) : ∃ quote us, HasUnits raw quote us ∧
      (∀ quote' us', HasUnits raw quote' us' → quote' = quote ∧ us' = us) ∧
      (∀ (b : Tree.Builder) (s : Span),
        b.literal (.str raw) s =
          .literal (.text (String.ofList (StringUnit.decoded quote us))) (b.region s) ∨
        quote = '"' ∧ Tree.mayInterpolate (StringUnit.allChars quote us) ∧
          ∃ nodes, b.literal (.str raw) s = .interpolated nodes (b.region s)) ∧
      Tree.Builder.mapKey (.str raw) = String.ofList (StringUnit.decoded quote us) ∧
      (StringUnit.decoded quote us = StringUnit.allValues quote us ↔
        ¬[.hidden '\\', .doubled] <:+: us) := by
  obtain ⟨quote, us, units⟩ : ∃ quote us, HasUnits raw quote us :=
    h.elim (Lexer.hasUnits_of_mem_run · hl) (Lexer.hasUnits_of_mem_run · hl)
  refine ⟨quote, us, units, fun _ _ other => other.unique units, fun b s => ?_,
    Tree.Builder.mapKey_of_hasUnits units, StringUnit.decoded_eq_allValues_iff units.quote_ne⟩
  rw [← Tree.unquote_units units.quote_ne units.fits]
  refine (b.literal_str (Tree.splitQuotes_of_hasUnits units) s).imp_right ?_
  rintro ⟨hq, inner, nodes, -, template⟩
  exact ⟨hq, inner, nodes, template⟩

/-- A hidden backslash and doubled quotes, which mean a pair of backslashes and a quote. -/
theorem string_tokens_decoded_slashes :
    let raw := "'\\\\'''"
    let us : List StringUnit := [.hidden '\\', .doubled]
    ∃ lexemes, tokenize "#set($x='\\\\''')$!x" = .ok lexemes ∧ (.str raw, ⟨8, 14⟩) ∈ lexemes ∧
      HasUnits raw '\'' us ∧ Tree.Builder.mapKey (.str raw) = "\\''" ∧
      String.ofList (StringUnit.allValues '\'' us) = "\\\\'" := by
  intro raw us
  let lexemes : List Lexeme :=
    [(.directive .assign, ⟨0, 4⟩), (.symbol .openParen, ⟨4, 5⟩), (.reference "x" false, ⟨5, 7⟩),
      (.symbol .assign, ⟨7, 8⟩), (.str raw, ⟨8, 14⟩), (.symbol .closeParen, ⟨14, 15⟩),
      (.reference "x" true, ⟨15, 18⟩)]
  have tokens : tokenize "#set($x='\\\\''')$!x" = .ok lexemes := by decide +kernel
  have units : HasUnits raw '\'' us := ⟨.inr rfl, by simp [us, StringUnit.Fits], by decide⟩
  obtain ⟨quote, us', -, unique, -, key, -⟩ :=
    string_tokens_decoded (.inl tokens) (show (.str raw, ⟨8, 14⟩) ∈ lexemes by simp [lexemes])
  obtain ⟨rfl, rfl⟩ := unique _ _ units
  exact ⟨lexemes, tokens, by simp [lexemes], units, key.trans (by decide), by decide⟩

end Template
