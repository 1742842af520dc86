import Template.Proofs.Markup.ExprComplete
import Template.Proofs.Token.Nesting

/-!
The grammar of expressions looks no further than an expression goes. Where tokens close the brackets
that they open, and a comma or a bracket that closes stands behind them, or nothing at all, it does
not matter which of these it is and what comes later: two parsers of the grammar make the same of the
tokens, even if the one may go deeper than the other.
-/

namespace Template

namespace Token

/-- Tokens that stand behind an expression in brackets. -/
def endsExpr : Token → Bool
  | .symbol .comma => true
  | t => t.closes

theorem endsExpr_of_closes {t : Token} (h : t.closes) : t.endsExpr := by
  unfold endsExpr
  split
  · rfl
  · exact h

theorem cases_of_endsExpr {t : Token} (h : t.endsExpr) :
    t = .symbol .comma ∨ t = .directive .close ∨ t = .symbol .closeParen ∨
      t = .symbol .closeBracket ∨ t = .symbol .closeBrace := by
  unfold endsExpr at h
  split at h
  · simp
  · unfold closes at h
    split at h <;> simp at h ⊢

end Token

/-- Every bracket that opens is closed. -/
inductive Closed : List Token → Prop where
  | nil : Closed []
  | plain {t : Token} {ts : List Token} (ht : t.opens = false) (h : Closed ts) : Closed (t :: ts)
  | bracket {opener closer : Token} {inside ts : List Token} (hc : closer.closes)
      (hi : Closed inside) (h : Closed ts) : Closed (opener :: (inside ++ closer :: ts))

namespace Closed

variable {ts us : List Token}

theorem append (ht : Closed ts) (hu : Closed us) : Closed (ts ++ us) := by
  induction ht with
  | nil => exact hu
  | plain ht _ ih => exact .plain ht ih
  | bracket hc hi _ _ ih =>
      rw [List.cons_append, List.append_assoc]
      exact .bracket hc hi ih

theorem tail {t : Token} (h : Closed (t :: ts)) : Closed ts := by
  cases h with
  | plain _ h => exact h
  | bracket hc hi h => exact hi.append (.plain (Token.not_opens_of_closes hc) h)

theorem of_suffix (h : Closed ts) (hs : us <:+ ts) : Closed us := by
  obtain ⟨before, rfl⟩ := hs
  induction before with
  | nil => exact h
  | cons t before ih => exact ih h.tail

theorem split {t : Token} (h : Closed (t :: ts)) (ht : t.opens) :
    ∃ inside closer rest, ts = inside ++ closer :: rest ∧ closer.closes ∧ Closed inside := by
  cases h with
  | plain ho => rw [ht] at ho; cases ho
  | bracket hc hi _ => exact ⟨_, _, _, rfl, hc, hi⟩

end Closed

theorem Bracketed.closed {levels : Nat} {ts : List Token} (h : Bracketed levels ts) :
    Closed ts := by
  induction h with
  | nil => exact .nil
  | single hn =>
      refine .plain ?_ .nil
      simp only [Nesting.isNeutral, Nesting.deepens] at hn
      simp_all
  | append _ _ iht ihu => exact iht.append ihu
  | between _ hc _ ih => exact .bracket hc ih .nil
  | question _ ih => exact .plain rfl ih
  | mono _ _ ih => exact ih

namespace Markup

namespace Parser

variable {α β : Type}

/-- At both cursors stand the tokens `ts`, which close their brackets. What stands behind them begins
with a token that `Stop` knows, if there is anything. -/
structure Beside (Stop : Token → Prop) (ts behind behind' : List Token) (c c' : Cursor) : Prop where
  closed : Closed ts
  stop : ∀ t ∈ behind.head?, Stop t
  stop' : ∀ t ∈ behind'.head?, Stop t
  tokens : c.tokens = ts ++ behind
  tokens' : c'.tokens = ts ++ behind'

/-- The two outcomes fail, or have related results and leave the same of the tokens `ts`. -/
inductive Alike (R : α → α → Prop) (Stop : Token → Prop) (ts behind behind' : List Token) :
    Outcome α → Outcome α → Prop where
  | success {a a' : α} {next next' : Cursor} {missed missed' : Option Failure} {rest : List Token}
      (ha : R a a') (hr : rest <:+ ts) (hn : Beside Stop rest behind behind' next next') :
      Alike R Stop ts behind behind' (.success a next missed) (.success a' next' missed')
  | failure {e e' : Failure} : Alike R Stop ts behind behind' (.failure e) (.failure e')

namespace Alike

variable {Stop : Token → Prop} {R : α → α → Prop} {S : β → β → Prop} {p p' : Parser α}
  {f f' : α → Parser β} {ts ts' behind behind' : List Token} {c c' : Cursor}

theorem of_suffix {o o' : Outcome α} (h : Alike R Stop ts' behind behind' o o') (hs : ts' <:+ ts) :
    Alike R Stop ts behind behind' o o' := by
  cases h with
  | success ha hr hn => exact .success ha (hr.trans hs) hn
  | failure => exact .failure

theorem bind_failure {e e' : Failure} (h : p c = .failure e) (h' : p' c' = .failure e') :
    Alike S Stop ts behind behind' ((p >>= f) c) ((p' >>= f') c') := by
  change Alike S Stop ts behind behind' (Parser.bind p f c) (Parser.bind p' f' c')
  simp only [Parser.bind, h, h']
  exact .failure

theorem bind_success {a a' : α} {next next' : Cursor} {missed missed' : Option Failure}
    (h : p c = .success a next missed) (h' : p' c' = .success a' next' missed')
    (hf : Alike S Stop ts behind behind' (f a next) (f' a' next')) :
    Alike S Stop ts behind behind' ((p >>= f) c) ((p' >>= f') c') := by
  change Alike S Stop ts behind behind' (Parser.bind p f c) (Parser.bind p' f' c')
  simp only [Parser.bind, h, h']
  generalize f a next = o, f' a' next' = o' at hf
  cases hf with
  | success hb hr hn => exact .success hb hr hn
  | failure => exact .failure

theorem bind (hp : Alike R Stop ts behind behind' (p c) (p' c'))
    (hf : ∀ a a' next next' rest, R a a' → rest <:+ ts → Beside Stop rest behind behind' next next' →
      Alike S Stop rest behind behind' (f a next) (f' a' next')) :
    Alike S Stop ts behind behind' ((p >>= f) c) ((p' >>= f') c') := by
  generalize h : p c = o, h' : p' c' = o' at hp
  cases hp with
  | failure => exact bind_failure h h'
  | success ha hr hn => exact bind_success h h' ((hf _ _ _ _ _ ha hr hn).of_suffix hr)

end Alike

/-- Of fewer than `size` tokens the two parsers make the same. -/
structure Local (Stop : Token → Prop) (size : Nat) (R : α → α → Prop) (p p' : Parser α) : Prop where
  alike {ts behind behind' : List Token} {c c' : Cursor} (h : Beside Stop ts behind behind' c c')
    (hs : ts.length < size) : Alike R Stop ts behind behind' (p c) (p' c')

/-- The next token is the same, or none of the tokens is left. -/
theorem Beside.cases {Stop : Token → Prop} {ts behind behind' : List Token} {c c' : Cursor}
    (h : Beside Stop ts behind behind' c c') :
    (ts = [] ∧ (∀ t ∈ c.tokens.head?, Stop t) ∧ ∀ t ∈ c'.tokens.head?, Stop t) ∨
      ∃ t more span span' rest rest', ts = t :: more ∧ c.rest = (t, span) :: rest ∧
        c'.rest = (t, span') :: rest' ∧ ∀ index index' stop stop',
          Beside Stop more behind behind' ⟨index, stop, rest⟩ ⟨index', stop', rest'⟩ := by
  cases ts with
  | nil => exact .inl ⟨rfl, h.tokens ▸ h.stop, h.tokens' ▸ h.stop'⟩
  | cons t more =>
      obtain ⟨⟨_, span⟩, rest, hc, rfl, hr⟩ := List.map_eq_cons_iff.1 h.tokens
      obtain ⟨⟨_, span'⟩, rest', hc', rfl, hr'⟩ := List.map_eq_cons_iff.1 h.tokens'
      exact .inr ⟨_, more, span, span', rest, rest', rfl, hc, hc', fun _ _ _ _ =>
        ⟨h.closed.tail, h.stop, h.stop', hr, hr'⟩⟩

/-- Where a token is left, it is taken at both cursors or at none. -/
theorem Beside.token {Stop : Token → Prop} {ts behind behind' : List Token} {c c' : Cursor}
    (h : Beside Stop ts behind behind' c c') (hts : ts ≠ []) (t : Token) :
    Alike (fun _ _ => True) Stop ts behind behind' (token t c) (token t c') := by
  obtain ⟨index, stop, rest⟩ := c
  obtain ⟨index', stop', rest'⟩ := c'
  rcases h.cases with ⟨h, -⟩ | ⟨u, more, span, span', rest, rest', rfl, rfl, rfl, hn⟩
  · exact absurd h hts
  · simp only [Parser.token]
    split
    · exact .success trivial (List.suffix_cons u more) (hn _ _ _ _)
    · exact .failure

/-- Both cursors advance by as many tokens. -/
theorem Beside.shorter_iff {Stop : Token → Prop} {ts ts' behind behind' : List Token}
    {c c' next next' : Cursor} (hc : Beside Stop ts behind behind' c c')
    (hn : Beside Stop ts' behind behind' next next') :
    (next.rest.length < c.rest.length ↔ ts'.length < ts.length) ∧
      (next'.rest.length < c'.rest.length ↔ ts'.length < ts.length) := by
  simp only [← Cursor.tokens_length, hc.tokens, hc.tokens', hn.tokens, hn.tokens',
    List.length_append]
  omega

namespace Local

variable {Stop : Token → Prop} {size : Nat} {R : α → α → Prop} {S : β → β → Prop}
  {p p' q q' : Parser α}

theorem mono {R' : α → α → Prop} (h : Local Stop size R p p') (hr : ∀ a a', R a a' → R' a a') :
    Local Stop size R' p p' := by
  refine ⟨fun {ts _ _ c c'} hc hs => ?_⟩
  have alike := h.alike hc hs
  generalize p c = o, p' c' = o' at alike
  cases alike with
  | success ha hr' hn => exact .success (hr _ _ ha) hr' hn
  | failure => exact .failure

theorem pure {a a' : α} (h : R a a') : Local Stop size R (Pure.pure a) (Pure.pure a') :=
  ⟨fun hc _ => .success h (List.suffix_refl _) hc⟩

theorem bind {f f' : α → Parser β} (hp : Local Stop size R p p')
    (hf : ∀ a a', R a a' → Local Stop size S (f a) (f' a')) :
    Local Stop size S (p >>= f) (p' >>= f') :=
  ⟨fun hc hs => (hp.alike hc hs).bind fun a a' _ _ _ ha hr hn =>
    (hf a a' ha).alike hn (Nat.lt_of_le_of_lt hr.length_le hs)⟩

theorem select {f : Token → Option α} (hf : ∀ t, Stop t → f t = none) :
    Local Stop size (· = ·) (select f) (select f) := by
  refine ⟨fun {ts _ _ c c'} hc _ => ?_⟩
  obtain ⟨index, stop, rest⟩ := c
  obtain ⟨index', stop', rest'⟩ := c'
  rcases hc.cases with ⟨rfl, hs, hs'⟩ | ⟨t, more, span, span', rest, rest', rfl, rfl, rfl, hn⟩
  · obtain ⟨e, he⟩ := (Fails.select fun t ht => hf t (hs t ht)).failed rfl
    obtain ⟨e', he'⟩ := (Fails.select fun t ht => hf t (hs' t ht)).failed rfl
    rw [he, he']
    exact .failure
  · simp only [Parser.select]
    cases f t with
    | none => exact .failure
    | some a => exact .success rfl (List.suffix_cons t more) (hn _ _ _ _)

theorem token {t : Token} (ht : ¬Stop t) :
    Local Stop size (fun _ _ => True) (token t) (token t) := by
  refine ⟨fun {ts _ _ c c'} hc _ => ?_⟩
  cases ts with
  | nil =>
      obtain ⟨e, he⟩ := (Fails.token fun h => ht (hc.stop t h)).failed hc.tokens
      obtain ⟨e', he'⟩ := (Fails.token fun h => ht (hc.stop' t h)).failed hc.tokens'
      rw [he, he']
      exact .failure
  | cons => exact hc.token (List.cons_ne_nil _ _) t

theorem spanned (h : Local Stop size R p p') :
    Local Stop size (fun r r' => R r.1 r'.1) (spanned p) (spanned p') := by
  refine ⟨fun {ts _ _ c c'} hc hs => ?_⟩
  have alike := h.alike hc hs
  unfold Parser.spanned
  generalize p c = o, p' c' = o' at alike
  cases alike with
  | success ha hr hn => exact .success ha hr hn
  | failure => exact .failure

theorem labelled {r : Rule} (h : Local Stop size R p p') :
    Local Stop size R (labelled r p) (labelled r p') := by
  refine ⟨fun {ts _ _ c c'} hc hs => ?_⟩
  have alike := h.alike hc hs
  unfold Parser.labelled
  generalize p c = o, p' c' = o' at alike
  cases alike with
  | success ha hr hn => exact .success ha hr hn
  | failure => exact .failure

theorem orElse (hp : Local Stop size R p p') (hq : Local Stop size R q q') :
    Local Stop size R (orElse p q) (orElse p' q') := by
  refine ⟨fun {ts _ _ c c'} hc hs => ?_⟩
  have first := hp.alike hc hs
  have second := hq.alike hc hs
  unfold Parser.orElse
  generalize p c = o, p' c' = o' at first
  cases first with
  | success ha hr hn => exact .success ha hr hn
  | failure =>
      generalize q c = o, q' c' = o' at second
      cases second with
      | success ha hr hn => exact .success ha hr hn
      | failure => exact .failure

theorem fail : Local Stop size R (fail : Parser α) Parser.fail := ⟨fun _ _ => .failure⟩

theorem choice {ps ps' : List (Parser α)} (h : List.Forall₂ (Local Stop size R) ps ps') :
    Local Stop size R (choice ps) (choice ps') := by
  induction h with
  | nil => exact fail
  | @cons p p' ps ps' hp hps ih =>
      cases hps with
      | nil => exact hp
      | cons => exact hp.orElse ih

theorem optional (h : Local Stop size R p p') :
    Local Stop size (Option.Rel R) (optional p) (optional p') := by
  refine ⟨fun {ts _ _ c c'} hc hs => ?_⟩
  have alike := h.alike hc hs
  unfold Parser.optional
  generalize p c = o, p' c' = o' at alike
  cases alike with
  | success ha hr hn => exact .success (.some ha) hr hn
  | failure => exact .success .none (List.suffix_refl _) hc

theorem many (h : Local Stop size R p p') :
    Local Stop size (List.Forall₂ R) (many p) (many p') := by
  refine ⟨fun {ts _ _ c c'} hc hs => ?_⟩
  induction hl : ts.length using Nat.strong_induction_on generalizing ts c c' with
  | _ n ih =>
      subst hl
      have alike := h.alike hc hs
      rw [Parser.many, Parser.many]
      generalize p c = o, p' c' = o' at alike
      cases alike with
      | failure => exact .success .nil (List.suffix_refl _) hc
      | @success a a' next next' _ _ rest ha hr hn =>
          simp only [(hc.shorter_iff hn).1, (hc.shorter_iff hn).2]
          split
          · next hl =>
            have alike := ih _ hl hn (Nat.lt_trans hl hs) rfl
            generalize Parser.many p next = o, Parser.many p' next' = o' at alike
            cases alike with
            | success has hr' hn' => exact .success (.cons ha has) (hr'.trans hr) hn'
            | failure => exact .failure
          · exact .success .nil (List.suffix_refl _) hc

/-- Behind a token there are fewer left. -/
theorem behind {t : Token} (ht : ¬Stop t) {f f' : Parser β} (hf : Local Stop size S f f') :
    Local Stop (size + 1) S (do Parser.token t; f) (do Parser.token t; f') := by
  refine ⟨fun {ts _ _ c c'} hc few => ?_⟩
  have alike := (token ht).alike hc few
  generalize hp : Parser.token t c = o, hp' : Parser.token t c' = o' at alike
  cases alike with
  | failure => exact .bind_failure hp hp'
  | @success _ _ next next' _ _ rest _ hr hn =>
      obtain ⟨ls, passes, fits, -⟩ := (Takes.token t).taken hp
      have taken : next.rest.length < c.rest.length := by
        rw [passes.rest, List.length_append]
        have := List.length_pos_iff.2 fits.token_ne_nil
        omega
      have shorter := (hc.shorter_iff hn).1.1 taken
      exact .bind_success hp hp' ((hf.alike hn (by omega)).of_suffix hr)

/-- Where it matters less what stands behind. -/
theorem stricter {Stop' : Token → Prop} (h : Local Stop size R p p') (hs : ∀ t, Stop' t → Stop t) :
    Local Stop' size R p p' := by
  refine ⟨fun {ts _ _ c c'} hc size => ?_⟩
  have alike := h.alike ⟨hc.closed, fun t ht => hs t (hc.stop t ht), fun t ht => hs t (hc.stop' t ht),
    hc.tokens, hc.tokens'⟩ size
  generalize p c = o, p' c' = o' at alike
  cases alike with
  | success ha hr hn => exact .success ha hr ⟨hn.closed, hc.stop, hc.stop', hn.tokens, hn.tokens'⟩
  | failure => exact .failure

theorem smaller {size' : Nat} (h : Local Stop size R p p') (hs : size' ≤ size) :
    Local Stop size' R p p' :=
  ⟨fun hc size => h.alike hc (Nat.lt_of_lt_of_le size hs)⟩

/-- Further items up to a bracket that closes. -/
theorem moreItems (trailing : Bool) (hs : ¬Stop (.symbol .comma)) (h : Local Stop size R p p') :
    Local Stop size (List.Forall₂ R) (moreItems trailing (Parser.symbol .comma) p)
      (moreItems trailing (Parser.symbol .comma) p') := by
  refine ⟨fun {ts _ _ c c'} hc size => ?_⟩
  induction hl : ts.length using Nat.strong_induction_on generalizing ts c c' with
  | _ n ih =>
      subst hl
      have comma : Alike (fun _ _ => True) Stop ts _ _ (Parser.symbol .comma c)
          (Parser.symbol .comma c') := (token hs).alike hc size
      rw [Parser.moreItems, Parser.moreItems]
      generalize Parser.symbol .comma c = o, Parser.symbol .comma c' = o' at comma
      cases comma with
      | failure => exact .success .nil (List.suffix_refl _) hc
      | @success _ _ next next' _ _ rest _ hr hn =>
          have item := h.alike hn (Nat.lt_of_le_of_lt hr.length_le size)
          simp only
          generalize p next = o, p' next' = o' at item
          cases item with
          | failure =>
              cases trailing with
              | true => exact .success .nil hr hn
              | false => exact .success .nil (List.suffix_refl _) hc
          | @success a a' last last' _ _ rest' ha hr' hn' =>
              simp only [(hc.shorter_iff hn').1, (hc.shorter_iff hn').2]
              split
              · next hl =>
                have alike := ih _ hl hn' (Nat.lt_trans hl size) rfl
                generalize Parser.moreItems trailing _ p last = o,
                  Parser.moreItems trailing _ p' last' = o' at alike
                cases alike with
                | success has hr'' hn'' =>
                    exact .success (.cons ha has) (hr''.trans (hr'.trans hr)) hn''
                | failure => exact .failure
              · exact .success .nil (List.suffix_refl _) hc

theorem items (trailing : Bool) (hs : ¬Stop (.symbol .comma)) (h : Local Stop size R p p') :
    Local Stop size (List.Forall₂ R) (items trailing (Parser.symbol .comma) p)
      (items trailing (Parser.symbol .comma) p') := by
  refine ⟨fun {ts _ _ c c'} hc size => ?_⟩
  have first := h.alike hc size
  unfold Parser.items
  generalize p c = o, p' c' = o' at first
  cases first with
  | failure => exact .success .nil (List.suffix_refl _) hc
  | @success a a' next next' _ _ rest ha hr hn =>
      have more := (moreItems trailing hs h).alike hn (Nat.lt_of_le_of_lt hr.length_le size)
      simp only
      generalize Parser.moreItems trailing _ p next = o, Parser.moreItems trailing _ p' next' = o'
        at more
      cases more with
      | success has hr' hn' => exact .success (.cons ha has) (hr'.trans hr) hn'
      | failure => exact .failure

end Local

/-- The same in an open bracket that the tokens close. -/
structure LocalInside (size : Nat) (R : α → α → Prop) (p p' : Parser α) : Prop where
  alike {Stop : Token → Prop} {inside rest behind behind' : List Token} {closer : Token}
    {c c' : Cursor} (hc : closer.closes) (hi : Closed inside) (hs : inside.length < size)
    (h : Beside Stop (inside ++ closer :: rest) behind behind' c c') :
    Alike R Stop (inside ++ closer :: rest) behind behind' (p c) (p' c')

section Brackets

variable {Stop : Token → Prop} {size : Nat} {R : α → α → Prop} {S : β → β → Prop} {p p' : Parser α}

/-- The parser stops in front of the bracket that closes, if it does not fail. -/
theorem Local.inside (h : Local (Token.closes ·) size R p p') (closer : Symbol) {k k' : α → β}
    (hk : ∀ a a', R a a' → S (k a) (k' a')) :
    LocalInside size S (do let a ← p; Parser.symbol closer; return k a)
      (do let a ← p'; Parser.symbol closer; return k' a) := by
  refine ⟨fun {Stop inside rest behind behind' t c c'} ht hi hs hc => ?_⟩
  have within : Beside (Token.closes ·) inside (t :: rest ++ behind) (t :: rest ++ behind') c c' := by
    refine ⟨hi, ?_, ?_, ?_, ?_⟩
    · rintro _ ⟨⟩
      exact ht
    · rintro _ ⟨⟩
      exact ht
    · rw [hc.tokens, List.append_assoc]
    · rw [hc.tokens', List.append_assoc]
  have alike := h.alike within hs
  generalize hp : p c = o, hp' : p' c' = o' at alike
  cases alike with
  | failure => exact .bind_failure hp hp'
  | @success a a' next next' _ _ left ha hr hn =>
      have suffix : left ++ t :: rest <:+ inside ++ t :: rest := by
        obtain ⟨before, rfl⟩ := hr
        exact ⟨before, (List.append_assoc ..).symm⟩
      have here : Beside Stop (left ++ t :: rest) behind behind' next next' := by
        refine ⟨hc.closed.of_suffix suffix, hc.stop, hc.stop', ?_, ?_⟩
        · rw [hn.tokens, List.append_assoc]
        · rw [hn.tokens', List.append_assoc]
      have close : Alike (fun _ _ => True) Stop _ _ _ (Parser.symbol closer next)
          (Parser.symbol closer next') := here.token (by simp) (.symbol closer)
      exact .bind_success hp hp' (.of_suffix (close.bind fun _ _ _ _ _ _ _ hn =>
        .success (hk a a' ha) (List.suffix_refl _) hn) suffix)

/-- A parser that takes a bracket that opens, and one for what stands in it. -/
theorem Local.bracket {γ : Type} {opener : Parser γ} {f f' : γ → Parser α} {t : γ → Token}
    {P : γ → Prop} (hs : Local Stop (size + 1) (· = ·) opener opener)
    (ho : opener.Takes (fun g => [.token (t g)]) P) (ht : ∀ g, (t g).opens)
    (hf : ∀ g, LocalInside size R (f g) (f' g)) :
    Local Stop (size + 1) R (opener >>= f) (opener >>= f') := by
  refine ⟨fun {ts behind behind' c c'} hc few => ?_⟩
  have alike := hs.alike hc few
  generalize hp : opener c = o, hp' : opener c' = o' at alike
  cases alike with
  | failure => exact .bind_failure hp hp'
  | @success g _ next next' _ _ left ha hr hn =>
      cases ha
      obtain ⟨ls, passes, fits, -⟩ := ho.taken hp
      refine .bind_success hp hp' ?_
      have first : c.tokens = t g :: next.tokens := by
        cases fits with
        | token fits =>
            cases fits
            rw [Cursor.tokens, passes.rest]
            rfl
      rw [hc.tokens, hn.tokens, ← List.cons_append, List.append_cancel_right_eq] at first
      subst first
      obtain ⟨inside, closer, rest, rfl, hcl, hi⟩ := hc.closed.split (ht g)
      have shorter : inside.length < size := by
        simp only [List.length_cons, List.length_append] at few
        omega
      exact ((hf g).alike hcl hi shorter hn).of_suffix hr

theorem Local.between (h : Local (Token.closes ·) size R p p') {opener closer : Symbol}
    (ho : (Token.symbol opener).opens) (hs : ¬Stop (.symbol opener)) :
    Local Stop (size + 1) R (between opener closer p) (between opener closer p') := by
  have open' : Local Stop (size + 1) (fun _ _ => True) (Parser.symbol opener)
      (Parser.symbol opener) := .token hs
  exact .bracket (open'.mono fun _ _ _ => rfl) (.symbol opener) (fun _ => ho) fun _ =>
    h.inside closer fun _ _ ha => ha

end Brackets

end Parser

end Markup

end Template
