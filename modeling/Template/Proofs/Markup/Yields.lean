import Mathlib.Data.List.Chain
import Template.Proofs.Markup.Layout

/-!
What parsers take: whenever a parser succeeds, the tokens that it took stand in a relation to its
result. Spans come from the first and the last token taken.
-/

namespace Template

namespace Markup

/-- Where the last of the tokens stops. -/
def stopAfter (stop : Nat) (ls : List Lexeme) : Nat := (ls.getLast?.map (·.2.stop)).getD stop

/-- The tokens lie between the two places. -/
structure Cursor.Passes (c : Cursor) (ls : List Lexeme) (next : Cursor) : Prop where
  rest : c.rest = ls ++ next.rest
  index : next.index = c.index + ls.length
  stop : next.stop = stopAfter c.stop ls

namespace Cursor.Passes

theorem refl (c : Cursor) : c.Passes [] c := ⟨rfl, rfl, rfl⟩

theorem trans {c next last : Cursor} {ls ls' : List Lexeme} (h : c.Passes ls next)
    (h' : next.Passes ls' last) : c.Passes (ls ++ ls') last := by
  refine ⟨?_, ?_, ?_⟩
  · rw [h.rest, h'.rest, List.append_assoc]
  · rw [h'.index, h.index, List.length_append, Nat.add_assoc]
  · rw [h'.stop, h.stop]
    simp only [stopAfter]
    rw [List.getLast?_append]
    cases ls'.getLast? <;> rfl

theorem covers {c next : Cursor} {ls : List Lexeme} (h : c.Passes ls next) (hn : ls ≠ []) :
    ∃ first rest, c.rest = first :: rest ∧ Span.Covers ⟨first.2.start, next.stop⟩ ls := by
  obtain ⟨first, more, rfl⟩ := List.exists_cons_of_ne_nil hn
  refine ⟨first, more ++ next.rest, h.rest, first, (first :: more).getLast hn, rfl,
    List.getLast?_eq_some_getLast hn, ?_⟩
  rw [h.stop]
  simp [stopAfter, List.getLast?_eq_some_getLast hn]

end Cursor.Passes

namespace Parser

variable {α β : Type}

theorem bind_eq_success {p : Parser α} {f : α → Parser β} {c last : Cursor} {b : β}
    {missed : Option Failure} (h : (p >>= f) c = .success b last missed) :
    ∃ a next missed₁ missed₂, p c = .success a next missed₁ ∧
      f a next = .success b last missed₂ := by
  change Parser.bind p f c = _ at h
  unfold Parser.bind at h
  split at h
  · cases h
  · next a next missed₁ ha =>
    split at h
    · cases h
    · next hb =>
      cases h
      exact ⟨a, next, missed₁, _, ha, hb⟩

theorem bind_eq_failure {p : Parser α} {f : α → Parser β} {c : Cursor} {e : Failure}
    (h : (p >>= f) c = .failure e) :
    (∃ e', p c = .failure e') ∨
      ∃ a next missed e', p c = .success a next missed ∧ f a next = .failure e' := by
  change Parser.bind p f c = _ at h
  unfold Parser.bind at h
  split at h
  · next he => exact .inl ⟨_, he⟩
  · next a next missed ha =>
    split at h
    · next hb => exact .inr ⟨a, next, missed, _, ha, hb⟩
    · cases h

theorem spanned_eq_success {p : Parser α} {c next : Cursor} {r : α × Span}
    {missed : Option Failure} (h : spanned p c = .success r next missed) :
    p c = .success r.1 next missed := by
  unfold spanned at h
  split at h
  · cases h
  · next ha =>
    cases h
    exact ha

theorem spanned_eq_failure {p : Parser α} {c : Cursor} {e : Failure}
    (h : spanned p c = .failure e) : p c = .failure e := by
  unfold spanned at h
  split at h
  · next he =>
    cases h
    exact he
  · cases h

theorem select_eq_failure {f : Token → Option α} {c : Cursor} {e : Failure}
    (h : select f c = .failure e) : ∀ l ∈ c.rest.head?, f l.1 = none := by
  unfold select at h
  split at h
  · next hc => simp [hc]
  · next t span rest hc =>
    split at h
    · cases h
    · next hn => simpa [hc] using hn

theorem endOfInput_eq_success {c next : Cursor} {u : Unit} {missed : Option Failure}
    (h : endOfInput c = .success u next missed) : c.rest = [] := by
  unfold endOfInput at h
  split at h
  · assumption
  · cases h

/-- Whenever the parser succeeds, its result and the tokens it took are related. -/
structure Yields (p : Parser α) (R : α → List Lexeme → Prop) : Prop where
  taken : ∀ {c a next missed}, p c = .success a next missed → ∃ ls, c.Passes ls next ∧ R a ls

/-- The same where tokens have been taken before. -/
def Continues (taken : List Lexeme) (p : Parser α) (R : α → List Lexeme → Prop) : Prop :=
  p.Yields fun a ls => R a (taken ++ ls)

namespace Yields

variable {p q : Parser α} {R : α → List Lexeme → Prop} {S : β → List Lexeme → Prop}

theorem mono {R' : α → List Lexeme → Prop} (hp : p.Yields R) (h : ∀ a ls, R a ls → R' a ls) :
    p.Yields R' := by
  refine ⟨fun {c a next missed} hs => ?_⟩
  obtain ⟨ls, hl, hr⟩ := hp.taken hs
  exact ⟨ls, hl, h a ls hr⟩

theorem pure {a : α} (h : R a []) : Yields (Pure.pure a) R := by
  refine ⟨fun {c b next missed} hs => ?_⟩
  cases hs
  exact ⟨[], .refl c, h⟩

theorem bind {f : α → Parser β} (hp : p.Yields R)
    (hf : ∀ a ls, R a ls → (f a).Continues ls S) : (p >>= f).Yields S := by
  refine ⟨fun {c b last missed} hs => ?_⟩
  obtain ⟨a, next, _, _, ha, hb⟩ := bind_eq_success hs
  obtain ⟨ls, hl, hr⟩ := hp.taken ha
  obtain ⟨ls', hl', hs'⟩ := (hf a ls hr).taken hb
  exact ⟨ls ++ ls', hl.trans hl', hs'⟩

theorem fail : Yields (fail : Parser α) R := by
  refine ⟨fun {c a next missed} hs => ?_⟩
  cases hs

theorem select {f : Token → Option α} :
    (select f).Yields fun a ls => ∃ t span, f t = some a ∧ ls = [(t, span)] := by
  refine ⟨fun {c a next missed} hs => ?_⟩
  unfold Parser.select at hs
  split at hs
  · cases hs
  · next t span rest hc =>
    split at hs
    · next hv =>
      cases hs
      exact ⟨[(t, span)], ⟨hc, rfl, rfl⟩, t, span, hv, rfl⟩
    · cases hs

theorem spanned (hp : p.Yields R) (hn : ∀ a ls, R a ls → ls ≠ []) :
    (spanned p).Yields fun r ls => R r.1 ls ∧ r.2.Covers ls := by
  refine ⟨fun {c r next missed} hs => ?_⟩
  unfold Parser.spanned at hs
  split at hs
  · cases hs
  · next a next' missed' ha =>
    obtain ⟨ls, hl, hr⟩ := hp.taken ha
    obtain ⟨first, rest, hc, covers⟩ := hl.covers (hn a ls hr)
    cases hs
    exact ⟨ls, hl, hr, by simpa only [hc] using covers⟩

theorem labelled {r : Rule} (hp : p.Yields R) : (labelled r p).Yields R := by
  refine ⟨fun {c a next missed} hs => ?_⟩
  unfold Parser.labelled at hs
  split at hs
  · cases hs
  · next ha =>
    cases hs
    exact hp.taken ha

theorem orElse (hp : p.Yields R) (hq : q.Yields R) : (orElse p q).Yields R := by
  refine ⟨fun {c a next missed} hs => ?_⟩
  unfold Parser.orElse at hs
  split at hs
  · next ha =>
    cases hs
    exact hp.taken ha
  · split at hs
    · next ha =>
      cases hs
      exact hq.taken ha
    · cases hs

theorem choice {ps : List (Parser α)} (h : ∀ p ∈ ps, p.Yields R) : (choice ps).Yields R := by
  fun_induction Parser.choice ps with
  | case1 => exact fail
  | case2 p => exact h p (by simp)
  | case3 p ps _ ih =>
      exact orElse (h p (by simp)) (ih fun q hq => h q (List.mem_cons_of_mem p hq))

theorem optional (hp : p.Yields R) :
    (optional p).Yields fun a ls => (a = none ∧ ls = []) ∨ ∃ b, a = some b ∧ R b ls := by
  refine ⟨fun {c a next missed} hs => ?_⟩
  unfold Parser.optional at hs
  split at hs
  · next ha =>
    cases hs
    obtain ⟨ls, hl, hr⟩ := hp.taken ha
    exact ⟨ls, hl, .inr ⟨_, rfl, hr⟩⟩
  · cases hs
    exact ⟨[], .refl c, .inl ⟨rfl, rfl⟩⟩

theorem many {S : List α → List Lexeme → Prop} (hp : p.Yields R) (hn : S [] [])
    (hc : ∀ a ls as ls', R a ls → S as ls' → S (a :: as) (ls ++ ls')) : (many p).Yields S := by
  refine ⟨fun {c} => ?_⟩
  fun_induction Parser.many p c with
  | case1 | case4 =>
      intro as last missed hs
      cases hs
      exact ⟨[], .refl _, hn⟩
  | case2 c a next missed ha _ as last missed' hm ih =>
      intro as' last' missed'' hs
      cases hs
      obtain ⟨ls, hl, hr⟩ := hp.taken ha
      obtain ⟨ls', hl', hs⟩ := ih hm
      exact ⟨ls ++ ls', hl.trans hl', hc a ls _ ls' hr hs⟩
  | case3 => nofun

end Yields

namespace Continues

variable {p : Parser α} {R : α → List Lexeme → Prop} {S : β → List Lexeme → Prop}
  {taken : List Lexeme}

theorem pure {a : α} (h : R a taken) : Continues taken (Pure.pure a) R :=
  Yields.pure (by simpa only [List.append_nil] using h)

theorem bind {f : α → Parser β} (hp : p.Yields R)
    (hf : ∀ a ls, R a ls → (f a).Continues (taken ++ ls) S) : (p >>= f).Continues taken S := by
  refine Yields.bind hp fun a ls hr => (hf a ls hr).mono fun b ls' hs => ?_
  simpa only [List.append_assoc] using hs

theorem last {R' : α → List Lexeme → Prop} (hp : p.Yields R)
    (h : ∀ a ls, R a ls → R' a (taken ++ ls)) : p.Continues taken R' :=
  hp.mono h

end Continues

/-- What the parser takes is laid out as its result says, and this has a property. -/
def Takes (p : Parser α) (L : α → List Layout) (P : α → Prop) : Prop :=
  p.Yields fun a ls => Fits (L a) ls ∧ P a

namespace Takes

variable {p : Parser α} {L : α → List Layout} {P : α → Prop}

theorem select {f : Token → Option α}
    (h : ∀ t a span, f t = some a → Fits (L a) [(t, span)] ∧ P a) : (select f).Takes L P :=
  Yields.select.mono fun a _ ⟨t, span, hv, hl⟩ => hl ▸ h t a span hv

theorem token (t : Token) : (token t).Takes (fun _ => [.token t]) fun _ => True := by
  refine ⟨fun {c a next missed} hs => ?_⟩
  unfold Parser.token at hs
  split at hs
  · cases hs
  · next t' span rest hc =>
    split at hs
    · next ht =>
      cases hs
      exact ⟨[(t', span)], ⟨hc, rfl, rfl⟩, ht ▸ .token .nil, trivial⟩
    · cases hs

theorem symbol (s : Symbol) : (symbol s).Takes (fun _ => [.symbol s]) fun _ => True := token _

theorem keyword (k : Keyword) : (keyword k).Takes (fun _ => [.keyword k]) fun _ => True := token _

theorem spanned (hp : p.Takes L P) (hn : ∀ a ls, Fits (L a) ls → ls ≠ []) :
    (spanned p).Takes (fun r => [.part r.2 (L r.1)]) fun r => P r.1 :=
  (Yields.spanned hp fun a ls h => hn a ls h.1).mono fun _ _ ⟨⟨hf, hP⟩, covers⟩ =>
    ⟨.only hf covers, hP⟩

theorem many (hp : p.Takes L P) :
    (many p).Takes (fun as => as.flatMap L) fun as => ∀ a ∈ as, P a :=
  Yields.many hp ⟨.nil, by simp⟩ fun _ _ _ _ ⟨hf, hP⟩ ⟨hf', hP'⟩ =>
    ⟨hf.append hf', List.forall_mem_cons.2 ⟨hP, hP'⟩⟩

theorem optional {L' : Option α → List Layout} (hp : p.Takes L P) (hn : L' none = [])
    (hs : ∀ a, L' (some a) = L a) : (optional p).Takes L' fun o => ∀ a ∈ o, P a := by
  refine (Yields.optional hp).mono ?_
  rintro _ ls (⟨rfl, rfl⟩ | ⟨a, rfl, hf, hP⟩)
  · exact ⟨hn ▸ .nil, by simp⟩
  · exact ⟨hs a ▸ hf, by simpa using hP⟩

theorem moreItems (trailing : Bool) (hp : p.Takes L P) :
    (moreItems trailing (Parser.symbol .comma) p).Takes
      (fun as => Layout.behind (.symbol .comma) (if trailing then [.comma false] else []) (as.map L))
      fun as => ∀ a ∈ as, P a := by
  have none : Fits (if trailing then [.comma false] else []) [] := by
    cases trailing
    · exact .nil
    · exact .noComma .nil
  refine ⟨fun {c} => ?_⟩
  fun_induction Parser.moreItems trailing (Parser.symbol .comma) p c with
  | case1 | case5 =>
      intro as last missed hs
      cases hs
      exact ⟨[], .refl _, none, by simp⟩
  | case2 c _ behind missed hb e he =>
      intro as last missed' hs
      cases hs
      cases trailing with
      | false => exact ⟨[], .refl _, .nil, by simp⟩
      | true =>
          obtain ⟨ls, hl, hf, -⟩ := (symbol .comma).taken hb
          cases hf with
          | token hf =>
              cases hf
              exact ⟨_, hl, .comma .nil, by simp⟩
  | case3 c _ behind missed hb a next missed' ha _ as last missed'' hm ih =>
      intro as' last' _ hs
      cases hs
      obtain ⟨ls, hl, hf, -⟩ := (symbol .comma).taken hb
      obtain ⟨ls', hl', hf', hP⟩ := hp.taken ha
      obtain ⟨ls'', hl'', hf'', hP'⟩ := ih hm
      exact ⟨_, hl.trans (hl'.trans hl''), hf.append (hf'.append hf''),
        List.forall_mem_cons.2 ⟨hP, hP'⟩⟩
  | case4 => nofun

theorem items (trailing : Bool) (hp : p.Takes L P) :
    (items trailing (Parser.symbol .comma) p).Takes
      (fun as => Layout.row (.symbol .comma) (if trailing then [.comma false] else []) (as.map L))
      fun as => ∀ a ∈ as, P a := by
  refine ⟨fun {c as last missed} hs => ?_⟩
  unfold Parser.items at hs
  split at hs
  · cases hs
    exact ⟨[], .refl c, .nil, by simp⟩
  · next a next missed' ha =>
    split at hs
    · cases hs
    · next as' last' missed'' hm =>
      cases hs
      obtain ⟨ls, hl, hf, hP⟩ := hp.taken ha
      obtain ⟨ls', hl', hf', hP'⟩ := (moreItems trailing hp).taken hm
      exact ⟨ls ++ ls', hl.trans hl', hf.append hf', List.forall_mem_cons.2 ⟨hP, hP'⟩⟩

theorem itemsOne (trailing : Bool) (hp : p.Takes L P) :
    (itemsOne trailing (Parser.symbol .comma) p).Takes
      (fun as => Layout.row (.symbol .comma) (if trailing then [.comma false] else []) (as.map L))
      fun as => as ≠ [] ∧ ∀ a ∈ as, P a := by
  simp only [Parser.itemsOne]
  exact .bind hp fun _ _ ⟨hf, hP⟩ => .bind (moreItems trailing hp) fun _ _ ⟨hf', hP'⟩ =>
    .pure ⟨hf.append hf', by simp, List.forall_mem_cons.2 ⟨hP, hP'⟩⟩

theorem between {opener closer : Symbol} (hp : p.Takes L P) :
    (between opener closer p).Takes (fun a => .symbol opener :: L a ++ [Layout.symbol closer]) P := by
  simp only [Parser.between]
  exact .bind (symbol opener) fun _ _ ⟨ho, _⟩ => .bind hp fun _ _ ⟨hf, hP⟩ =>
    .bind (symbol closer) fun _ _ ⟨hc, _⟩ => .pure ⟨(ho.append hf).append hc, hP⟩

end Takes

theorem many_eq_cons {p : Parser α} {c last : Cursor} {a : α} {as : List α}
    {missed : Option Failure} (h : many p c = .success (a :: as) last missed) :
    ∃ next missed', p c = .success a next missed' := by
  unfold many at h
  split at h
  · cases h
  · next ha =>
    split at h
    · split at h
      · cases h
        exact ⟨_, _, ha⟩
      · cases h
    · cases h

theorem many_ne_failure (p : Parser α) (c : Cursor) (e : Failure) : many p c ≠ .failure e := by
  fun_induction many p c with
  | case1 | case2 | case4 => nofun
  | case3 _ _ _ _ _ _ _ hm ih => exact fun he => ih (hm.trans he)

/-- Tokens are taken as long as there is a value for them. -/
theorem many_select_stops {f : Token → Option α} {c last : Cursor} {as : List α}
    {missed : Option Failure} (h : many (select f) c = .success as last missed) :
    ∀ l ∈ last.rest.head?, f l.1 = none := by
  fun_induction many (select f) c generalizing as last missed with
  | case1 c e he =>
      cases h
      exact select_eq_failure he
  | case2 _ _ _ _ _ _ _ _ _ hm ih =>
      cases h
      exact ih hm
  | case3 => cases h
  | case4 c _ next _ ha hlt =>
      obtain ⟨ls, hl, t, span, -, rfl⟩ := Yields.select.taken ha
      refine absurd ?_ hlt
      simp [hl.rest]

/-- Results side by side are in a relation if any two parses in a row are. -/
theorem many_isChain {p : Parser α} {R : α → α → Prop}
    (h : ∀ {c a next missed b last missed'}, p c = .success a next missed →
      p next = .success b last missed' → R a b)
    {c last : Cursor} {as : List α} {missed : Option Failure}
    (hs : many p c = .success as last missed) : as.IsChain R := by
  fun_induction many p c generalizing as last missed with
  | case1 | case4 =>
      cases hs
      exact .nil
  | case2 c a next missed' ha _ as' last' missed'' hm ih =>
      cases hs
      cases as' with
      | nil => exact .singleton a
      | cons b bs =>
          obtain ⟨_, _, hb⟩ := many_eq_cons hm
          exact .cons_cons (h ha hb) (ih hm)
  | case3 => cases hs

end Parser

end Markup

end Template
