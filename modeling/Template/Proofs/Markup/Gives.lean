import Template.Proofs.Markup.Yields

/-!
What parsers do with given tokens, wherever these come from: they succeed with a result and leave
the tokens behind it, or they fail.
-/

namespace Template.Markup

def Cursor.tokens (c : Cursor) : List Token := c.rest.map Prod.fst

theorem Cursor.tokens_length (c : Cursor) : c.tokens.length = c.rest.length := List.length_map ..

/-- Parts with commas between them. -/
def commaRow {β : Type} (write : β → List Token) : List β → List Token
  | [] => []
  | x :: xs => write x ++ xs.flatMap fun y => .symbol .comma :: write y

theorem commaRow_one {β : Type} (write : β → List Token) (x : β) :
    commaRow write [x] = write x := List.append_nil _

theorem commaRow_more {β : Type} (write : β → List Token) (x y : β) (ys : List β) :
    commaRow write (x :: y :: ys) = write x ++ .symbol .comma :: commaRow write (y :: ys) := rfl

namespace Parser

variable {α β γ : Type}

/-- On the input the parser succeeds with such a result and leaves the output. -/
structure Gives (p : Parser α) (input : List Token) (Q : α → Prop) (output : List Token) :
    Prop where
  given : ∀ {c : Cursor}, c.tokens = input →
    ∃ a next missed, p c = .success a next missed ∧ next.tokens = output ∧ Q a

structure Fails (p : Parser α) (input : List Token) : Prop where
  failed : ∀ {c : Cursor}, c.tokens = input → ∃ e, p c = .failure e

namespace Fails

variable {p q : Parser α} {f : α → Parser β} {ts ts' : List Token} {Q : α → Prop}

theorem bind_left (h : p.Fails ts) : (p >>= f).Fails ts := by
  refine ⟨fun {c} hc => ?_⟩
  obtain ⟨e, he⟩ := h.failed hc
  exact ⟨e, show Parser.bind p f c = _ by simp only [Parser.bind, he]⟩

theorem bind_right (hp : p.Gives ts Q ts') (hf : ∀ a, Q a → (f a).Fails ts') :
    (p >>= f).Fails ts := by
  refine ⟨fun {c} hc => ?_⟩
  obtain ⟨a, next, missed, hs, hn, ha⟩ := hp.given hc
  obtain ⟨e, he⟩ := (hf a ha).failed hn
  change ∃ e, Parser.bind p f c = _
  simp only [Parser.bind, hs, he]
  exact ⟨_, rfl⟩

theorem select {f : Token → Option α} (h : ∀ t ∈ ts.head?, f t = none) : (select f).Fails ts := by
  refine ⟨fun {c} hc => ?_⟩
  subst hc
  simp only [Parser.select]
  obtain ⟨index, stop, rest⟩ := c
  cases rest with
  | nil => exact ⟨_, rfl⟩
  | cons l rest =>
      have hl : f l.1 = none := h l.1 rfl
      simp only [hl]
      exact ⟨_, rfl⟩

theorem token {t : Token} (h : ts.head? ≠ some t) : (token t).Fails ts := by
  refine ⟨fun {c} hc => ?_⟩
  subst hc
  simp only [Parser.token]
  obtain ⟨index, stop, rest⟩ := c
  cases rest with
  | nil => exact ⟨_, rfl⟩
  | cons l rest =>
      have hl : l.1 ≠ t := fun he => h (congrArg some he)
      simp only [hl, if_false]
      exact ⟨_, rfl⟩

theorem spanned (h : p.Fails ts) : (spanned p).Fails ts := by
  refine ⟨fun {c} hc => ?_⟩
  obtain ⟨e, he⟩ := h.failed hc
  exact ⟨e, by simp only [Parser.spanned, he]⟩

theorem labelled {r : Rule} (h : p.Fails ts) : (labelled r p).Fails ts := by
  refine ⟨fun {c} hc => ?_⟩
  obtain ⟨e, he⟩ := h.failed hc
  simp only [Parser.labelled, he]
  exact ⟨_, rfl⟩

theorem orElse (hp : p.Fails ts) (hq : q.Fails ts) : (orElse p q).Fails ts := by
  refine ⟨fun {c} hc => ?_⟩
  obtain ⟨e, he⟩ := hp.failed hc
  obtain ⟨e', he'⟩ := hq.failed hc
  simp only [Parser.orElse, he, he']
  exact ⟨_, rfl⟩

theorem choice {ps : List (Parser α)} (h : ∀ p ∈ ps, p.Fails ts) : (choice ps).Fails ts := by
  fun_induction Parser.choice ps with
  | case1 => exact ⟨fun _ => ⟨_, rfl⟩⟩
  | case2 p => exact h p (by simp)
  | case3 p ps _ ih => exact orElse (h p (by simp)) (ih fun q hq => h q (List.mem_cons_of_mem p hq))

theorem between {opener closer : Symbol} (h : ts.head? ≠ some (.symbol opener)) :
    (between opener closer p).Fails ts :=
  .bind_left (.token h)

end Fails

namespace Gives

variable {p q : Parser α} {Q R : α → Prop} {S : β → Prop} {ts ts' ts'' : List Token}

theorem mono (h : p.Gives ts Q ts') (hq : ∀ a, Q a → R a) : p.Gives ts R ts' := by
  refine ⟨fun {c} hc => ?_⟩
  obtain ⟨a, next, missed, hs, hn, ha⟩ := h.given hc
  exact ⟨a, next, missed, hs, hn, hq a ha⟩

theorem pure {a : α} (h : Q a) : Gives (Pure.pure a) ts Q ts :=
  ⟨fun {c} hc => ⟨a, c, none, rfl, hc, h⟩⟩

theorem bind {f : α → Parser β} (hp : p.Gives ts Q ts') (hf : ∀ a, Q a → (f a).Gives ts' S ts'') :
    (p >>= f).Gives ts S ts'' := by
  refine ⟨fun {c} hc => ?_⟩
  obtain ⟨a, next, missed, hs, hn, ha⟩ := hp.given hc
  obtain ⟨b, last, missed', hs', hn', hb⟩ := (hf a ha).given hn
  refine ⟨b, last, Failure.merge missed missed', ?_, hn', hb⟩
  change Parser.bind p f c = _
  simp only [Parser.bind, hs, hs']

theorem select {f : Token → Option α} {t : Token} {a : α} (h : f t = some a) :
    (select f).Gives (t :: ts) (· = a) ts := by
  refine ⟨fun {c} hc => ?_⟩
  obtain ⟨index, stop, rest⟩ := c
  cases rest with
  | nil => cases hc
  | cons l rest =>
      obtain ⟨rfl, rfl⟩ := List.cons.inj hc
      refine ⟨a, ⟨index + 1, l.2.stop, rest⟩, none, ?_, rfl, rfl⟩
      simp only [Parser.select, h]

theorem token (t : Token) : (token t).Gives (t :: ts) (fun _ => True) ts := by
  refine ⟨fun {c} hc => ?_⟩
  obtain ⟨index, stop, rest⟩ := c
  cases rest with
  | nil => cases hc
  | cons l rest =>
      obtain ⟨rfl, rfl⟩ := List.cons.inj hc
      refine ⟨(), ⟨index + 1, l.2.stop, rest⟩, none, ?_, rfl, trivial⟩
      simp only [Parser.token, if_true]

theorem endOfInput : endOfInput.Gives [] (fun _ => True) [] := by
  refine ⟨fun {c} hc => ?_⟩
  obtain ⟨index, stop, rest⟩ := c
  cases rest with
  | nil => exact ⟨(), _, none, rfl, rfl, trivial⟩
  | cons l rest => cases hc

theorem spanned (h : p.Gives ts Q ts') : (spanned p).Gives ts (fun r => Q r.1) ts' := by
  refine ⟨fun {c} hc => ?_⟩
  obtain ⟨a, next, missed, hs, hn, ha⟩ := h.given hc
  simp only [Parser.spanned, hs]
  exact ⟨_, next, missed, rfl, hn, ha⟩

theorem labelled {r : Rule} (h : p.Gives ts Q ts') : (labelled r p).Gives ts Q ts' := by
  refine ⟨fun {c} hc => ?_⟩
  obtain ⟨a, next, missed, hs, hn, ha⟩ := h.given hc
  simp only [Parser.labelled, hs]
  exact ⟨a, next, _, rfl, hn, ha⟩

theorem orElse_left (h : p.Gives ts Q ts') : (orElse p q).Gives ts Q ts' := by
  refine ⟨fun {c} hc => ?_⟩
  obtain ⟨a, next, missed, hs, hn, ha⟩ := h.given hc
  exact ⟨a, next, missed, by simp only [Parser.orElse, hs], hn, ha⟩

theorem orElse_right (hp : p.Fails ts) (hq : q.Gives ts Q ts') : (orElse p q).Gives ts Q ts' := by
  refine ⟨fun {c} hc => ?_⟩
  obtain ⟨e, he⟩ := hp.failed hc
  obtain ⟨a, next, missed, hs, hn, ha⟩ := hq.given hc
  exact ⟨a, next, missed, by simp only [Parser.orElse, he, hs], hn, ha⟩

/-- The first of the parsers that does not fail. -/
theorem choice (before after : List (Parser α)) (hb : ∀ q ∈ before, q.Fails ts)
    (hp : p.Gives ts Q ts') : (choice (before ++ p :: after)).Gives ts Q ts' := by
  induction before with
  | nil =>
      cases after with
      | nil => exact hp
      | cons q after => exact orElse_left hp
  | cons q before ih =>
      obtain ⟨hq, hb⟩ := List.forall_mem_cons.1 hb
      obtain ⟨r, more, hr⟩ : ∃ r more, before ++ p :: after = r :: more := by
        cases before <;> exact ⟨_, _, rfl⟩
      have h := ih hb
      simp only [List.cons_append, hr, Parser.choice] at h ⊢
      exact orElse_right hq h

/-- The parser that is chosen by the first token, where the other ones fail. -/
theorem choice_of_head {alternatives : List ((Token → Bool) × Parser α)}
    (hf : ∀ a ∈ alternatives, ∀ ts, (∀ t ∈ ts.head?, a.1 t = false) → a.2.Fails ts)
    {a : (Token → Bool) × Parser α} {t : Token} (ha : alternatives.find? (·.1 t) = some a)
    (h : a.2.Gives (t :: ts) Q ts') :
    (Parser.choice (alternatives.map Prod.snd)).Gives (t :: ts) Q ts' := by
  obtain ⟨-, before, after, rfl, hb⟩ := List.find?_eq_some_iff_append.1 ha
  rw [List.map_append, List.map_cons]
  refine choice _ _ (fun q hq => ?_) h
  obtain ⟨b, hm, rfl⟩ := List.mem_map.1 hq
  refine hf b (List.mem_append_left _ hm) _ fun t' ht => ?_
  cases ht
  exact Bool.not_eq_true' _ ▸ hb b hm

theorem optional_some (h : p.Gives ts Q ts') :
    (optional p).Gives ts (fun o => ∃ a, o = some a ∧ Q a) ts' := by
  refine ⟨fun {c} hc => ?_⟩
  obtain ⟨a, next, missed, hs, hn, ha⟩ := h.given hc
  exact ⟨some a, next, missed, by simp only [Parser.optional, hs], hn, a, rfl, ha⟩

theorem optional_none (h : p.Fails ts) : (optional p).Gives ts (· = none) ts := by
  refine ⟨fun {c} hc => ?_⟩
  obtain ⟨e, he⟩ := h.failed hc
  exact ⟨none, c, some e, by simp only [Parser.optional, he], hc, rfl⟩

theorem many_nil (h : p.Fails ts) : (many p).Gives ts (· = []) ts := by
  refine ⟨fun {c} hc => ?_⟩
  obtain ⟨e, he⟩ := h.failed hc
  refine ⟨[], c, some e, ?_, hc, rfl⟩
  rw [Parser.many]
  simp only [he]

theorem many_cons {R : List α → Prop} (hl : ts'.length < ts.length) (h : p.Gives ts Q ts')
    (hm : (many p).Gives ts' R ts'') :
    (many p).Gives ts (fun as => ∃ a as', as = a :: as' ∧ Q a ∧ R as') ts'' := by
  refine ⟨fun {c} hc => ?_⟩
  obtain ⟨a, next, missed, hs, hn, ha⟩ := h.given hc
  obtain ⟨as, last, missed', hs', hn', has⟩ := hm.given hn
  rw [← hc, ← hn, Cursor.tokens_length, Cursor.tokens_length] at hl
  refine ⟨a :: as, last, Failure.merge missed missed', ?_, hn', a, as, rfl, ha, has⟩
  rw [Parser.many]
  simp only [hs, hl, if_true, hs']

variable {xs : List β} {write : β → List Token} {erase : α → γ} {want : β → γ}

/-- Parts one after the other, where each may be followed by the next and the last by the rest. -/
theorem many (Follow : List Token → Prop)
    (hp : ∀ x ∈ xs, ∀ ts, Follow ts → p.Gives (write x ++ ts) (erase · = want x) ts)
    (hn : ∀ x ∈ xs, write x ≠ []) (hx : ∀ x ∈ xs, ∀ ts, Follow (write x ++ ts)) (hr : Follow ts)
    (hf : p.Fails ts) :
    (many p).Gives (xs.flatMap write ++ ts) (fun as => as.map erase = xs.map want) ts := by
  induction xs with
  | nil => exact (many_nil hf).mono fun as h => by rw [h]; rfl
  | cons x xs ih =>
      obtain ⟨hp, hps⟩ := List.forall_mem_cons.1 hp
      obtain ⟨hn, hns⟩ := List.forall_mem_cons.1 hn
      obtain ⟨hx, hxs⟩ := List.forall_mem_cons.1 hx
      have follow : Follow (xs.flatMap write ++ ts) := by
        cases xs with
        | nil => exact hr
        | cons y ys =>
            rw [List.flatMap_cons, List.append_assoc]
            exact hxs y (by simp) _
      rw [List.flatMap_cons, List.append_assoc]
      refine (many_cons ?_ (hp _ follow) (ih hps hns hxs)).mono ?_
      · have := List.length_pos_iff.2 hn
        simp only [List.length_append]
        omega
      · rintro as ⟨a, as', rfl, ha, has⟩
        rw [List.map_cons, List.map_cons, ha, has]

theorem between {opener closer : Symbol} (h : p.Gives ts Q (.symbol closer :: ts')) :
    (between opener closer p).Gives (.symbol opener :: ts) Q ts' :=
  .bind (token _) fun _ _ => .bind h fun _ ha => .bind (token _) fun _ _ => .pure ha

private theorem follow_more {Follow : List Token → Prop}
    (hcomma : ∀ ts, Follow (.symbol .comma :: ts)) (hr : Follow ts) :
    Follow (xs.flatMap (fun x => .symbol .comma :: write x) ++ ts) := by
  cases xs with
  | nil => exact hr
  | cons y ys => exact hcomma _

/-- Further parts, each behind a comma. -/
theorem moreItems (trailing : Bool) (Follow : List Token → Prop)
    (hp : ∀ x ∈ xs, ∀ ts, Follow ts → p.Gives (write x ++ ts) (erase · = want x) ts)
    (hcomma : ∀ ts, Follow (.symbol .comma :: ts)) (hr : Follow ts)
    (hf : ts.head? ≠ some (.symbol .comma)) :
    (moreItems trailing (Parser.symbol .comma) p).Gives
      (xs.flatMap (fun x => .symbol .comma :: write x) ++ ts)
      (fun as => as.map erase = xs.map want) ts := by
  induction xs with
  | nil =>
      refine ⟨fun {c} hc => ?_⟩
      obtain ⟨e, he⟩ := (Fails.token hf).failed hc
      refine ⟨[], c, some e, ?_, hc, rfl⟩
      rw [Parser.moreItems]
      simp only [show Parser.symbol .comma c = .failure e from he]
  | cons x xs ih =>
      obtain ⟨hp, hps⟩ := List.forall_mem_cons.1 hp
      refine ⟨fun {c} hc => ?_⟩
      rw [List.flatMap_cons, List.append_assoc] at hc
      obtain ⟨_, behind, missed, hs, hn, -⟩ := (token (.symbol .comma)).given hc
      obtain ⟨a, next, missed', hs', hn', ha⟩ := (hp _ (follow_more hcomma hr)).given hn
      obtain ⟨as, last, missed'', hs'', hn'', has⟩ := (ih hps).given hn'
      have hl : next.rest.length < c.rest.length := by
        rw [← Cursor.tokens_length, ← Cursor.tokens_length, hc, hn']
        simp only [List.length_append, List.length_cons]
        omega
      refine ⟨a :: as, last, Failure.merge (Failure.merge missed missed') missed'', ?_, hn'', ?_⟩
      · rw [Parser.moreItems]
        simp only [show Parser.symbol .comma c = .success _ behind missed from hs, hs', hl, if_true,
          hs'']
      · rw [List.map_cons, List.map_cons, ha, has]

theorem items {trailing : Bool} (Follow : List Token → Prop)
    (hp : ∀ x ∈ xs, ∀ ts, Follow ts → p.Gives (write x ++ ts) (erase · = want x) ts)
    (hcomma : ∀ ts, Follow (.symbol .comma :: ts)) (hr : Follow ts)
    (hf : ts.head? ≠ some (.symbol .comma)) (he : p.Fails ts) :
    (items trailing (Parser.symbol .comma) p).Gives (commaRow write xs ++ ts)
      (fun as => as.map erase = xs.map want) ts := by
  cases xs with
  | nil =>
      refine ⟨fun {c} hc => ?_⟩
      obtain ⟨e, he⟩ := he.failed hc
      exact ⟨[], c, some e, by simp only [Parser.items, he], hc, rfl⟩
  | cons x xs =>
      obtain ⟨hp, hps⟩ := List.forall_mem_cons.1 hp
      refine ⟨fun {c} hc => ?_⟩
      rw [commaRow, List.append_assoc] at hc
      obtain ⟨a, next, missed, hs, hn, ha⟩ := (hp _ (follow_more hcomma hr)).given hc
      obtain ⟨as, last, missed', hs', hn', has⟩ :=
        (moreItems trailing Follow hps hcomma hr hf).given hn
      refine ⟨a :: as, last, Failure.merge missed missed', ?_, hn', ?_⟩
      · simp only [Parser.items, hs, hs']
      · rw [List.map_cons, List.map_cons, ha, has]

theorem itemsOne {trailing : Bool} (Follow : List Token → Prop) (hn : xs ≠ [])
    (hp : ∀ x ∈ xs, ∀ ts, Follow ts → p.Gives (write x ++ ts) (erase · = want x) ts)
    (hcomma : ∀ ts, Follow (.symbol .comma :: ts)) (hr : Follow ts)
    (hf : ts.head? ≠ some (.symbol .comma)) :
    (itemsOne trailing (Parser.symbol .comma) p).Gives (commaRow write xs ++ ts)
      (fun as => as.map erase = xs.map want) ts := by
  obtain ⟨x, xs, rfl⟩ := List.exists_cons_of_ne_nil hn
  obtain ⟨hp, hps⟩ := List.forall_mem_cons.1 hp
  rw [commaRow, List.append_assoc]
  refine .bind (hp _ (follow_more hcomma hr)) fun a ha =>
    .bind (moreItems trailing Follow hps hcomma hr hf) fun as has => .pure ?_
  rw [List.map_cons, List.map_cons, ha, has]

end Gives

end Parser

end Template.Markup
