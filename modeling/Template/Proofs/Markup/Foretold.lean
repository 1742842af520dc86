import Template.Proofs.Markup.Reach

/-!
What a parser expects, it would take. Two parsers read tokens that are the same up to a place. Behind
the place stands for the second one only what a failure there may expect: one token, or the end. If
the first parser does not get past the place, then the second one does, or it goes the same way and
nothing of the kind was expected.
-/

namespace Template

/-- The tokens that are asked for. -/
def Expectation.asked (span : Span) : Expectation → List Lexeme
  | token t => [(t, span)]
  | endOfInput => []

namespace Markup

/-- Both cursors see the same tokens up to the place with number `k`, and there the two rests. -/
structure Cursor.Forks (k : Nat) (behind behind' : List Lexeme) (c c' : Cursor) : Prop where
  index : c'.index = c.index
  rest : ∃ shared, c.rest = shared ++ behind ∧ c'.rest = shared ++ behind' ∧
    c.index + shared.length = k

/-- The cursors stand at the place, or see the same token and fork behind it. -/
theorem Cursor.Forks.cases {k : Nat} {behind behind' : List Lexeme} {c c' : Cursor}
    (h : Forks k behind behind' c c') :
    (c.index = k ∧ c'.index = k ∧ c'.rest = behind') ∨
      ∃ l rest rest', c.index < k ∧ c.rest = l :: rest ∧ c'.rest = l :: rest' ∧
        ∀ stop stop', Forks k behind behind' ⟨c.index + 1, stop, rest⟩
          ⟨c'.index + 1, stop', rest'⟩ := by
  obtain ⟨shared, hr, hr', hk⟩ := h.rest
  cases shared with
  | nil => exact .inl ⟨hk, h.index.trans hk, hr'⟩
  | cons l shared =>
      simp only [List.length_cons] at hk
      refine .inr ⟨l, shared ++ behind, shared ++ behind', by omega, hr, hr', fun _ _ => ?_⟩
      exact ⟨congrArg (· + 1) h.index, shared, rfl, rfl, by simp only; omega⟩

/-- Nothing of the kind is expected at the place. -/
def Failure.Denies (k : Nat) (w : Expectation) (e : Failure) : Prop := e.index = k → w ∉ e.expected

theorem Failure.Denies.joins (k : Nat) (w : Expectation) : Joins (Denies k w) := by
  intro a b ha hb hk hw
  rcases mem_expected_furthest hw with ⟨hw, hi⟩ | ⟨hw, hi⟩
  · exact ha (hi.trans hk) hw
  · exact hb (hi.trans hk) hw

namespace Parser

variable {α β : Type}

/-- The second attempt gets past the place, or goes the way of the first, which expected nothing of
the kind there. -/
inductive Agree (k : Nat) (w : Expectation) (behind behind' : List Lexeme) :
    Outcome α → Outcome α → Prop where
  | past {o o' : Outcome α} (h : o'.Past k) : Agree k w behind behind' o o'
  | success {a a' : α} {next next' : Cursor} {missed missed' : Option Failure}
      (hn : Cursor.Forks k behind behind' next next') (hm : ∀ e ∈ missed, e.Denies k w) :
      Agree k w behind behind' (.success a next missed) (.success a' next' missed')
  | failure {e e' : Failure} (he : e.Denies k w) :
      Agree k w behind behind' (.failure e) (.failure e')

/-- Parsers that take something, at the place itself. -/
theorem Agree.here {k : Nat} {w : Expectation} {behind behind' : List Lexeme} {p p' : Parser α}
    {c c' : Cursor} (hi : c.index = k) (hi' : c'.index = k) (ha : Advances p) (ha' : Advances p')
    (hk : ¬(p c).Past k)
    (hd : ∀ e e', p c = .failure e → p' c' = .failure e' → e.Denies k w) :
    Agree k w behind behind' (p c) (p' c') := by
  cases hpc : p c with
  | success a next missed =>
      have taken := ha.advanced hpc
      rw [hpc, Outcome.past_success, not_or] at hk
      exact absurd (hi ▸ taken) hk.1
  | failure e =>
      cases hpc' : p' c' with
      | success a next missed => exact .past (.inl (hi' ▸ ha'.advanced hpc'))
      | failure e' => exact .failure (hd e e' hpc hpc')

/-- Where fewer than `size` tokens stand in front of the place, the second parser takes there what the
first one expects. -/
structure Foretells (size : Nat) (p p' : Parser α) : Prop where
  forward : Forward p
  forward' : Forward p'
  agree {k : Nat} {w : Expectation} {span : Span} {behind : List Lexeme} {c c' : Cursor}
    (h : Cursor.Forks k behind (w.asked span) c c') (hs : k < c.index + size)
    (hk : ¬(p c).Past k) : Agree k w behind (w.asked span) (p c) (p' c')

namespace Foretells

variable {size : Nat} {p p' q q' : Parser α} {f f' : α → Parser β}

theorem smaller {size' : Nat} (h : Foretells size p p') (hs : size' ≤ size) :
    Foretells size' p p' :=
  ⟨h.forward, h.forward', fun hf hk => h.agree hf (by omega)⟩

/-- No token stands in front of a place that lies behind. -/
theorem zero (h : Forward p) (h' : Forward p') : Foretells 0 p p' := by
  refine ⟨h, h', fun {k w span behind c c'} hf hs => ?_⟩
  obtain ⟨shared, -, -, hk⟩ := hf.rest
  omega

theorem pure (a a' : α) : Foretells size (Pure.pure a) (Pure.pure a') :=
  ⟨.pure a, .pure a', fun h _ _ => .success h nofun⟩

theorem fail : Foretells size (fail : Parser α) Parser.fail :=
  ⟨.fail, .fail, fun _ _ _ => .failure fun _ => nofun⟩

theorem select (g : Token → Option α) : Foretells size (select g) (select g) := by
  refine ⟨.select g, .select g, fun {k w span behind c c'} h _ hk => ?_⟩
  rcases h.cases with ⟨hi, hi', -⟩ | ⟨l, rest, rest', hi, hr, hr', hn⟩
  · refine .here hi hi' .select .select hk fun e e' he _ _ => ?_
    unfold Parser.select at he
    split at he
    · cases he
      exact List.not_mem_nil
    · split at he
      · cases he
      · cases he
        exact List.not_mem_nil
  · simp only [Parser.select, hr, hr']
    split
    · exact .success (hn _ _) nofun
    · exact .failure fun _ => nofun

theorem token {t : Token} (ht : t.isFixed) : Foretells size (token t) (token t) := by
  refine ⟨.token ht, .token ht, fun {k w span behind c c'} h _ hk => ?_⟩
  rcases h.cases with ⟨hi, hi', hr'⟩ | ⟨l, rest, rest', hi, hr, hr', hn⟩
  · refine .here hi hi' (.token t) (.token t) hk fun e e' he he' _ hw => ?_
    rw [token_eq_failure he, List.mem_singleton] at hw
    subst hw
    simp only [Parser.token, hr', Expectation.asked, if_true, reduceCtorEq] at he'
  · simp only [Parser.token, hr, hr']
    split
    · exact .success (hn _ _) nofun
    · exact .failure fun he => absurd he hi.ne

theorem symbol (s : Symbol) : Foretells size (symbol s) (symbol s) := token rfl

theorem keyword (k : Keyword) : Foretells size (keyword k) (keyword k) := token rfl

/-- In a sequence the second part has fewer tokens in front of the place if the first takes some. -/
theorem seq {size' : Nat} (hp : Foretells size p p')
    (hs : ∀ {c a next missed k}, p c = .success a next missed → k < c.index + size →
      k < next.index + size')
    (hf : ∀ a a', Foretells size' (f a) (f' a')) : Foretells size (p >>= f) (p' >>= f') := by
  have ahead a : Forward (f a) := (hf a a).forward
  have ahead' a : Forward (f' a) := (hf a a).forward'
  refine ⟨hp.forward.bind ahead, hp.forward'.bind ahead', fun h few hk => ?_⟩
  rw [past_bind ahead, not_or] at hk
  have first := hp.agree h few hk.1
  generalize hpc : p _ = o, hpc' : p' _ = o' at first
  cases first with
  | past h => exact .past ((past_bind ahead').2 (.inl (hpc' ▸ h)))
  | failure he =>
      change Agree _ _ _ _ (Parser.bind p f _) (Parser.bind p' f' _)
      simp only [Parser.bind, hpc, hpc']
      exact .failure he
  | @success a a' next next' missed missed' hn hm =>
      have second := (hf a a').agree hn (hs hpc few) fun h => hk.2 ⟨a, next, missed, hpc, h⟩
      generalize hfa : f a next = o, hfa' : f' a' next' = o' at second
      cases second with
      | past h => exact .past ((past_bind ahead').2 (.inr ⟨a', next', missed', hpc', hfa' ▸ h⟩))
      | failure he =>
          change Agree _ _ _ _ (Parser.bind p f _) (Parser.bind p' f' _)
          simp only [Parser.bind, hpc, hpc', hfa, hfa']
          exact .failure ((Failure.Denies.joins _ _).failed he hm)
      | success hn' hm' =>
          change Agree _ _ _ _ (Parser.bind p f _) (Parser.bind p' f' _)
          simp only [Parser.bind, hpc, hpc', hfa, hfa']
          exact .success hn' ((Failure.Denies.joins _ _).merge hm hm')

theorem bind (hp : Foretells size p p') (hf : ∀ a a', Foretells size (f a) (f' a')) :
    Foretells size (p >>= f) (p' >>= f') := by
  refine hp.seq (fun hc few => ?_) hf
  have := (hp.forward.ahead hc).index
  omega

theorem behind (hp : Foretells (size + 1) p p') (ha : Advances p)
    (hf : ∀ a a', Foretells size (f a) (f' a')) : Foretells (size + 1) (p >>= f) (p' >>= f') := by
  refine hp.seq (fun hc few => ?_) hf
  have := ha.advanced hc
  omega

theorem spanned (hp : Foretells size p p') : Foretells size (spanned p) (spanned p') := by
  refine ⟨hp.forward.spanned, hp.forward'.spanned, fun {k w span behind c c'} h few hk => ?_⟩
  have run := hp.agree h few (past_spanned.not.1 hk)
  generalize hpc : p c = o, hpc' : p' c' = o' at run
  cases run with
  | past h => exact .past (past_spanned.2 (hpc' ▸ h))
  | failure he =>
      simp only [Parser.spanned, hpc, hpc']
      exact .failure he
  | success hn hm =>
      simp only [Parser.spanned, hpc, hpc']
      exact .success hn hm

theorem labelled {r : Rule} (hp : Foretells size p p') :
    Foretells size (labelled r p) (labelled r p') := by
  refine ⟨hp.forward.labelled, hp.forward'.labelled, fun {k w span behind c c'} h few hk => ?_⟩
  have run := hp.agree h few (past_labelled.not.1 hk)
  generalize hpc : p c = o, hpc' : p' c' = o' at run
  cases run with
  | past h => exact .past (past_labelled.2 (hpc' ▸ h))
  | failure he =>
      simp only [Parser.labelled, hpc, hpc']
      exact .failure he
  | success hn hm =>
      simp only [Parser.labelled, hpc, hpc']
      refine .success hn fun e he => ?_
      obtain ⟨e', he', rfl⟩ := Option.map_eq_some_iff.1 he
      exact hm e' he'

theorem optional (hp : Foretells size p p') : Foretells size (optional p) (optional p') := by
  refine ⟨hp.forward.optional, hp.forward'.optional, fun {k w span behind c c'} h few hk => ?_⟩
  have run := hp.agree h few ((past_optional hp.forward).not.1 hk)
  generalize hpc : p c = o, hpc' : p' c' = o' at run
  cases run with
  | past h => exact .past ((past_optional hp.forward').2 (hpc' ▸ h))
  | failure he =>
      simp only [Parser.optional, hpc, hpc']
      exact .success h (by simpa using he)
  | success hn hm =>
      simp only [Parser.optional, hpc, hpc']
      exact .success hn hm

theorem orElse (hp : Foretells size p p') (hq : Foretells size q q') (hv : Covers p q)
    (hv' : Covers p' q') : Foretells size (orElse p q) (orElse p' q') := by
  refine ⟨hp.forward.orElse hq.forward, hp.forward'.orElse hq.forward',
    fun {k w span behind c c'} h few hk => ?_⟩
  have first := hp.agree h few fun h => hk (hv.past_orElse (.inl h))
  generalize hpc : p c = o, hpc' : p' c' = o' at first
  cases first with
  | past h => exact .past (hv'.past_orElse (.inl (hpc' ▸ h)))
  | success hn hm =>
      simp only [Parser.orElse, hpc, hpc']
      exact .success hn hm
  | @failure e e' he =>
      have second := hq.agree h few fun h => hk (hv.past_orElse (.inr ⟨e, hpc, h⟩))
      generalize hqc : q c = o, hqc' : q' c' = o' at second
      cases second with
      | past h => exact .past (hv'.past_orElse (.inr ⟨e', hpc', hqc' ▸ h⟩))
      | success hn hm =>
          simp only [Parser.orElse, hpc, hpc', hqc, hqc']
          exact .success hn hm
      | failure he' =>
          simp only [Parser.orElse, hpc, hpc', hqc, hqc']
          exact .failure (Failure.Denies.joins k w _ _ he he')

theorem choice {ps ps' : List (Parser α)} (h : List.Forall₂ (Foretells size) ps ps')
    (hv : ps.Pairwise Covers) (hv' : ps'.Pairwise Covers) :
    Foretells size (choice ps) (choice ps') := by
  induction h with
  | nil => exact fail
  | @cons p p' ps ps' hp hps ih =>
      obtain ⟨first, more⟩ := List.pairwise_cons.1 hv
      obtain ⟨first', more'⟩ := List.pairwise_cons.1 hv'
      cases hps with
      | nil => exact hp
      | cons => exact hp.orElse (ih more more') (.choice first) (.choice first')

theorem forwards {ps ps' : List (Parser α)} (h : List.Forall₂ (Foretells size) ps ps') :
    (∀ p ∈ ps, Forward p) ∧ ∀ p ∈ ps', Forward p := by
  induction h with
  | nil => exact ⟨nofun, nofun⟩
  | cons hp _ ih =>
      exact ⟨List.forall_mem_cons.2 ⟨hp.forward, ih.1⟩, List.forall_mem_cons.2 ⟨hp.forward', ih.2⟩⟩

/-- Alternatives that are told apart by their first tokens, but for some that cover others. -/
theorem choice_of_starts (as as' : List (Token × Parser α)) (hs : ∀ a ∈ as, Starts a.1 a.2)
    (hs' : ∀ a ∈ as', Starts a.1 a.2) (hd : as.Pairwise fun a b => a.1 ≠ b.1 ∨ Covers a.2 b.2)
    (hd' : as'.Pairwise fun a b => a.1 ≠ b.1 ∨ Covers a.2 b.2)
    (h : List.Forall₂ (Foretells size) (as.map Prod.snd) (as'.map Prod.snd)) :
    Foretells size (Parser.choice (as.map Prod.snd)) (Parser.choice (as'.map Prod.snd)) := by
  obtain ⟨forward, forward'⟩ := forwards h
  refine choice h (Covers.pairwise hs (fun a ha => ?_) hd)
    (Covers.pairwise hs' (fun a ha => ?_) hd')
  · exact forward a.2 (List.mem_map_of_mem ha)
  · exact forward' a.2 (List.mem_map_of_mem ha)

theorem many (hp : Foretells size p p') : Foretells size (many p) (many p') := by
  refine ⟨hp.forward.many, hp.forward'.many, fun {k w span behind c c'} h few hk => ?_⟩
  induction hl : c.rest.length using Nat.strong_induction_on generalizing c c' with
  | _ n ih =>
      subst hl
      have run := hp.agree h few fun h => hk (past_many hp.forward (.inl h))
      generalize hpc : p c = o, hpc' : p' c' = o' at run
      cases run with
      | past h => exact .past (past_many hp.forward' (.inl (hpc' ▸ h)))
      | failure he =>
          rw [Parser.many, Parser.many]
          simp only [hpc, hpc']
          exact .success h (by simpa using he)
      | @success a a' next next' missed missed' hn hm =>
          have ahead := hp.forward.ahead hpc
          have ahead' := hp.forward'.ahead hpc'
          have together : c'.index < next'.index ↔ c.index < next.index := by
            rw [h.index, hn.index]
          by_cases further : c.index < next.index
          · have more := ih _ (ahead.shorter_iff.2 further) hn (by omega)
              (fun h => hk (past_many hp.forward (.inr ⟨a, next, missed, hpc, further, h⟩))) rfl
            generalize hq : Parser.many p next = o, hq' : Parser.many p' next' = o' at more
            cases more with
            | past h =>
                exact .past (past_many hp.forward'
                  (.inr ⟨a', next', missed', hpc', together.2 further, hq' ▸ h⟩))
            | failure => exact absurd hq (many_ne_failure p next _)
            | success hn' hm' =>
                rw [Parser.many, Parser.many]
                simp only [hpc, hpc', hq, hq', ahead.shorter_iff, ahead'.shorter_iff, together,
                  further, if_true]
                exact .success hn' ((Failure.Denies.joins _ _).merge hm hm')
          · -- A round that takes nothing is the last one of both.
            rw [Parser.many, Parser.many]
            simp only [hpc, hpc', ahead.shorter_iff, ahead'.shorter_iff, together, further, if_false]
            exact .success h hm

theorem manyOne (hp : Foretells size p p') : Foretells size (manyOne p) (manyOne p') :=
  hp.bind fun _ _ => hp.many.bind fun _ _ => .pure _ _

theorem moreItems (trailing : Bool) (hp : Foretells size p p') :
    Foretells size (moreItems trailing (Parser.symbol .comma) p)
      (moreItems trailing (Parser.symbol .comma) p') := by
  refine ⟨hp.forward.moreItems trailing, hp.forward'.moreItems trailing,
    fun {k w span behind c c'} h few hk => ?_⟩
  induction hl : c.rest.length using Nat.strong_induction_on generalizing c c' with
  | _ n ih =>
      subst hl
      -- The comma, the item behind it, and the rest: each may be where the second list gets past.
      have comma := (symbol .comma).agree h few fun h => hk (past_moreItems hp.forward (.inl h))
      generalize hpc : Parser.symbol .comma c = o, hpc' : Parser.symbol .comma c' = o' at comma
      cases comma with
      | past h => exact .past (past_moreItems hp.forward' (.inl (hpc' ▸ h)))
      | failure he =>
          rw [Parser.moreItems, Parser.moreItems]
          simp only [hpc, hpc']
          exact .success h (by simpa using he)
      | @success _ _ next next' missed missed' hn hm =>
          have ahead := (Forward.symbol .comma).ahead hpc
          have ahead' := (Forward.symbol .comma).ahead hpc'
          have further := (Advances.token _).advanced hpc
          have further' := (Advances.token _).advanced hpc'
          have item := hp.agree hn (by omega)
            fun h => hk (past_moreItems hp.forward (.inr ⟨(), next, missed, hpc, .inl h⟩))
          generalize hq : p next = o, hq' : p' next' = o' at item
          cases item with
          | past h =>
              exact .past (past_moreItems hp.forward'
                (.inr ⟨(), next', missed', hpc', .inl (hq' ▸ h)⟩))
          | failure he =>
              have all := (Failure.Denies.joins k w).merge hm
                (by simpa using he : ∀ e' ∈ some _, Failure.Denies k w e')
              rw [Parser.moreItems, Parser.moreItems]
              simp only [hpc, hpc', hq, hq']
              cases trailing with
              | true => exact .success hn all
              | false => exact .success h all
          | @success a a' last last' missed₂ missed₂' hn' hm' =>
              have item := hp.forward.ahead hq
              have item' := hp.forward'.ahead hq'
              have shorter := (ahead.trans item).shorter_iff.2 (further.trans_le item.index)
              have shorter' := (ahead'.trans item').shorter_iff.2 (further'.trans_le item'.index)
              have more := ih _ shorter hn' (by have := item.index; omega)
                (fun h => hk (past_moreItems hp.forward
                  (.inr ⟨(), next, missed, hpc, .inr ⟨a, last, missed₂, hq, h⟩⟩))) rfl
              generalize hr : Parser.moreItems trailing (Parser.symbol .comma) p last = o,
                hr' : Parser.moreItems trailing (Parser.symbol .comma) p' last' = o' at more
              cases more with
              | past h =>
                  exact .past (past_moreItems hp.forward'
                    (.inr ⟨(), next', missed', hpc', .inr ⟨a', last', missed₂', hq', hr' ▸ h⟩⟩))
              | failure => exact absurd hr (moreItems_ne_failure trailing _ p last _)
              | success hn'' hm'' =>
                  rw [Parser.moreItems, Parser.moreItems]
                  simp only [hpc, hpc', hq, hq', hr, hr', shorter, shorter', if_true]
                  exact .success hn'' ((Failure.Denies.joins k w).merge
                    ((Failure.Denies.joins k w).merge hm hm') hm'')

theorem items (trailing : Bool) (hp : Foretells size p p') :
    Foretells size (items trailing (Parser.symbol .comma) p)
      (items trailing (Parser.symbol .comma) p') := by
  refine ⟨hp.forward.items trailing, hp.forward'.items trailing,
    fun {k w span behind c c'} h few hk => ?_⟩
  have first := hp.agree h few fun h => hk (past_items hp.forward (.inl h))
  generalize hpc : p c = o, hpc' : p' c' = o' at first
  cases first with
  | past h => exact .past (past_items hp.forward' (.inl (hpc' ▸ h)))
  | failure he =>
      simp only [Parser.items, hpc, hpc']
      exact .success h (by simpa using he)
  | @success a a' next next' missed missed' hn hm =>
      have ahead := (hp.forward.ahead hpc).index
      have more := (moreItems trailing hp).agree hn (by omega)
        fun h => hk (past_items hp.forward (.inr ⟨a, next, missed, hpc, h⟩))
      generalize hq : Parser.moreItems trailing (Parser.symbol .comma) p next = o,
        hq' : Parser.moreItems trailing (Parser.symbol .comma) p' next' = o' at more
      cases more with
      | past h => exact .past (past_items hp.forward' (.inr ⟨a', next', missed', hpc', hq' ▸ h⟩))
      | failure => exact absurd hq (moreItems_ne_failure trailing _ p next _)
      | success hn' hm' =>
          simp only [Parser.items, hpc, hpc', hq, hq']
          exact .success hn' ((Failure.Denies.joins k w).merge hm hm')

theorem itemsOne (trailing : Bool) (hp : Foretells size p p') :
    Foretells size (itemsOne trailing (Parser.symbol .comma) p)
      (itemsOne trailing (Parser.symbol .comma) p') :=
  hp.bind fun _ _ => (moreItems trailing hp).bind fun _ _ => .pure _ _

/-- What stands in brackets has a token less in front of the place. -/
theorem between (opener closer : Symbol) (hp : Foretells size p p') :
    Foretells (size + 1) (between opener closer p) (between opener closer p') :=
  (symbol opener).behind (.token _) fun _ _ => hp.bind fun _ _ =>
    (symbol closer).bind fun _ _ => .pure _ _

end Foretells

end Parser

end Markup

end Template
