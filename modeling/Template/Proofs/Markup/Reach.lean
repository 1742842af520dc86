import Mathlib.Data.List.Nodup
import Template.Proofs.Markup.Yields

/-!
How far attempts get. A parser that starts somewhere fails there or further on, never behind the last
token, and all it expects are tokens of fixed spelling. What was reached on the way shows in the
outcome: in the place where the parser stops, or in the failures it gave up.
-/

namespace Template

namespace Token

/-- Tokens that are told by their spelling: symbols and words with a meaning. -/
def isFixed : Token → Bool
  | directive _ | symbol _ | reserved _ => true
  | _ => false

/-- All tokens of fixed spelling. -/
def fixed : List Token :=
  Keyword.all.map directive ++
  [.plus, .minus, .star, .slash, .percent, .equal, .notEqual, .less, .lessEqual, .greater,
    .greaterEqual, .conj, .disj, .bang, .assign, .question, .colon, .dots, .dot, .comma,
    .openParen, .closeParen, .openBracket, .closeBracket, .openBrace, .closeBrace].map symbol ++
  [.yes, .no, .null, .inside].map reserved

theorem mem_fixed {t : Token} (h : t.isFixed) : t ∈ fixed := by
  unfold isFixed at h
  split at h
  · next k => cases k <;> decide
  · next s => cases s <;> decide
  · next w => cases w <;> decide
  · cases h

/-- No two of them are spelled alike. -/
theorem eq_of_describe_eq {t u : Token} (ht : t.isFixed) (hu : u.isFixed)
    (h : t.describe = u.describe) : t = u :=
  List.inj_on_of_nodup_map (by decide : (fixed.map describe).Nodup) (mem_fixed ht) (mem_fixed hu) h

/-- The end of the input is spelled like none of them. -/
theorem describe_ne_endOfInput {t : Token} (h : t.isFixed) : t.describe ≠ "end of input" := by
  have apart : ∀ t ∈ fixed, t.describe ≠ "end of input" := by decide
  exact apart t (mem_fixed h)

/-- The token without what it holds. Literals, and the pieces of text, are of one kind. -/
def kind : Token → Token
  | text _ | newline | escaped _ => newline
  | unparsed _ => unparsed ""
  | macroCall _ => macroCall ""
  | reference _ _ => reference "" false
  | formal _ => formal false
  | str _ | number _ | reserved .yes | reserved .no | reserved .null => str ""
  | t => t

end Token

namespace Markup

/-- The cursor has moved on in the same tokens. -/
structure Cursor.Ahead (c next : Cursor) : Prop where
  index : c.index ≤ next.index
  total : next.index + next.rest.length = c.index + c.rest.length

namespace Cursor.Ahead

variable {c next last : Cursor}

theorem refl (c : Cursor) : c.Ahead c := ⟨Nat.le_refl _, rfl⟩

theorem trans (h : c.Ahead next) (h' : next.Ahead last) : c.Ahead last :=
  ⟨h.index.trans h'.index, h'.total.trans h.total⟩

/-- The place has moved exactly if there are fewer tokens left. -/
theorem shorter_iff (h : c.Ahead next) : next.rest.length < c.rest.length ↔ c.index < next.index := by
  have := h.total
  omega

end Cursor.Ahead

namespace Failure

variable {P : Failure → Prop} {k : Nat} {w : Expectation}

theorem index_furthest (a b : Failure) : (a.furthest b).index = max a.index b.index := by
  unfold furthest
  split
  · next hab => exact (Nat.max_eq_right hab.le).symm
  · next hab =>
    split
    · exact (Nat.max_eq_left (Nat.not_lt.1 hab)).symm
    · exact (Nat.max_eq_left (Nat.not_lt.1 hab)).symm

/-- What the further of two failures expects, one of the two expects at that place. -/
theorem mem_expected_furthest {a b : Failure} (h : w ∈ (a.furthest b).expected) :
    (w ∈ a.expected ∧ a.index = (a.furthest b).index) ∨
      (w ∈ b.expected ∧ b.index = (a.furthest b).index) := by
  unfold furthest at h ⊢
  split at h
  · next hab => exact .inr ⟨h, by rw [if_pos hab]⟩
  · next hab =>
    split at h
    · next hba => exact .inl ⟨h, by rw [if_neg hab, if_pos hba]⟩
    · next hba =>
      rw [if_neg hab, if_neg hba]
      rcases List.mem_append.1 h with h | h
      · exact .inl ⟨h, rfl⟩
      · exact .inr ⟨List.mem_of_mem_filter h, by simp only; omega⟩

theorem mem_expected_failed {e : Failure} {m : Option Failure}
    (h : w ∈ ((merge (some e) m).getD e).expected) :
    (w ∈ e.expected ∧ e.index = ((merge (some e) m).getD e).index) ∨
      ∃ a ∈ m, w ∈ a.expected ∧ a.index = ((merge (some e) m).getD e).index := by
  cases m with
  | none => exact .inl ⟨h, rfl⟩
  | some a => exact (mem_expected_furthest h).imp_right fun h => ⟨a, rfl, h⟩

/-- A property of failures that holds of the further one if it holds of both. -/
def Joins (P : Failure → Prop) : Prop := ∀ a b, P a → P b → P (a.furthest b)

theorem Joins.merge (hP : Joins P) {m m' : Option Failure} (h : ∀ e ∈ m, P e)
    (h' : ∀ e ∈ m', P e) : ∀ e ∈ Failure.merge m m', P e := by
  cases m with
  | none => exact h'
  | some a =>
      cases m' with
      | none => exact h
      | some b =>
          rintro _ ⟨⟩
          exact hP a b (h a rfl) (h' b rfl)

theorem Joins.failed (hP : Joins P) {e : Failure} {m : Option Failure} (he : P e)
    (hm : ∀ e ∈ m, P e) : P ((Failure.merge (some e) m).getD e) := by
  cases m with
  | none => exact he
  | some a => exact hP e a he (hm a rfl)

/-- The failure lies at one of the tokens that are left or at their end, and expects tokens of fixed
spelling. -/
structure Within (c : Cursor) (e : Failure) : Prop where
  start : c.index ≤ e.index
  stop : e.index ≤ c.index + c.rest.length
  fixed : ∀ w ∈ e.expected, ∃ t : Token, w = .token t ∧ t.isFixed

theorem Within.joins (c : Cursor) : Joins (Within c) := by
  intro a b ha hb
  refine ⟨?_, ?_, fun w hw => ?_⟩
  · rw [index_furthest]
    exact ha.start.trans (Nat.le_max_left _ _)
  · rw [index_furthest]
    exact Nat.max_le.2 ⟨ha.stop, hb.stop⟩
  · rcases mem_expected_furthest hw with ⟨hw, -⟩ | ⟨hw, -⟩
    · exact ha.fixed w hw
    · exact hb.fixed w hw

theorem Within.back {c next : Cursor} {e : Failure} (h : e.Within next) (hc : c.Ahead next) :
    e.Within c :=
  ⟨hc.index.trans h.start, hc.total ▸ h.stop, h.fixed⟩

/-- One of the failures given up lies behind the place. -/
def Beyond (k : Nat) (missed : Option Failure) : Prop := ∃ e ∈ missed, k < e.index

@[simp]
theorem beyond_none : ¬Beyond k none := nofun

@[simp]
theorem beyond_some {e : Failure} : Beyond k (some e) ↔ k < e.index := by simp [Beyond]

@[simp]
theorem beyond_merge {m m' : Option Failure} :
    Beyond k (merge m m') ↔ Beyond k m ∨ Beyond k m' := by
  cases m with
  | none => simp [merge]
  | some a =>
      cases m' with
      | none => simp [merge]
      | some b =>
          simp only [merge, beyond_some, index_furthest]
          omega

@[simp]
theorem beyond_takenBy {r : Rule} {m : Option Failure} :
    Beyond k (m.map (takenBy r)) ↔ Beyond k m := by
  cases m <;> simp [takenBy]

theorem lt_index_failed {e : Failure} {m : Option Failure} :
    k < ((merge (some e) m).getD e).index ↔ k < e.index ∨ Beyond k m := by
  cases m with
  | none => simp [merge]
  | some a =>
      simp only [merge, Option.getD_some, beyond_some, index_furthest]
      omega

end Failure

namespace Outcome

variable {α : Type} {k : Nat}

/-- The outcome of an attempt that starts at the cursor. -/
def From (c : Cursor) : Outcome α → Prop
  | .success _ next missed => c.Ahead next ∧ ∀ e ∈ missed, e.Within c
  | .failure e => e.Within c

/-- The attempt has got past the token with number `k`: it has taken it, or tried what follows. -/
def Past (k : Nat) : Outcome α → Prop
  | .success _ next missed => k < next.index ∨ Failure.Beyond k missed
  | .failure e => k < e.index

@[simp]
theorem past_success {a : α} {next : Cursor} {missed : Option Failure} :
    (Outcome.success a next missed).Past k ↔ k < next.index ∨ Failure.Beyond k missed := Iff.rfl

@[simp]
theorem past_failure {e : Failure} : (Outcome.failure (α := α) e).Past k ↔ k < e.index := Iff.rfl

end Outcome

namespace Parser

variable {α β : Type} {k : Nat} {p q : Parser α} {f : α → Parser β} {c : Cursor}

theorem moreItems_ne_failure (trailing : Bool) (separator : Parser Unit) (p : Parser α)
    (c : Cursor) (e : Failure) : moreItems trailing separator p c ≠ .failure e := by
  fun_induction moreItems trailing separator p c with
  | case4 _ _ _ _ _ _ _ _ _ _ _ hm ih => exact fun he => ih (hm.trans he)
  | _ =>
      intro he
      cases he

theorem token_eq_failure {t : Token} {c : Cursor} {e : Failure} (h : token t c = .failure e) :
    e = ⟨c.index, [.token t], .nobody⟩ := by
  unfold token at h
  split at h
  · cases h
    rfl
  · split at h
    · cases h
    · cases h
      rfl

theorem exists_of_token_eq_success {t : Token} {c next : Cursor} {missed : Option Failure}
    (h : token t c = .success () next missed) : ∃ l ∈ c.rest.head?, l.1 = t := by
  unfold token at h
  split at h
  · cases h
  · next t' span rest hr =>
    split at h
    · next ht => exact ⟨(t', span), by simp [hr], ht⟩
    · cases h

/-- The parser looks only ahead. -/
structure Forward (p : Parser α) : Prop where
  runs (c : Cursor) : (p c).From c

/-- A success has taken something. -/
structure Advances (p : Parser α) : Prop where
  advanced {c next : Cursor} {a : α} {missed : Option Failure}
    (hp : p c = .success a next missed) : c.index < next.index

namespace Forward

variable {a : α} {next : Cursor} {missed : Option Failure} {e : Failure}

theorem success (h : Forward p) (hp : p c = .success a next missed) :
    c.Ahead next ∧ ∀ e ∈ missed, e.Within c := by
  have run := h.runs c
  rwa [hp] at run

theorem ahead (h : Forward p) (hp : p c = .success a next missed) : c.Ahead next :=
  (h.success hp).1

theorem failed (h : Forward p) (hp : p c = .failure e) : e.Within c := by
  have run := h.runs c
  rwa [hp] at run

theorem pure (a : α) : Forward (Pure.pure a) := ⟨fun c => ⟨.refl c, nofun⟩⟩

theorem bind (hp : Forward p) (hf : ∀ a, Forward (f a)) : Forward (p >>= f) := by
  refine ⟨fun c => ?_⟩
  change Outcome.From c (Parser.bind p f c)
  unfold Parser.bind
  cases hpc : p c with
  | failure e => exact hp.failed hpc
  | success a next missed =>
      obtain ⟨ahead, hm⟩ := hp.success hpc
      simp only
      cases hfa : f a next with
      | failure e => exact (Failure.Within.joins c).failed (((hf a).failed hfa).back ahead) hm
      | success b last missed' =>
          obtain ⟨ahead', hm'⟩ := (hf a).success hfa
          exact ⟨ahead.trans ahead', (Failure.Within.joins c).merge hm
            fun e he => (hm' e he).back ahead⟩

theorem fail : Forward (fail : Parser α) :=
  ⟨fun _ => ⟨Nat.le_refl _, Nat.le_add_right _ _, nofun⟩⟩

theorem select (g : Token → Option α) : Forward (select g) := by
  refine ⟨fun c => ?_⟩
  have here : Failure.Within c ⟨c.index, [], .nobody⟩ :=
    ⟨Nat.le_refl _, Nat.le_add_right _ _, nofun⟩
  unfold Parser.select
  split
  · exact here
  · next t span rest hc =>
    split
    · exact ⟨⟨Nat.le_succ _, by simp only [hc, List.length_cons]; omega⟩, nofun⟩
    · exact here

theorem token {t : Token} (ht : t.isFixed) : Forward (token t) := by
  refine ⟨fun c => ?_⟩
  have here : Failure.Within c ⟨c.index, [.token t], .nobody⟩ :=
    ⟨Nat.le_refl _, Nat.le_add_right _ _, fun w hw => ⟨t, List.mem_singleton.1 hw, ht⟩⟩
  unfold Parser.token
  split
  · exact here
  · next t' span rest hc =>
    split
    · exact ⟨⟨Nat.le_succ _, by simp only [hc, List.length_cons]; omega⟩, nofun⟩
    · exact here

theorem symbol (s : Symbol) : Forward (symbol s) := token rfl

theorem spanned (hp : Forward p) : Forward (spanned p) := by
  refine ⟨fun c => ?_⟩
  unfold Parser.spanned
  cases hpc : p c with
  | success a next missed => exact hp.success hpc
  | failure e => exact hp.failed hpc

theorem labelled {r : Rule} (hp : Forward p) : Forward (labelled r p) := by
  have taken {c : Cursor} {e : Failure} (h : e.Within c) : (e.takenBy r).Within c :=
    ⟨h.start, h.stop, h.fixed⟩
  refine ⟨fun c => ?_⟩
  unfold Parser.labelled
  cases hpc : p c with
  | success a next missed =>
      refine ⟨hp.ahead hpc, fun e he => ?_⟩
      obtain ⟨e', he', rfl⟩ := Option.map_eq_some_iff.1 he
      exact taken ((hp.success hpc).2 e' he')
  | failure e => exact taken (hp.failed hpc)

theorem orElse (hp : Forward p) (hq : Forward q) : Forward (orElse p q) := by
  refine ⟨fun c => ?_⟩
  unfold Parser.orElse
  cases hpc : p c with
  | success a next missed => exact hp.success hpc
  | failure e =>
      simp only
      cases hqc : q c with
      | success a next missed => exact hq.success hqc
      | failure e' => exact Failure.Within.joins c _ _ (hp.failed hpc) (hq.failed hqc)

theorem optional (hp : Forward p) : Forward (optional p) := by
  refine ⟨fun c => ?_⟩
  unfold Parser.optional
  cases hpc : p c with
  | success a next missed => exact hp.success hpc
  | failure e => exact ⟨.refl c, by simpa using hp.failed hpc⟩

theorem many (hp : Forward p) : Forward (many p) := by
  refine ⟨fun c => ?_⟩
  fun_induction Parser.many p c with
  | case1 c e he => exact ⟨.refl c, by simpa using hp.failed he⟩
  | case2 c a next missed ha _ as last missed' hm ih =>
      obtain ⟨ahead, first⟩ := hp.success ha
      rw [hm] at ih
      exact ⟨ahead.trans ih.1, (Failure.Within.joins c).merge first
        fun e he => (ih.2 e he).back ahead⟩
  | case3 c a next missed ha _ e hm => exact absurd hm (many_ne_failure p next e)
  | case4 c a next missed ha _ => exact ⟨.refl c, (hp.success ha).2⟩

theorem moreItems (trailing : Bool) (hp : Forward p) :
    Forward (moreItems trailing (Parser.symbol .comma) p) := by
  refine ⟨fun c => ?_⟩
  fun_induction Parser.moreItems trailing (Parser.symbol .comma) p c with
  | case1 c e he => exact ⟨.refl c, by simpa using (symbol .comma).failed he⟩
  | case2 c _ behind missed hb e he =>
      obtain ⟨ahead, first⟩ := (symbol .comma).success hb
      have item : ∀ e' ∈ some e, e'.Within c := by simpa using (hp.failed he).back ahead
      refine ⟨?_, (Failure.Within.joins c).merge first item⟩
      cases trailing with
      | true => exact ahead
      | false => exact .refl c
  | case3 c _ behind missed hb a next missed' ha _ as last missed'' hm ih =>
      obtain ⟨ahead, first⟩ := (symbol .comma).success hb
      obtain ⟨ahead', second⟩ := hp.success ha
      rw [hm] at ih
      refine ⟨(ahead.trans ahead').trans ih.1, ?_⟩
      refine (Failure.Within.joins c).merge ((Failure.Within.joins c).merge first ?_) ?_
      · exact fun e he => (second e he).back ahead
      · exact fun e he => (ih.2 e he).back (ahead.trans ahead')
  | case4 c _ behind missed hb a next missed' ha _ e hm =>
      exact absurd hm (moreItems_ne_failure trailing _ p next e)
  | case5 c _ behind missed hb => exact ⟨.refl c, ((symbol .comma).success hb).2⟩

theorem items (trailing : Bool) (hp : Forward p) :
    Forward (items trailing (Parser.symbol .comma) p) := by
  refine ⟨fun c => ?_⟩
  unfold Parser.items
  cases hpc : p c with
  | failure e => exact ⟨.refl c, by simpa using hp.failed hpc⟩
  | success a next missed =>
      obtain ⟨ahead, first⟩ := hp.success hpc
      simp only
      cases hm : Parser.moreItems trailing (Parser.symbol .comma) p next with
      | failure e => exact absurd hm (moreItems_ne_failure trailing _ p next e)
      | success as last missed' =>
          obtain ⟨ahead', second⟩ := (moreItems trailing hp).success hm
          exact ⟨ahead.trans ahead', (Failure.Within.joins c).merge first
            fun e he => (second e he).back ahead⟩

end Forward

namespace Advances

theorem select {g : Token → Option α} : Advances (select g) := by
  refine ⟨fun {c next a missed} hp => ?_⟩
  obtain ⟨ls, hl, t, span, -, rfl⟩ := Yields.select.taken hp
  rw [hl.index]
  exact Nat.lt_succ_self _

theorem token (t : Token) : Advances (token t) := by
  refine ⟨fun {c next a missed} hp => ?_⟩
  obtain ⟨ls, hl, fits, -⟩ := (Takes.token t).taken hp
  have := List.length_pos_iff.2 fits.token_ne_nil
  rw [hl.index]
  omega

theorem spanned (hp : Advances p) : Advances (spanned p) :=
  ⟨fun h => hp.advanced (spanned_eq_success h)⟩

theorem bind (hp : Advances p) (hf : ∀ a, Forward (f a)) : Advances (p >>= f) := by
  refine ⟨fun {c last b missed} hs => ?_⟩
  obtain ⟨a, next, _, _, ha, hb⟩ := bind_eq_success hs
  exact (hp.advanced ha).trans_le ((hf a).ahead hb).index

end Advances

section Past

variable {a : α} {next : Cursor} {missed : Option Failure} {e : Failure}

/-- A failure given up at the place where the attempt started adds nothing. -/
theorem past_nothing (he : c.index ≤ e.index) (a : α) :
    (Outcome.success a c (some e)).Past k ↔ k < e.index := by
  simp only [Outcome.past_success, Failure.beyond_some]
  omega

/-- What follows a success is not reached by a failure. -/
theorem past_of_failure (hp : Forward p) (hpc : p c = .failure e) (b : β)
    {R : α → Cursor → Option Failure → Prop} (h : (p c).Past k ∨
      ∃ a next missed, p c = .success a next missed ∧ R a next missed) :
    (Outcome.success b c (some e)).Past k := by
  rcases h with h | ⟨_, _, _, he, -⟩
  · rw [hpc] at h
    exact (past_nothing (hp.failed hpc).start b).2 h
  · cases hpc.symm.trans he

theorem past_spanned : (spanned p c).Past k ↔ (p c).Past k := by
  unfold spanned
  cases p c <;> rfl

theorem past_labelled {r : Rule} : (labelled r p c).Past k ↔ (p c).Past k := by
  unfold labelled
  cases p c with
  | failure e => rfl
  | success a next missed => simp

theorem past_optional (hp : Forward p) : (optional p c).Past k ↔ (p c).Past k := by
  unfold optional
  cases hpc : p c with
  | success a next missed => rfl
  | failure e => exact past_nothing (hp.failed hpc).start _

/-- A sequence gets past a token if its first part does or the part that runs behind it. -/
theorem past_bind (hf : ∀ a, Forward (f a)) :
    ((p >>= f) c).Past k ↔ (p c).Past k ∨
      ∃ a next missed, p c = .success a next missed ∧ (f a next).Past k := by
  change (Parser.bind p f c).Past k ↔ _
  unfold Parser.bind
  cases hpc : p c with
  | failure e => simp
  | success a next missed =>
      simp only [Outcome.success.injEq, Outcome.past_success]
      cases hfa : f a next with
      | failure e =>
          have := ((hf a).failed hfa).start
          simp only [Outcome.past_failure, Failure.lt_index_failed]
          refine ⟨fun h => ?_, ?_⟩
          · rcases h with h | h
            · exact .inr ⟨a, next, missed, ⟨rfl, rfl, rfl⟩, by simpa [hfa] using h⟩
            · exact .inl (.inr h)
          · rintro ((h | h) | ⟨_, _, _, ⟨rfl, rfl, rfl⟩, h⟩)
            · exact .inl (h.trans_le this)
            · exact .inr h
            · exact .inl (by simpa [hfa] using h)
      | success b last missed' =>
          have := ((hf a).ahead hfa).index
          simp only [Outcome.past_success, Failure.beyond_merge]
          refine ⟨fun h => ?_, ?_⟩
          · rcases h with h | h | h
            · exact .inr ⟨a, next, missed, ⟨rfl, rfl, rfl⟩, by simp [hfa, h]⟩
            · exact .inl (.inr h)
            · exact .inr ⟨a, next, missed, ⟨rfl, rfl, rfl⟩, by simp [hfa, h]⟩
          · rintro ((h | h) | ⟨_, _, _, ⟨rfl, rfl, rfl⟩, h⟩)
            · exact .inl (h.trans_le this)
            · exact .inr (.inl h)
            · rw [hfa, Outcome.past_success] at h
              exact h.imp_right .inr

/-- A result that is only rewritten was got as far. -/
theorem past_bind_pure (g : α → β) :
    ((p >>= fun a => Pure.pure (g a)) c).Past k ↔ (p c).Past k := by
  change (Parser.bind p (fun a => Parser.pure (g a)) c).Past k ↔ _
  unfold Parser.bind
  cases p c with
  | failure e => rfl
  | success a next missed => simp [Parser.pure]

/-- What stands in brackets is read behind the bracket that opens. -/
theorem past_between {opener closer : Symbol} (hp : Forward p) :
    (between opener closer p c).Past k ↔ (symbol opener c).Past k ∨
      ∃ next missed, symbol opener c = .success () next missed ∧ ((p next).Past k ∨
        ∃ a last missed', p next = .success a last missed' ∧ (symbol closer last).Past k) := by
  have closes (a : α) : Forward (do symbol closer; return a) :=
    .bind (.symbol closer) fun _ => .pure a
  unfold between
  rw [past_bind fun _ => hp.bind closes]
  refine or_congr_right ⟨?_, ?_⟩
  · rintro ⟨_, next, missed, ho, h⟩
    refine ⟨next, missed, ho, ((past_bind closes).1 h).imp_right ?_⟩
    rintro ⟨a, last, missed', ha, h⟩
    exact ⟨a, last, missed', ha, (past_bind_pure fun _ => a).1 h⟩
  · rintro ⟨next, missed, ho, h⟩
    refine ⟨(), next, missed, ho, (past_bind closes).2 (h.imp_right ?_)⟩
    rintro ⟨a, last, missed', ha, h⟩
    exact ⟨a, last, missed', ha, (past_bind_pure fun _ => a).2 h⟩

/-- Repetition gets past a token if one of its rounds does. -/
theorem past_many (hp : Forward p) (h : (p c).Past k ∨ ∃ a next missed,
    p c = .success a next missed ∧ c.index < next.index ∧ (many p next).Past k) :
    (many p c).Past k := by
  rw [many]
  cases hpc : p c with
  | failure e => exact past_of_failure hp hpc _ h
  | success a next missed =>
      have ahead := hp.ahead hpc
      simp only [ahead.shorter_iff]
      split
      · next further =>
        cases hm : many p next with
        | failure e => exact absurd hm (many_ne_failure p next e)
        | success as last missed' =>
            have := (hp.many.ahead hm).index
            simp only [Outcome.past_success, Failure.beyond_merge]
            rcases h with h | ⟨_, _, _, he, -, h⟩
            · rw [hpc, Outcome.past_success] at h
              exact h.imp (·.trans_le this) .inl
            · cases hpc.symm.trans he
              rw [hm, Outcome.past_success] at h
              exact h.imp_right .inr
      · next stuck =>
        rcases h with h | ⟨_, _, _, he, further, -⟩
        · rw [hpc, Outcome.past_success] at h
          have same : next.index = c.index := by
            have := ahead.index
            omega
          rwa [Outcome.past_success, ← same]
        · cases hpc.symm.trans he
          exact absurd further stuck

theorem past_moreItems {trailing : Bool} (hp : Forward p)
    (h : (symbol .comma c).Past k ∨ ∃ u behind missed, symbol .comma c = .success u behind missed ∧
      ((p behind).Past k ∨ ∃ a next missed', p behind = .success a next missed' ∧
        (moreItems trailing (symbol .comma) p next).Past k)) :
    (moreItems trailing (symbol .comma) p c).Past k := by
  rw [moreItems]
  cases hb : symbol .comma c with
  | failure e => exact past_of_failure (.symbol .comma) hb _ h
  | success u behind missed =>
      have comma := (Forward.symbol .comma).ahead hb
      have taken := (Advances.token _).advanced hb
      simp only [hb, Outcome.past_success, Outcome.success.injEq] at h ⊢
      cases hpb : p behind with
      | failure e =>
          have := (hp.failed hpb).start
          simp only [Outcome.past_success, Failure.beyond_merge, Failure.beyond_some]
          refine .inr ?_
          rcases h with (h | h) | ⟨_, _, _, ⟨-, rfl, rfl⟩, h | ⟨_, _, _, he, -⟩⟩
          · exact .inr (h.trans_le this)
          · exact .inl h
          · rw [hpb] at h
            exact .inr h
          · cases hpb.symm.trans he
      | success a next missed' =>
          have ahead := hp.ahead hpb
          have further : next.rest.length < c.rest.length :=
            (comma.trans ahead).shorter_iff.2 (taken.trans_le ahead.index)
          simp only [further, if_true]
          cases hm : moreItems trailing (symbol .comma) p next with
          | failure e => exact absurd hm (moreItems_ne_failure trailing _ p next e)
          | success as last missed'' =>
              have := ((hp.moreItems trailing).ahead hm).index
              simp only [Outcome.past_success, Failure.beyond_merge]
              rcases h with (h | h) | ⟨_, _, _, ⟨-, rfl, rfl⟩, h | ⟨_, _, _, he, h⟩⟩
              · exact .inl (h.trans_le (ahead.index.trans this))
              · exact .inr (.inl (.inl h))
              · rw [hpb, Outcome.past_success] at h
                exact h.imp (·.trans_le this) (.inl <| .inr ·)
              · cases hpb.symm.trans he
                rw [hm, Outcome.past_success] at h
                exact h.imp_right .inr

theorem past_items {trailing : Bool} (hp : Forward p) (h : (p c).Past k ∨ ∃ a next missed,
    p c = .success a next missed ∧ (moreItems trailing (symbol .comma) p next).Past k) :
    (items trailing (symbol .comma) p c).Past k := by
  unfold items
  cases hpc : p c with
  | failure e => exact past_of_failure hp hpc _ h
  | success a next missed =>
      simp only
      cases hm : moreItems trailing (symbol .comma) p next with
      | failure e => exact absurd hm (moreItems_ne_failure trailing _ p next e)
      | success as last missed' =>
          have := ((hp.moreItems trailing).ahead hm).index
          simp only [Outcome.past_success, Failure.beyond_merge]
          rcases h with h | ⟨_, _, _, he, h⟩
          · rw [hpc, Outcome.past_success] at h
            exact h.imp (·.trans_le this) .inl
          · cases hpc.symm.trans he
            rw [hm, Outcome.past_success] at h
            exact h.imp_right .inr

end Past

/-- Where the second parser succeeds and the first does not, the second gets as far. -/
structure Covers (p q : Parser α) : Prop where
  covered {c next : Cursor} {e : Failure} {a : α} {missed : Option Failure} {k : Nat}
    (hp : p c = .failure e) (hq : q c = .success a next missed) (hk : k < e.index) : (q c).Past k

theorem Covers.past_orElse (h : Covers p q)
    (hk : (p c).Past k ∨ ∃ e, p c = .failure e ∧ (q c).Past k) : (orElse p q c).Past k := by
  unfold orElse
  cases hpc : p c with
  | success a next missed =>
      rw [hpc] at hk
      simpa using hk
  | failure e =>
      simp only [hpc, Outcome.past_failure, Outcome.failure.injEq, exists_eq_left'] at hk ⊢
      cases hqc : q c with
      | success a next missed =>
          rcases hk with hk | hk
          · have covered := h.covered hpc hqc hk
            rwa [hqc] at covered
          · rwa [hqc] at hk
      | failure e' =>
          rw [hqc] at hk
          rw [Outcome.past_failure, Failure.index_furthest]
          exact hk.elim (·.trans_le (Nat.le_max_left _ _)) (·.trans_le (Nat.le_max_right _ _))

/-- The parser fails on the spot if the next token is of another kind. -/
structure Starts (u : Token) (p : Parser α) : Prop where
  refused {c : Cursor} (h : ∀ l ∈ c.rest.head?, l.1.kind ≠ u) :
    ∃ e, p c = .failure e ∧ e.index = c.index

namespace Starts

variable {u : Token}

theorem select {g : Token → Option α} (h : ∀ t, t.kind ≠ u → g t = none) :
    Starts u (select g) := by
  refine ⟨fun {c} hc => ?_⟩
  unfold Parser.select
  split
  · exact ⟨_, rfl, rfl⟩
  · next t span rest hr =>
    have none : g t = none := h t (hc (t, span) (by simp [hr]))
    simp only [none]
    exact ⟨_, rfl, rfl⟩

theorem token (t : Token) : Starts t.kind (token t) := by
  refine ⟨fun {c} hc => ?_⟩
  unfold Parser.token
  split
  · exact ⟨_, rfl, rfl⟩
  · next t' span rest hr =>
    have other : t' ≠ t := fun he => hc (t', span) (by simp [hr]) (congrArg Token.kind he)
    simp only [other, if_false]
    exact ⟨_, rfl, rfl⟩

theorem bind (h : Starts u p) : Starts u (p >>= f) := by
  refine ⟨fun {c} hc => ?_⟩
  obtain ⟨e, he, hi⟩ := h.refused hc
  exact ⟨e, show Parser.bind p f c = _ by simp only [Parser.bind, he], hi⟩

theorem spanned (h : Starts u p) : Starts u (spanned p) := by
  refine ⟨fun {c} hc => ?_⟩
  obtain ⟨e, he, hi⟩ := h.refused hc
  exact ⟨e, by simp only [Parser.spanned, he], hi⟩

theorem labelled {r : Rule} (h : Starts u p) : Starts u (labelled r p) := by
  refine ⟨fun {c} hc => ?_⟩
  obtain ⟨e, he, hi⟩ := h.refused hc
  exact ⟨e.takenBy r, by simp only [Parser.labelled, he], hi⟩

end Starts

namespace Covers

variable {u v : Token}

/-- Parsers that start with different tokens fail on the spot where the other succeeds. -/
theorem of_starts (hp : Starts u p) (hq : Starts v q) (hf : Forward q) (huv : u ≠ v) :
    Covers p q := by
  refine ⟨fun {c next e a missed k} hpc hqc hk => ?_⟩
  by_cases head : ∀ l ∈ c.rest.head?, l.1.kind ≠ u
  · obtain ⟨e', he, hi⟩ := hp.refused head
    cases hpc.symm.trans he
    have := (hf.ahead hqc).index
    rw [hqc, Outcome.past_success]
    omega
  · have other : ∀ l ∈ c.rest.head?, l.1.kind ≠ v := by
      intro l hl hv
      refine head fun l' hl' hu => huv ?_
      cases hl.symm.trans hl'
      exact hu.symm.trans hv
    obtain ⟨e', he, -⟩ := hq.refused other
    cases hqc.symm.trans he

theorem choice {ps : List (Parser α)} (h : ∀ q ∈ ps, Covers p q) : Covers p (choice ps) := by
  fun_induction Parser.choice ps with
  | case1 =>
      refine ⟨fun _ hqc _ => ?_⟩
      cases hqc
  | case2 q => exact h q (by simp)
  | case3 q ps _ ih =>
      have more := ih fun q hq => h q (List.mem_cons_of_mem _ hq)
      refine ⟨fun {c next e a missed k} hpc hqc hk => ?_⟩
      unfold orElse at hqc ⊢
      cases hq : q c with
      | success a' next' missed' =>
          have := (h q (by simp)).covered hpc hq hk
          rwa [hq] at this
      | failure e' =>
          rw [hq] at hqc
          simp only at hqc ⊢
          cases hr : Parser.choice ps c with
          | success a' next' missed' =>
              have := more.covered hpc hr hk
              rwa [hr] at this
          | failure e'' => simp only [hr, reduceCtorEq] at hqc

/-- Alternatives that start with different tokens, but for some that cover others. -/
theorem pairwise {as : List (Token × Parser α)} (hs : ∀ a ∈ as, Starts a.1 a.2)
    (hf : ∀ a ∈ as, Forward a.2) (hd : as.Pairwise fun a b => a.1 ≠ b.1 ∨ Covers a.2 b.2) :
    (as.map Prod.snd).Pairwise Covers := by
  rw [List.pairwise_map]
  refine hd.imp_of_mem fun {a b} ha hb hab => ?_
  rcases hab with hab | hab
  · exact .of_starts (hs a ha) (hs b hb) (hf b hb) hab
  · exact hab

end Covers

end Parser

end Markup

end Template
