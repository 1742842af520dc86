import Template.Proofs.Markup.ExprSound
import Template.Proofs.Markup.Spelling

/-!
Expressions are found again: from the tokens that an expression of the right shape is written with,
the grammar makes that expression. What comes behind must not go on with it, which is told by how
tightly its first token binds.
-/

namespace Template

namespace Token

/-- How tightly the token continues an expression; zero if it does not. -/
def tightness : Token → Nat
  | .symbol .question => 1
  | .symbol .disj => 2
  | .symbol .conj => 3
  | .symbol .equal | .symbol .notEqual => 4
  | .symbol .less | .symbol .lessEqual | .symbol .greater | .symbol .greaterEqual => 5
  | .symbol .plus | .symbol .minus => 6
  | .symbol .star | .symbol .slash | .symbol .percent => 7
  | .symbol .dot | .symbol .openParen | .symbol .openBracket => 9
  | _ => 0

def isLiteral : Token → Bool
  | .str _ | .number _ | .reserved .yes | .reserved .no | .reserved .null => true
  | _ => false

def isReference : Token → Bool
  | .reference _ _ => true
  | _ => false

def isFormal : Token → Bool
  | .formal _ => true
  | _ => false

def startsOperand : Token → Bool
  | .symbol .openParen | .symbol .openBracket | .symbol .openBrace => true
  | t => t.isLiteral || t.isReference || t.isFormal

def startsExpr : Token → Bool
  | .symbol .bang | .symbol .minus | .symbol .plus => true
  | t => t.startsOperand

end Token

namespace Token

theorem tightness_of_closes {t : Token} (h : t.closes) : t.tightness = 0 := by
  unfold closes at h
  split at h <;> first | rfl | cases h

theorem startsExpr_of_closes {t : Token} (h : t.closes) : t.startsExpr = false := by
  unfold closes at h
  split at h <;> first | rfl | cases h

end Token

theorem BinaryOp.tightness_token (op : BinaryOp) : op.token.tightness = op.level := by
  cases op <;> rfl

namespace Markup

/-- The tokens go on with nothing of the level or tighter. -/
def Below (level : Nat) (ts : List Token) : Prop := ∀ t ∈ ts.head?, t.tightness < level

theorem Below.mono {level level' : Nat} {ts : List Token} (h : Below level ts)
    (hl : level ≤ level') : Below level' ts :=
  fun t ht => Nat.lt_of_lt_of_le (h t ht) hl

theorem below_cons {level : Nat} {t : Token} {ts : List Token} (h : t.tightness < level) :
    Below level (t :: ts) := by
  intro t' ht
  cases ht
  exact h

theorem Below.head_ne {level : Nat} {ts : List Token} (h : Below level ts) {t : Token}
    (ht : level ≤ t.tightness) : ts.head? ≠ some t :=
  fun he => Nat.not_lt.2 ht (h t he)

namespace Grammar

open Template.Markup.Parser

theorem unplaced_withSuffixes (p : Primary) (suffixes : List Suffix) (span : Span) :
    (withSuffixes p suffixes span).unplaced =
      withSuffixes p.unplaced (unplacedSuffixes suffixes) default := by
  cases suffixes <;> rfl

theorem tokens_withSuffixes (p : Primary) (suffixes : List Suffix) (span : Span) :
    (withSuffixes p suffixes span).tokens = p.tokens ++ suffixes.flatMap Suffix.tokens := by
  cases suffixes with
  | nil => simp [withSuffixes, Expr.tokens_primary]
  | cons s ss => exact Expr.tokens_applied p (s :: ss) span

theorem tokensInBraces_withSuffixes (name : String) (quiet : Bool) (place span : Span)
    (suffixes : List Suffix) :
    (withSuffixes (.reference name quiet place) suffixes span).tokensInBraces =
      .ident name :: suffixes.flatMap Suffix.tokens := by
  cases suffixes with
  | nil => rfl
  | cons s ss =>
      simp only [withSuffixes, Expr.tokensInBraces, Expr.layoutInBraces, Layout.tokens,
        Layout.allTokens, layoutSuffixes_eq, Layout.allTokens_flatMap, List.append_nil]
      rfl

theorem exists_named {e : Expr} {quiet : Bool} (hn : e.Named quiet) (h : e.Shaped) :
    ∃ name place suffixes span, e = withSuffixes (.reference name quiet place) suffixes span ∧
      ∀ s ∈ suffixes, s.Shaped := by
  cases hn with
  | @applied name place span suffixes =>
      cases h with
      | applied hn _ hs =>
          obtain ⟨s, ss, rfl⟩ := List.exists_cons_of_ne_nil hn
          exact ⟨name, place, s :: ss, span, rfl, hs⟩
  | @primary name place => exact ⟨name, place, [], default, rfl, by simp⟩

theorem exists_withSuffixes {e : Expr} (h : e.Shaped) (hl : 9 ≤ e.level) :
    ∃ p suffixes span, e = withSuffixes p suffixes span ∧ p.Shaped ∧ ∀ s ∈ suffixes, s.Shaped := by
  cases h with
  | ternary | unary => simp [Expr.level] at hl
  | chain level hn _ _ ho _ =>
      rw [Expr.Shaped.level_chain hn ho] at hl
      have := (Expr.Shaped.level_of_rest hn ho).2
      omega
  | @applied p suffixes span hn hp hs =>
      obtain ⟨s, ss, rfl⟩ := List.exists_cons_of_ne_nil hn
      exact ⟨p, s :: ss, span, rfl, hp, hs⟩
  | primary hp => exact ⟨_, [], default, rfl, hp, by simp⟩

/-- Expressions of a level or tighter ones with not too many tokens are found, and where no
expression begins none is. -/
structure Complete (p : Parser Expr) (level size : Nat) : Prop where
  gives {e : Expr} (hs : e.Shaped) (hl : level ≤ e.level) (hn : e.tokens.length ≤ size)
    {ts : List Token} (ht : Below level ts) : p.Gives (e.tokens ++ ts) (·.unplaced = e.unplaced) ts
  fails {ts : List Token} (h : ∀ t ∈ ts.head?, t.startsExpr = false) : p.Fails ts

variable {expr : Parser Expr} {size : Nat}

theorem identifier_gives (name : String) (ts : List Token) :
    identifier.Gives (.ident name :: ts) (· = name) ts :=
  .labelled (.select rfl)

theorem property_gives (name : String) (span : Span) (ts : List Token) :
    property.Gives ((Suffix.property name span).tokens ++ ts) (·.unplaced = .property name default)
      ts := by
  refine .bind (.spanned (.bind (.token _) fun _ _ => identifier_gives name ts)) ?_
  rintro ⟨_, _⟩ rfl
  exact .pure rfl

theorem property_fails {ts : List Token} (h : ts.head? ≠ some (.symbol .dot)) :
    property.Fails ts :=
  .bind_left (.spanned (.bind_left (.token h)))

theorem call_fails {ts : List Token} (h : ts.head? ≠ some (.symbol .openParen)) :
    (call expr).Fails ts :=
  .bind_left (.spanned (.between h))

theorem index_fails {ts : List Token} (h : ts.head? ≠ some (.symbol .openBracket)) :
    (index expr).Fails ts :=
  .bind_left (.spanned (.between h))

theorem suffix_fails {ts : List Token} (h : Below 9 ts) : (suffix expr).Fails ts :=
  .choice (by
    simp only [List.forall_mem_cons]
    exact ⟨property_fails (h.head_ne (by decide)), call_fails (h.head_ne (by decide)),
      index_fails (h.head_ne (by decide)), nofun⟩)

theorem length_le_flatMap {α β : Type} {f : α → List β} {x : α} {xs : List α} (h : x ∈ xs) :
    (f x).length ≤ (xs.flatMap f).length := by
  obtain ⟨before, after, rfl⟩ := List.append_of_mem h
  simp only [List.flatMap_append, List.flatMap_cons, List.length_append]
  omega

theorem length_le_commaRow {α : Type} (write : α → List Token) {x : α} {xs : List α}
    (h : x ∈ xs) : (write x).length ≤ (commaRow write xs).length := by
  cases xs with
  | nil => cases h
  | cons y ys =>
      rw [commaRow, List.length_append]
      rcases List.mem_cons.1 h with rfl | h
      · exact Nat.le_add_right _ _
      · have := length_le_flatMap (f := fun y => .symbol .comma :: write y) h
        simp only [List.length_cons] at this
        omega

section Bracketed

variable (h : Complete expr 1 size)

include h

theorem Complete.items_give {es : List Expr} (hs : ∀ e ∈ es, e.Shaped)
    (hn : (commaRow Expr.tokens es).length ≤ size) {closer : Token} (hc : closer.closes)
    (ts : List Token) :
    (items true (Parser.symbol .comma) expr).Gives (commaRow Expr.tokens es ++ closer :: ts)
      (fun es' => unplacedItems es' = unplacedItems es) (closer :: ts) := by
  simp only [unplacedItems_eq]
  refine .items (Below 1) (fun e he ts ht => ?_) (fun ts => below_cons (by decide)) ?_ ?_ ?_
  · exact h.gives (hs e he) (hs e he).one_le_level ((length_le_commaRow _ he).trans hn) ht
  · exact below_cons (by rw [Token.tightness_of_closes hc]; decide)
  · rintro he
    cases Option.some.inj he
    cases hc
  · refine h.fails fun t ht => ?_
    cases ht
    exact Token.startsExpr_of_closes hc

theorem call_gives {arguments : List Expr} {span : Span} (hs : ∀ e ∈ arguments, e.Shaped)
    (hn : (Suffix.call arguments span).tokens.length ≤ size + 1) (ts : List Token) :
    (call expr).Gives ((Suffix.call arguments span).tokens ++ ts)
      (·.unplaced = (Suffix.call arguments span).unplaced) ts := by
  simp only [Suffix.tokens_call, List.length_cons, List.length_append] at hn
  rw [Suffix.tokens_call, List.cons_append, List.append_assoc]
  refine .bind (.spanned (.between (h.items_give hs (by omega) rfl ts))) ?_
  rintro ⟨es, _⟩ hes
  exact .pure (congrArg (Suffix.call · default) hes)

theorem Complete.between_gives {e : Expr} (hs : e.Shaped) (hn : e.tokens.length ≤ size)
    {opener closer : Symbol} (hc : (Token.symbol closer).closes) (ts : List Token) :
    (between opener closer expr).Gives
      (.symbol opener :: (e.tokens ++ [Token.symbol closer]) ++ ts) (·.unplaced = e.unplaced) ts := by
  rw [List.cons_append, List.append_assoc]
  refine .between (h.gives hs hs.one_le_level hn (below_cons ?_))
  rw [Token.tightness_of_closes hc]
  decide

theorem index_gives {key : Expr} {span : Span} (hs : key.Shaped)
    (hn : (Suffix.index key span).tokens.length ≤ size + 1) (ts : List Token) :
    (index expr).Gives ((Suffix.index key span).tokens ++ ts)
      (·.unplaced = (Suffix.index key span).unplaced) ts := by
  simp only [Suffix.tokens_index, List.length_cons, List.length_append] at hn
  refine .bind (.spanned (h.between_gives hs (by omega) rfl ts)) ?_
  rintro ⟨e, _⟩ he
  exact .pure (congrArg (Suffix.index · default) he)

theorem suffix_gives {s : Suffix} (hs : s.Shaped) (hn : s.tokens.length ≤ size + 1)
    (ts : List Token) : (suffix expr).Gives (s.tokens ++ ts) (·.unplaced = s.unplaced) ts := by
  cases hs with
  | property => exact .choice [] [call expr, index expr] nofun (property_gives _ _ ts)
  | call hs =>
      refine .choice [property] [index expr] ?_ (call_gives h hs hn ts)
      exact List.forall_mem_singleton.2 (property_fails (by simp [Suffix.tokens_call]))
  | index hs =>
      refine .choice [property, call expr] [] ?_ (index_gives h hs hn ts)
      simp only [List.forall_mem_cons]
      exact ⟨property_fails (by simp [Suffix.tokens_index]),
        call_fails (by simp [Suffix.tokens_index]), nofun⟩

theorem suffixes_give {suffixes : List Suffix} (hs : ∀ s ∈ suffixes, s.Shaped)
    (hn : (suffixes.flatMap Suffix.tokens).length ≤ size + 1) {ts : List Token} (ht : Below 9 ts) :
    (many (suffix expr)).Gives (suffixes.flatMap Suffix.tokens ++ ts)
      (fun ss => unplacedSuffixes ss = unplacedSuffixes suffixes) ts := by
  simp only [unplacedSuffixes_eq]
  refine .many (fun _ => True) (fun s hm ts _ => ?_) (fun s hm => ?_) (fun _ _ _ => trivial) trivial
    (suffix_fails ht)
  · exact suffix_gives h (hs s hm) ((length_le_flatMap hm).trans hn) ts
  · cases s with
    | property => simp [Suffix.tokens_property]
    | call => simp [Suffix.tokens_call]
    | index => simp [Suffix.tokens_index]

theorem nameAndSuffixes_give {suffixes : List Suffix} (hs : ∀ s ∈ suffixes, s.Shaped)
    (hl : (suffixes.flatMap Suffix.tokens).length ≤ size) (name : String) (ts : List Token) :
    Gives (do
      let (name, span) ← spanned identifier
      return (Primary.reference name false span, ← many (suffix expr)))
      (.ident name :: suffixes.flatMap Suffix.tokens ++ .symbol .closeBrace :: ts)
      (fun r => (∃ place, r.1 = .reference name false place) ∧
        unplacedSuffixes r.2 = unplacedSuffixes suffixes) (.symbol .closeBrace :: ts) := by
  refine .bind (.spanned (identifier_gives name _)) ?_
  rintro ⟨_, place⟩ rfl
  exact .bind (suffixes_give h hs (by omega) (below_cons (by decide))) fun _ he =>
    .pure ⟨⟨place, rfl⟩, he⟩

theorem formalBody_gives {inner : Expr} (hn : inner.Named false) (hs : inner.Shaped)
    (hl : inner.tokensInBraces.length ≤ size + 1) (ts : List Token) :
    (formalBody expr).Gives (inner.tokensInBraces ++ .symbol .closeBrace :: ts)
      (·.unplaced = inner.unplaced) (.symbol .closeBrace :: ts) := by
  obtain ⟨name, place, suffixes, span, rfl, hss⟩ := exists_named hn hs
  rw [tokensInBraces_withSuffixes, List.length_cons] at hl
  rw [tokensInBraces_withSuffixes, unplaced_withSuffixes]
  refine .bind (nameAndSuffixes_give h hss (by omega) name ts).spanned ?_
  rintro ⟨⟨_, ss⟩, span⟩ ⟨⟨place, rfl⟩, he⟩
  refine .pure ?_
  rw [unplaced_withSuffixes, he]
  rfl

theorem formal_gives {inner : Expr} {quiet : Bool} (hn : inner.Named false) (hs : inner.Shaped)
    (hl : inner.tokensInBraces.length ≤ size + 1) (ts : List Token) :
    (formal expr).Gives (.formal quiet :: (inner.tokensInBraces ++ [Token.symbol .closeBrace]) ++ ts)
      (fun r => r.1.1 = quiet ∧ r.1.2.unplaced = inner.unplaced) ts := by
  rw [List.cons_append, List.append_assoc]
  have parts : Gives (do
      let quiet ← select fun
        | .formal quiet => some quiet
        | _ => none
      let inner ← formalBody expr
      Parser.symbol .closeBrace
      return (quiet, inner))
      (.formal quiet :: (inner.tokensInBraces ++ .symbol .closeBrace :: ts))
      (fun r => r.1 = quiet ∧ r.2.unplaced = inner.unplaced) ts := by
    refine .bind (.select rfl) ?_
    rintro _ rfl
    exact .bind (formalBody_gives h hn hs hl ts) fun e he => .bind (.token _) fun _ _ =>
      .pure ⟨rfl, he⟩
  exact parts.spanned

theorem range_gives {first last : Expr} {span : Span} (hf : first.Shaped) (hl : last.Shaped)
    (hn : (Primary.range first last span).tokens.length ≤ size + 1) (ts : List Token) :
    (range expr).Gives ((Primary.range first last span).tokens ++ ts)
      (·.unplaced = (Primary.range first last span).unplaced) ts := by
  simp only [Primary.tokens_range, List.length_cons, List.length_append] at hn
  have parts : Gives (do
      let first ← expr
      Parser.symbol .dots
      return (first, ← expr))
      (first.tokens ++ .symbol .dots :: (last.tokens ++ .symbol .closeBracket :: ts))
      (fun r => r.1.unplaced = first.unplaced ∧ r.2.unplaced = last.unplaced)
      (.symbol .closeBracket :: ts) :=
    .bind (h.gives hf hf.one_le_level (by omega) (below_cons (by decide))) fun _ ha =>
      .bind (.token _) fun _ _ =>
        .bind (h.gives hl hl.one_le_level (by omega) (below_cons (by decide))) fun _ hb =>
          .pure ⟨ha, hb⟩
  simp only [Primary.tokens_range, List.cons_append, List.append_assoc, List.nil_append]
  refine .bind parts.between.spanned ?_
  rintro ⟨⟨a, b⟩, span⟩ ⟨ha, hb⟩
  exact .pure (by rw [Primary.unplaced, Primary.unplaced, ha, hb])

/-- A list does not look like a range: where the dots would stand it has a comma or its end. -/
theorem range_fails_on_list {es : List Expr} {span : Span} (hs : ∀ e ∈ es, e.Shaped)
    (hn : (Primary.list es span).tokens.length ≤ size + 1) (ts : List Token) :
    (range expr).Fails ((Primary.list es span).tokens ++ ts) := by
  simp only [Primary.tokens_list, List.length_cons, List.length_append] at hn
  rw [Primary.tokens_list, List.cons_append, List.append_assoc]
  refine .bind_left (.spanned (.bind_right (.token _) fun _ _ => .bind_left ?_))
  cases es with
  | nil => exact .bind_left (h.fails (by rintro t ht; cases ht; rfl))
  | cons e es =>
      have he := hs e (by simp)
      have hlen := length_le_commaRow Expr.tokens (List.mem_cons_self (a := e) (l := es))
      have below : Below 1 (es.flatMap (fun e => .symbol .comma :: e.tokens) ++
          ([Token.symbol .closeBracket] ++ ts)) := by
        cases es <;> exact below_cons (by decide)
      rw [commaRow, List.append_assoc]
      refine .bind_right (h.gives he he.one_le_level (by omega) below) fun _ _ =>
        .bind_left (.token ?_)
      cases es <;> simp

theorem formalPrimary_gives {inner : Expr} {quiet : Bool} {span : Span} (hn : inner.Named false)
    (hs : inner.Shaped) (hl : (Primary.formal inner quiet span).tokens.length ≤ size + 1)
    (ts : List Token) :
    (formalPrimary expr).Gives ((Primary.formal inner quiet span).tokens ++ ts)
      (·.unplaced = (Primary.formal inner quiet span).unplaced) ts := by
  simp only [Primary.tokens_formal, List.length_cons, List.length_append] at hl
  refine .bind (formal_gives h hn hs (by omega) ts) ?_
  rintro ⟨⟨_, e⟩, _⟩ ⟨rfl, he⟩
  exact .pure (by rw [Primary.unplaced, Primary.unplaced, he])

theorem group_gives {inner : Expr} {span : Span} (hs : inner.Shaped)
    (hn : (Primary.group inner span).tokens.length ≤ size + 1) (ts : List Token) :
    (group expr).Gives ((Primary.group inner span).tokens ++ ts)
      (·.unplaced = (Primary.group inner span).unplaced) ts := by
  simp only [Primary.tokens_group, List.length_cons, List.length_append] at hn
  refine .bind (.spanned (h.between_gives hs (by omega) rfl ts)) ?_
  rintro ⟨e, _⟩ he
  exact .pure (congrArg (Primary.group · default) he)

theorem list_gives {es : List Expr} {span : Span} (hs : ∀ e ∈ es, e.Shaped)
    (hn : (Primary.list es span).tokens.length ≤ size + 1) (ts : List Token) :
    (list expr).Gives ((Primary.list es span).tokens ++ ts)
      (·.unplaced = (Primary.list es span).unplaced) ts := by
  simp only [Primary.tokens_list, List.length_cons, List.length_append] at hn
  rw [Primary.tokens_list, List.cons_append, List.append_assoc]
  refine .bind (.spanned (.between (h.items_give hs (by omega) rfl ts))) ?_
  rintro ⟨es', _⟩ hes
  exact .pure (congrArg (Primary.list · default) hes)

theorem mapEntry_gives {p : MapKey × Expr} (hs : p.2.Shaped) (hn : (entryTokens p).length ≤ size)
    {ts : List Token} (ht : Below 1 ts) :
    (mapEntry expr).Gives (entryTokens p ++ ts)
      (fun p' => (p'.1, p'.2.unplaced) = (p.1, p.2.unplaced)) ts := by
  obtain ⟨key, e⟩ := p
  have name : mapKey.Gives (key.token :: .symbol .colon :: (e.tokens ++ ts)) (· = key)
      (.symbol .colon :: (e.tokens ++ ts)) :=
    .labelled (.select (by cases key <;> rfl))
  simp only [entryTokens, List.length_cons] at hn hs
  refine .bind name ?_
  rintro _ rfl
  exact .bind (.token _) fun _ _ => .bind (h.gives hs hs.one_le_level (by omega) ht) fun _ he =>
    .pure (by rw [he])

theorem map_gives {entries : List (MapKey × Expr)} {span : Span} (hs : ∀ p ∈ entries, p.2.Shaped)
    (hn : (Primary.map entries span).tokens.length ≤ size + 1) (ts : List Token) :
    (map expr).Gives ((Primary.map entries span).tokens ++ ts)
      (·.unplaced = (Primary.map entries span).unplaced) ts := by
  simp only [Primary.tokens_map, List.length_cons, List.length_append] at hn
  rw [Primary.tokens_map, List.cons_append, List.append_assoc]
  have parts : (items true (Parser.symbol .comma) (mapEntry expr)).Gives
      (commaRow entryTokens entries ++ .symbol .closeBrace :: ts)
      (fun ps => unplacedEntries ps = unplacedEntries entries) (.symbol .closeBrace :: ts) := by
    simp only [unplacedEntries_eq]
    refine .items (Below 1) (fun p hp ts ht => ?_) (fun ts => below_cons (by decide))
      (below_cons (by decide)) (by simp) ?_
    · exact mapEntry_gives h (hs p hp) ((length_le_commaRow _ hp).trans (by omega)) ht
    · exact .bind_left (.labelled (.select (by rintro t ht; cases ht; rfl)))
  refine .bind parts.between.spanned ?_
  rintro ⟨ps, _⟩ hps
  exact .pure (congrArg (Primary.map · default) hps)

end Bracketed

theorem reference_gives (name : String) (quiet : Bool) (ts : List Token) :
    reference.Gives (.reference name quiet :: ts) (fun p => ∃ place, p = .reference name quiet place)
      ts := by
  refine .labelled (.bind (.spanned (.select rfl)) ?_)
  rintro ⟨⟨_, _⟩, place⟩ ⟨⟩
  exact .pure ⟨place, rfl⟩

theorem literal_gives (value : Literal) (span : Span) (ts : List Token) :
    literal.Gives ((Primary.literal value span).tokens ++ ts)
      (·.unplaced = .literal value default) ts := by
  have token : (select fun
      | .str raw => some (Literal.str raw)
      | .number raw => some (Literal.number raw)
      | .reserved .yes => some (Literal.bool true)
      | .reserved .no => some (Literal.bool false)
      | .reserved .null => some Literal.null
      | _ => none).Gives (value.token :: ts) (· = value) ts := by
    refine .select ?_
    cases value with
    | bool b => cases b <;> rfl
    | _ => rfl
  refine .bind token.spanned ?_
  rintro ⟨_, span⟩ rfl
  exact .pure rfl

theorem literal_fails {ts : List Token} (h : ∀ t ∈ ts.head?, t.isLiteral = false) :
    literal.Fails ts := by
  refine .bind_left (.spanned (.select fun t ht => ?_))
  have := h t ht
  split <;> first | rfl | cases this

theorem reference_fails {ts : List Token} (h : ∀ t ∈ ts.head?, t.isReference = false) :
    reference.Fails ts := by
  refine .labelled (.bind_left (.spanned (.select fun t ht => ?_)))
  have := h t ht
  split <;> first | rfl | cases this

theorem formal_fails {ts : List Token} (h : ∀ t ∈ ts.head?, t.isFormal = false) :
    (formal expr).Fails ts := by
  refine .spanned (.bind_left (.select fun t ht => ?_))
  have := h t ht
  split <;> first | rfl | cases this

theorem formalPrimary_fails {ts : List Token} (h : ∀ t ∈ ts.head?, t.isFormal = false) :
    (formalPrimary expr).Fails ts :=
  .bind_left (formal_fails h)

theorem group_fails {ts : List Token} (h : ts.head? ≠ some (.symbol .openParen)) :
    (group expr).Fails ts :=
  .bind_left (.spanned (.between h))

theorem range_fails {ts : List Token} (h : ts.head? ≠ some (.symbol .openBracket)) :
    (range expr).Fails ts :=
  .bind_left (.spanned (.between h))

theorem list_fails {ts : List Token} (h : ts.head? ≠ some (.symbol .openBracket)) :
    (list expr).Fails ts :=
  .bind_left (.spanned (.between h))

theorem map_fails {ts : List Token} (h : ts.head? ≠ some (.symbol .openBrace)) :
    (map expr).Fails ts :=
  .bind_left (.spanned (.between h))

theorem primary_fails {ts : List Token} (h : ∀ t ∈ ts.head?, t.startsOperand = false) :
    (primary expr).Fails ts := by
  have none {p : Token → Bool} (hp : ∀ t, p t → t.startsOperand) : ∀ t ∈ ts.head?, p t = false :=
    fun t ht => Bool.eq_false_iff.2 fun he => Bool.eq_false_iff.1 (h t ht) (hp t he)
  have ne {t : Token} (ht : t.startsOperand) : ts.head? ≠ some t :=
    fun he => Bool.eq_false_iff.1 (h t he) ht
  refine .labelled (.choice ?_)
  simp only [List.forall_mem_cons]
  refine ⟨literal_fails (none fun t ht => ?_), reference_fails (none fun t ht => ?_),
    formalPrimary_fails (none fun t ht => ?_), group_fails (ne rfl), range_fails (ne rfl),
    list_fails (ne rfl), map_fails (ne rfl), nofun⟩
  all_goals
    simp only [Token.startsOperand]
    split <;> simp_all

section Operators

variable (h : Complete expr 1 size)

include h

theorem primary_gives {p : Primary} (hs : p.Shaped) (hn : p.tokens.length ≤ size + 1)
    (ts : List Token) : (primary expr).Gives (p.tokens ++ ts) (·.unplaced = p.unplaced) ts := by
  have head {q : Token → Bool} {t : Token} {ts : List Token} (ht : q t = false) :
      ∀ t' ∈ (t :: ts).head?, q t' = false := by
    intro _ ht
    cases ht
    exact ht
  refine .labelled ?_
  cases hs with
  | literal =>
      exact .choice [] [reference, formalPrimary expr, group expr, range expr, list expr, map expr]
        nofun (literal_gives _ _ ts)
  | reference =>
      refine .choice [literal] [formalPrimary expr, group expr, range expr, list expr, map expr] ?_
        ((reference_gives _ _ ts).mono ?_)
      · exact List.forall_mem_singleton.2 (literal_fails (head rfl))
      · rintro _ ⟨place, rfl⟩
        rfl
  | formal hn' hs =>
      refine .choice [literal, reference] [group expr, range expr, list expr, map expr] ?_
        (formalPrimary_gives h hn' hs hn ts)
      simp only [List.forall_mem_cons]
      exact ⟨literal_fails (head rfl), reference_fails (head rfl), nofun⟩
  | group hs =>
      refine .choice [literal, reference, formalPrimary expr] [range expr, list expr, map expr] ?_
        (group_gives h hs hn ts)
      simp only [List.forall_mem_cons]
      exact ⟨literal_fails (head rfl), reference_fails (head rfl), formalPrimary_fails (head rfl),
        nofun⟩
  | range hf hl =>
      refine .choice [literal, reference, formalPrimary expr, group expr] [list expr, map expr] ?_
        (range_gives h hf hl hn ts)
      rw [Primary.tokens_range]
      simp only [List.forall_mem_cons]
      exact ⟨literal_fails (head rfl), reference_fails (head rfl), formalPrimary_fails (head rfl),
        group_fails (by simp), nofun⟩
  | list hs =>
      refine .choice [literal, reference, formalPrimary expr, group expr, range expr] [map expr] ?_
        (list_gives h hs hn ts)
      simp only [List.forall_mem_cons]
      refine ⟨?_, ?_, ?_, ?_, range_fails_on_list h hs hn ts, nofun⟩
      all_goals rw [Primary.tokens_list]
      · exact literal_fails (head rfl)
      · exact reference_fails (head rfl)
      · exact formalPrimary_fails (head rfl)
      · exact group_fails (by simp)
  | map hs =>
      refine .choice [literal, reference, formalPrimary expr, group expr, range expr, list expr] []
        ?_ (map_gives h hs hn ts)
      rw [Primary.tokens_map]
      simp only [List.forall_mem_cons]
      exact ⟨literal_fails (head rfl), reference_fails (head rfl), formalPrimary_fails (head rfl),
        group_fails (by simp), range_fails (by simp), list_fails (by simp), nofun⟩

theorem operand_complete : Complete (operand expr) 9 (size + 1) where
  gives {e} hs hl hn {ts} ht := by
    obtain ⟨p, suffixes, span, rfl, hp, hss⟩ := exists_withSuffixes hs hl
    rw [tokens_withSuffixes, List.length_append] at hn
    rw [tokens_withSuffixes, List.append_assoc, unplaced_withSuffixes]
    have parts : Gives (do
        let first ← primary expr
        return (first, ← many (suffix expr))) (p.tokens ++ (suffixes.flatMap Suffix.tokens ++ ts))
        (fun r => r.1.unplaced = p.unplaced ∧
          unplacedSuffixes r.2 = unplacedSuffixes suffixes) ts :=
      .bind (primary_gives h hp (by omega) _) fun _ ha =>
        .bind (suffixes_give h hss (by omega) ht) fun _ hb => .pure ⟨ha, hb⟩
    refine .bind parts.spanned ?_
    rintro ⟨⟨first, ss⟩, _⟩ ⟨ha, hb⟩
    exact .pure (by rw [unplaced_withSuffixes, ha, hb])
  fails {ts} hts := by
    refine .bind_left (.spanned (.bind_left (primary_fails fun t ht => ?_)))
    have := hts t ht
    unfold Token.startsExpr at this
    split at this <;> simp_all

omit h in
theorem primary_head {p : Primary} (hs : p.Shaped) :
    ∃ t ts, p.tokens = t :: ts ∧ t.startsOperand := by
  cases hs with
  | @literal value span =>
      refine ⟨value.token, [], rfl, ?_⟩
      cases value with
      | bool b => cases b <;> rfl
      | _ => rfl
  | reference | formal | group => exact ⟨_, _, rfl, rfl⟩
  | list => exact ⟨_, _, Primary.tokens_list _ _, rfl⟩
  | range => exact ⟨_, _, Primary.tokens_range _ _ _, rfl⟩
  | map => exact ⟨_, _, Primary.tokens_map _ _, rfl⟩

omit h in
theorem unaryOp_fails {ts : List Token}
    (ht : ∀ t ∈ ts.head?, t.startsOperand ∨ t.startsExpr = false) : unaryOp.Fails ts := by
  refine .select fun t hm => ?_
  have := ht t hm
  split <;> simp_all [Token.startsExpr, Token.startsOperand, Token.isLiteral, Token.isReference,
    Token.isFormal]

omit h in
theorem unaryOp_gives (op : UnaryOp) (ts : List Token) :
    unaryOp.Gives (op.token :: ts) (· = op) ts :=
  .select (by cases op <;> rfl)

/-- Operators are taken up to the operand, which begins with none. -/
theorem prefixed_gives (operators : List UnaryOp) {e : Expr} (hs : e.Shaped) (hl : 9 ≤ e.level)
    (hn : e.tokens.length ≤ size + 1) {ts : List Token} (ht : Below 9 ts) :
    Gives (do
      let operators ← many unaryOp
      return (operators, ← operand expr))
      (operators.flatMap (fun op => [op.token]) ++ (e.tokens ++ ts))
      (fun r => r.1 = operators ∧ r.2.unplaced = e.unplaced) ts := by
  have stop : unaryOp.Fails (e.tokens ++ ts) := by
    obtain ⟨p, suffixes, span, rfl, hp, -⟩ := exists_withSuffixes hs hl
    obtain ⟨t, ts', hp, hop⟩ := primary_head hp
    refine unaryOp_fails fun t' ht' => .inl ?_
    rw [tokens_withSuffixes, hp] at ht'
    cases ht'
    exact hop
  have taken : (many unaryOp).Gives
      (operators.flatMap (fun op => [op.token]) ++ (e.tokens ++ ts))
      (fun ops => ops.map id = operators.map id) (e.tokens ++ ts) :=
    .many (fun _ => True) (fun op _ ts _ => unaryOp_gives op ts) (by simp) (fun _ _ _ => trivial)
      trivial stop
  exact .bind taken fun ops ho => .bind ((operand_complete h).gives hs hl hn ht) fun _ he =>
    .pure ⟨by simpa using ho, he⟩

theorem unary_complete : Complete (unary expr) 8 (size + 1) where
  gives {e} hs hl hn {ts} ht := by
    rcases Nat.lt_or_ge 8 e.level with hl' | hl'
    · refine .bind (prefixed_gives h [] hs hl' hn (ht.mono (by decide))).spanned ?_
      rintro ⟨⟨_, e'⟩, _⟩ ⟨rfl, he⟩
      exact .pure he
    · cases hs with
      | ternary => simp [Expr.level] at hl
      | chain level hne _ _ ho _ =>
          rw [Expr.Shaped.level_chain hne ho] at hl
          have := (Expr.Shaped.level_of_rest hne ho).2
          omega
      | @unary operators operand span hne ho hs =>
          rw [Expr.tokens_unary, List.length_append] at hn
          rw [Expr.tokens_unary, List.append_assoc]
          refine .bind (prefixed_gives h operators hs ho (by omega) (ht.mono (by decide))).spanned ?_
          rintro ⟨⟨ops, e'⟩, _⟩ ⟨rfl, he⟩
          cases ops with
          | nil => exact absurd rfl hne
          | cons op ops => exact .pure (by rw [Expr.unplaced, Expr.unplaced, he])
      | applied | primary => simp [Expr.level] at hl'
  fails {ts} hts := by
    have none : (many unaryOp).Gives ts (· = []) ts :=
      .many_nil (unaryOp_fails fun t ht => .inr (hts t ht))
    exact .bind_left (.spanned (.bind_right none fun _ _ =>
      .bind_left ((operand_complete h).fails hts)))

end Operators

/-- The parser finds the operators of a level, and only these where nothing tighter goes on. -/
structure Operators (p : Parser BinaryOp) (level : Nat) : Prop where
  gives {op : BinaryOp} (h : op.level = level) (ts : List Token) : p.Gives (op.token :: ts) (· = op) ts
  fails {ts : List Token} (h : Below level ts) : p.Fails ts

theorem links_give {operators : Parser BinaryOp} {inner : Parser Expr} {level : Nat}
    (ho : Operators operators level) (h : Complete inner (level + 1) size) {first : Expr}
    (rest : List (BinaryOp × Expr)) (hf : first.Shaped) (hfl : level < first.level)
    (hr : ∀ p ∈ rest, (p.1.level = level ∧ level < p.2.level) ∧ p.2.Shaped)
    (hn : first.tokens.length + (rest.flatMap fun p => p.1.token :: p.2.tokens).length ≤ size)
    {ts : List Token} (ht : Below level ts) :
    Gives (do
      let first ← inner
      let rest ← many do
        let op ← operators
        return (op, ← inner)
      return (first, rest))
      (first.tokens ++ ((rest.flatMap fun p => p.1.token :: p.2.tokens) ++ ts))
      (fun r => r.1.unplaced = first.unplaced ∧ unplacedRest r.2 = unplacedRest rest) ts := by
  have pair (p : BinaryOp × Expr) (hp : p ∈ rest) (ts : List Token) (ht : Below (level + 1) ts) :
      Gives (do
        let op ← operators
        return (op, ← inner)) (p.1.token :: p.2.tokens ++ ts)
        (fun p' => (p'.1, p'.2.unplaced) = (p.1, p.2.unplaced)) ts := by
    obtain ⟨⟨hop, hl⟩, hs⟩ := hr p hp
    have hlen := length_le_flatMap (f := fun p : BinaryOp × Expr => p.1.token :: p.2.tokens) hp
    rw [List.length_cons] at hlen
    refine .bind (ho.gives hop _) ?_
    rintro _ rfl
    exact .bind (h.gives hs hl (by omega) ht) fun _ he => .pure (by rw [he])
  have follow (p : BinaryOp × Expr) (hp : p ∈ rest) (ts : List Token) :
      Below (level + 1) (p.1.token :: p.2.tokens ++ ts) := by
    refine below_cons ?_
    rw [BinaryOp.tightness_token, (hr p hp).1.1]
    exact Nat.lt_succ_self level
  have below : Below (level + 1) ((rest.flatMap fun p => p.1.token :: p.2.tokens) ++ ts) := by
    cases rest with
    | nil => exact ht.mono (Nat.le_succ level)
    | cons p ps =>
        rw [List.flatMap_cons, List.append_assoc]
        exact follow p (by simp) _
  simp only [unplacedRest_eq]
  refine .bind (h.gives hf hfl (by omega) below) fun a ha => .bind ?_ fun ps hps => .pure ⟨ha, hps⟩
  exact .many (Below (level + 1)) pair (by simp) follow (ht.mono (Nat.le_succ level))
    (.bind_left (ho.fails ht))

theorem chain_complete {operators : Parser BinaryOp} {inner : Parser Expr} {level : Nat}
    (ho : Operators operators level) (hlow : 2 ≤ level) (hhigh : level ≤ 7)
    (h : Complete inner (level + 1) size) : Complete (chain operators inner) level size where
  gives {e} hs hl hn {ts} ht := by
    rcases Nat.lt_or_ge level e.level with hl' | hl'
    · refine .bind (links_give ho h [] hs hl' (by simp) (by simpa) ht).spanned ?_
      rintro ⟨⟨e', rest⟩, _⟩ ⟨he, hr⟩
      cases rest with
      | nil => exact .pure he
      | cons p ps => cases hr
    · cases hs with
      | ternary | unary | applied | primary =>
          simp only [Expr.level] at hl hl'
          omega
      | @chain first rest span level' hne hfl hf hr hrs =>
          rw [Expr.Shaped.level_chain hne hr] at hl hl'
          obtain rfl := Nat.le_antisymm hl hl'
          rw [Expr.tokens_chain, List.length_append] at hn
          rw [Expr.tokens_chain, List.append_assoc]
          refine .bind (links_give ho h rest hf hfl (fun p hp => ⟨hr p hp, hrs p hp⟩) hn ht).spanned ?_
          rintro ⟨⟨e', rest'⟩, _⟩ ⟨he, hrest⟩
          cases rest' with
          | nil =>
              obtain ⟨p, ps, rfl⟩ := List.exists_cons_of_ne_nil hne
              cases hrest
          | cons p ps => exact .pure (by rw [Expr.unplaced, Expr.unplaced, he, hrest])
  fails {ts} hts := .bind_left (.spanned (.bind_left (h.fails hts)))

theorem operators_select {f : Token → Option BinaryOp} {level : Nat}
    (hg : ∀ op : BinaryOp, op.level = level → f op.token = some op)
    (hf : ∀ t, t.tightness < level → f t = none) : Operators (select f) level where
  gives h _ := .select (hg _ h)
  fails h := .select fun t ht => hf t (h t ht)

theorem operators_symbol {op : BinaryOp} {s : Symbol} (hs : op.token = .symbol s)
    (h : ∀ op' : BinaryOp, op'.level = op.level → op' = op) :
    Operators (do Parser.symbol s; return op) op.level where
  gives {op'} hl ts := by
    rw [h op' hl, hs]
    exact .bind (.token _) fun _ _ => .pure rfl
  fails hb := .bind_left (.token (hb.head_ne (by rw [← hs, BinaryOp.tightness_token])))

theorem multiplicativeOp_operators : Operators (select multiplicativeOp) 7 :=
  operators_select (by rintro (_ | _) h <;> first | rfl | cases h) fun t ht => by
    simp only [multiplicativeOp]
    split <;> first | rfl | exact absurd ht (by decide)

theorem additiveOp_operators : Operators (select additiveOp) 6 :=
  operators_select (by rintro (_ | _) h <;> first | rfl | cases h) fun t ht => by
    simp only [additiveOp]
    split <;> first | rfl | exact absurd ht (by decide)

theorem relationalOp_operators : Operators (select relationalOp) 5 :=
  operators_select (by rintro (_ | _) h <;> first | rfl | cases h) fun t ht => by
    simp only [relationalOp]
    split <;> first | rfl | exact absurd ht (by decide)

theorem equalityOp_operators : Operators (select equalityOp) 4 :=
  operators_select (by rintro (_ | _) h <;> first | rfl | cases h) fun t ht => by
    simp only [equalityOp]
    split <;> first | rfl | exact absurd ht (by decide)

theorem conj_operators : Operators (do Parser.symbol .conj; return .conj) 3 :=
  operators_symbol rfl (by rintro (_ | _) h <;> first | rfl | cases h)

theorem disj_operators : Operators (do Parser.symbol .disj; return .disj) 2 :=
  operators_symbol rfl (by rintro (_ | _) h <;> first | rfl | cases h)

theorem disjunction_complete (h : Complete expr 1 size) :
    Complete (disjunction expr) 2 (size + 1) := by
  have multiplicative : Complete (multiplicative expr) 7 (size + 1) :=
    chain_complete multiplicativeOp_operators (by decide) (by decide) (unary_complete h)
  have additive : Complete (additive expr) 6 (size + 1) :=
    chain_complete additiveOp_operators (by decide) (by decide) multiplicative
  have relational : Complete (relational expr) 5 (size + 1) :=
    chain_complete relationalOp_operators (by decide) (by decide) additive
  have equality : Complete (equality expr) 4 (size + 1) :=
    chain_complete equalityOp_operators (by decide) (by decide) relational
  have conjunction : Complete (conjunction expr) 3 (size + 1) :=
    chain_complete conj_operators (by decide) (by decide) equality
  exact chain_complete disj_operators (by decide) (by decide) conjunction

theorem ternary_complete (h : Complete expr 1 size) : Complete (ternary expr) 1 (size + 1) where
  gives {e} hs hl hn {ts} ht := by
    have disjunction := disjunction_complete h
    rcases Nat.lt_or_ge 1 e.level with hl' | hl'
    · have parts : Gives (do
          let condition ← Grammar.disjunction expr
          return (condition, ← optional (cases expr))) (e.tokens ++ ts)
          (fun r => r.1.unplaced = e.unplaced ∧ r.2 = none) ts :=
        .bind (disjunction.gives hs hl' hn (ht.mono (by decide))) fun _ he =>
          .bind (.optional_none (.bind_left (.token (ht.head_ne (by decide))))) fun _ hn =>
            .pure ⟨he, hn⟩
      refine .bind parts.spanned ?_
      rintro ⟨⟨e', _⟩, _⟩ ⟨he, rfl⟩
      exact .pure he
    · cases hs with
      | @ternary condition thenCase elseCase span hcl hc hth hel =>
          rw [Expr.tokens_ternary] at hn ⊢
          simp only [List.length_append, List.length_cons] at hn
          have branches : (cases expr).Gives
              (.symbol .question :: (thenCase.tokens ++ .symbol .colon :: (elseCase.tokens ++ ts)))
              (fun p => p.1.unplaced = thenCase.unplaced ∧ p.2.unplaced = elseCase.unplaced) ts :=
            .bind (.token _) fun _ _ => .bind
              (h.gives hth hth.one_le_level (by omega) (below_cons (by decide))) fun _ ha =>
                .bind (.token _) fun _ _ => .bind (h.gives hel hel.one_le_level (by omega) ht)
                  fun _ hb => .pure ⟨ha, hb⟩
          have parts : Gives (do
              let condition ← Grammar.disjunction expr
              return (condition, ← optional (cases expr)))
              (condition.tokens ++ .symbol .question :: (thenCase.tokens ++
                .symbol .colon :: (elseCase.tokens ++ ts)))
              (fun r => r.1.unplaced = condition.unplaced ∧ ∃ p, r.2 = some p ∧
                p.1.unplaced = thenCase.unplaced ∧ p.2.unplaced = elseCase.unplaced) ts :=
            .bind (disjunction.gives hc hcl (by omega) (below_cons (by decide))) fun _ he =>
              .bind (.optional_some branches) fun _ hp => .pure ⟨he, hp⟩
          simp only [List.append_assoc, List.cons_append]
          refine .bind parts.spanned ?_
          rintro ⟨⟨c, _⟩, _⟩ ⟨he, ⟨a, b⟩, rfl, ha, hb⟩
          exact .pure (by rw [Expr.unplaced, Expr.unplaced, he, ha, hb])
      | chain level hne _ _ hr _ =>
          rw [Expr.Shaped.level_chain hne hr] at hl'
          have := (Expr.Shaped.level_of_rest hne hr).1
          omega
      | unary | applied | primary => simp [Expr.level] at hl'
  fails {ts} hts := .bind_left (.spanned (.bind_left ((disjunction_complete h).fails hts)))

theorem tokens_ne_nil {e : Expr} (hs : e.Shaped) : e.tokens ≠ [] := by
  cases hs with
  | ternary => simp [Expr.tokens_ternary]
  | chain _ hn =>
      obtain ⟨p, ps, rfl⟩ := List.exists_cons_of_ne_nil hn
      simp [Expr.tokens_chain]
  | unary hn =>
      obtain ⟨op, ops, rfl⟩ := List.exists_cons_of_ne_nil hn
      simp [Expr.tokens_unary]
  | applied _ hp =>
      obtain ⟨t, ts, hp, -⟩ := primary_head hp
      simp [Expr.tokens_applied, hp]
  | primary hp =>
      obtain ⟨t, ts, hp, -⟩ := primary_head hp
      simp [Expr.tokens_primary, hp]

theorem expressionWithin_complete (depth : Nat) : Complete (expressionWithin depth) 1 depth := by
  induction depth with
  | zero =>
      refine ⟨fun {e} hs _ hn {ts} _ => ?_, fun _ => ⟨fun _ => ⟨_, rfl⟩⟩⟩
      exact absurd (List.length_eq_zero_iff.1 (Nat.le_zero.1 hn)) (tokens_ne_nil hs)
  | succ depth ih => exact ternary_complete ih

/-- No expression is too deep for the tokens that it is written with. -/
theorem expression_complete (size : Nat) : Complete expression 1 size where
  gives {e} hs hl _ {ts} ht := by
    refine ⟨fun {c} hc => ?_⟩
    have hn : e.tokens.length ≤ c.rest.length + 1 := by
      rw [← Cursor.tokens_length, hc, List.length_append]
      omega
    exact ((expressionWithin_complete _).gives hs hl hn ht).given hc
  fails hts := ⟨fun hc => ((expressionWithin_complete _).fails hts).failed hc⟩

end Grammar

end Markup

end Template
