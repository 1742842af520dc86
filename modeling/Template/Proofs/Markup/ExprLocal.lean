import Template.Proofs.Markup.Local

/-!
Expressions are read alike wherever they stand: two parsers of the grammar, also such as may go
differently deep, make the same expression of the same tokens, up to spans, if only a comma or a
bracket that closes stands behind these, or nothing.
-/

namespace Template.Markup.Grammar

open Template.Markup.Parser

/-- Alike on fewer than `size` tokens in front of the end of an expression. -/
abbrev Matching {α β : Type} (size : Nat) (erase : α → β) (p p' : Parser α) : Prop :=
  Local (Token.endsExpr ·) size (fun a a' => erase a = erase a') p p'

variable {size : Nat} {expr expr' : Parser Expr}

/-- A token that does not stand behind an expression. -/
theorem select_matching {α : Type} {f : Token → Option α}
    (hf : ∀ t ∈ [Token.symbol .comma, .directive .close, .symbol .closeParen, .symbol .closeBracket,
      .symbol .closeBrace], f t = none) : Matching size id (select f) (select f) := by
  refine (Local.select fun t ht => hf t ?_).mono fun _ _ he => he
  rcases Token.cases_of_endsExpr ht with rfl | rfl | rfl | rfl | rfl <;> simp

theorem identifier_matching : Matching size id identifier identifier :=
  .labelled (select_matching (by simp))

theorem property_matching : Matching size Suffix.unplaced property property := by
  refine .bind (.spanned (.bind (.token (by decide)) fun _ _ _ => identifier_matching)) ?_
  rintro ⟨_, _⟩ ⟨_, _⟩ ⟨⟩
  exact .pure rfl

section Bracketed

variable (h : Matching size Expr.unplaced expr expr')

include h

theorem Matching.closing :
    Local (Token.closes ·) size (fun e e' => e.unplaced = e'.unplaced) expr expr' :=
  h.stricter fun _ => Token.endsExpr_of_closes

theorem items_matching :
    Local (Token.closes ·) size (fun es es' => unplacedItems es = unplacedItems es')
      (items true (Parser.symbol .comma) expr) (items true (Parser.symbol .comma) expr') := by
  refine (Local.items true (by decide) (Matching.closing h)).mono fun es es' he => ?_
  induction he with
  | nil => rfl
  | cons he _ ih => rw [unplacedItems, unplacedItems, he, ih]

theorem call_matching : Matching (size + 1) Suffix.unplaced (call expr) (call expr') := by
  refine .bind (.spanned ((items_matching h).between (by decide) (by decide))) ?_
  rintro ⟨es, _⟩ ⟨es', _⟩ he
  exact .pure (congrArg (Suffix.call · default) he)

theorem index_matching : Matching (size + 1) Suffix.unplaced (index expr) (index expr') := by
  refine .bind (.spanned ((Matching.closing h).between (by decide) (by decide))) ?_
  rintro ⟨e, _⟩ ⟨e', _⟩ he
  exact .pure (congrArg (Suffix.index · default) he)

theorem suffix_matching : Matching (size + 1) Suffix.unplaced (suffix expr) (suffix expr') :=
  .choice (.cons property_matching (.cons (call_matching h) (.cons (index_matching h) .nil)))

theorem suffixes_matching :
    Matching (size + 1) unplacedSuffixes (many (suffix expr)) (many (suffix expr')) := by
  refine (suffix_matching h).many.mono fun ss ss' hs => ?_
  induction hs with
  | nil => rfl
  | cons hs _ ih => rw [unplacedSuffixes, unplacedSuffixes, hs, ih]

theorem formalBody_matching :
    Matching (size + 1) Expr.unplaced (formalBody expr) (formalBody expr') := by
  refine .bind (Local.spanned (R := fun r r' : Primary × List Suffix =>
    (r.1.unplaced, unplacedSuffixes r.2) = (r'.1.unplaced, unplacedSuffixes r'.2)) ?_) ?_
  · refine .bind identifier_matching.spanned ?_
    rintro ⟨name, _⟩ ⟨_, _⟩ ⟨⟩
    exact .bind (suffixes_matching h) fun _ _ he => .pure (Prod.ext rfl he)
  · rintro ⟨⟨p, ss⟩, _⟩ ⟨⟨p', ss'⟩, _⟩ he
    obtain ⟨hp, hs⟩ := Prod.mk.inj he
    refine .pure ?_
    rw [unplaced_withSuffixes, unplaced_withSuffixes, hp, hs]

theorem formal_matching :
    Matching (size + 1) (fun r => (r.1.1, r.1.2.unplaced)) (formal expr) (formal expr') := by
  refine Local.spanned (R := fun r r' : Bool × Expr =>
    (r.1, r.2.unplaced) = (r'.1, r'.2.unplaced)) ?_
  refine .bracket (select_matching (by simp)) formalToken_takes (fun _ => rfl) fun quiet => ?_
  exact (((formalBody_matching h).smaller (Nat.le_succ size)).stricter
    fun _ => Token.endsExpr_of_closes).inside .closeBrace fun _ _ he => Prod.ext rfl he

theorem formalPrimary_matching :
    Matching (size + 1) Primary.unplaced (formalPrimary expr) (formalPrimary expr') := by
  refine .bind (formal_matching h) ?_
  rintro ⟨⟨quiet, e⟩, _⟩ ⟨⟨quiet', e'⟩, _⟩ he
  obtain ⟨rfl, he⟩ := Prod.mk.inj he
  exact .pure (congrArg (Primary.formal · quiet default) he)

theorem group_matching : Matching (size + 1) Primary.unplaced (group expr) (group expr') := by
  refine .bind (.spanned ((Matching.closing h).between (by decide) (by decide))) ?_
  rintro ⟨e, _⟩ ⟨e', _⟩ he
  exact .pure (congrArg (Primary.group · default) he)

theorem range_matching : Matching (size + 1) Primary.unplaced (range expr) (range expr') := by
  have parts : Local (Token.closes ·) size
      (fun r r' => (r.1.unplaced, r.2.unplaced) = (r'.1.unplaced, r'.2.unplaced))
      (do let first ← expr; Parser.symbol .dots; return (first, ← expr))
      (do let first ← expr'; Parser.symbol .dots; return (first, ← expr')) :=
    .bind (Matching.closing h) fun _ _ hf => .bind (.token (by decide)) fun _ _ _ =>
      .bind (Matching.closing h) fun _ _ hl => .pure (Prod.ext hf hl)
  refine .bind (.spanned (parts.between (by decide) (by decide))) ?_
  rintro ⟨⟨a, b⟩, _⟩ ⟨⟨a', b'⟩, _⟩ he
  obtain ⟨ha, hb⟩ := Prod.mk.inj he
  exact .pure (by rw [Primary.unplaced, Primary.unplaced, ha, hb])

theorem list_matching : Matching (size + 1) Primary.unplaced (list expr) (list expr') := by
  refine .bind (.spanned ((items_matching h).between (by decide) (by decide))) ?_
  rintro ⟨es, _⟩ ⟨es', _⟩ he
  exact .pure (congrArg (Primary.list · default) he)

theorem mapEntry_matching :
    Matching size (fun p => (p.1, p.2.unplaced)) (mapEntry expr) (mapEntry expr') := by
  have key : Matching size id mapKey mapKey := .labelled (select_matching (by simp))
  exact .bind key fun _ _ hk => .bind (.token (by decide)) fun _ _ _ => .bind h fun _ _ he =>
    .pure (Prod.ext hk he)

theorem map_matching : Matching (size + 1) Primary.unplaced (map expr) (map expr') := by
  have entries : Local (Token.closes ·) size
      (fun ps ps' => unplacedEntries ps = unplacedEntries ps')
      (items true (Parser.symbol .comma) (mapEntry expr))
      (items true (Parser.symbol .comma) (mapEntry expr')) := by
    refine (Local.items true (by decide)
      ((mapEntry_matching h).stricter fun _ => Token.endsExpr_of_closes)).mono fun ps ps' hp => ?_
    induction hp with
    | nil => rfl
    | @cons p p' _ _ hp _ ih =>
        obtain ⟨hk, he⟩ := Prod.mk.inj hp
        rw [unplacedEntries, unplacedEntries, hk, he, ih]
  refine .bind (.spanned (entries.between (by decide) (by decide))) ?_
  rintro ⟨ps, _⟩ ⟨ps', _⟩ he
  exact .pure (congrArg (Primary.map · default) he)

omit h in
theorem literal_matching : Matching size Primary.unplaced literal literal := by
  refine .bind (select_matching (by simp)).spanned ?_
  rintro ⟨value, _⟩ ⟨_, _⟩ ⟨⟩
  exact .pure rfl

omit h in
theorem reference_matching : Matching size Primary.unplaced reference reference := by
  refine .labelled (.bind (select_matching (by simp)).spanned ?_)
  rintro ⟨⟨name, quiet⟩, _⟩ ⟨_, _⟩ ⟨⟩
  exact .pure rfl

theorem primary_matching : Matching (size + 1) Primary.unplaced (primary expr) (primary expr') :=
  .labelled (.choice (.cons literal_matching (.cons reference_matching
    (.cons (formalPrimary_matching h) (.cons (group_matching h) (.cons (range_matching h)
      (.cons (list_matching h) (.cons (map_matching h) .nil))))))))

theorem operand_matching : Matching (size + 1) Expr.unplaced (operand expr) (operand expr') := by
  have parts : Matching (size + 1) (fun r => (r.1.unplaced, unplacedSuffixes r.2))
      (do let first ← primary expr; return (first, ← many (suffix expr)))
      (do let first ← primary expr'; return (first, ← many (suffix expr'))) :=
    .bind (primary_matching h) fun _ _ hp => .bind (suffixes_matching h) fun _ _ hs =>
      .pure (Prod.ext hp hs)
  refine .bind parts.spanned ?_
  rintro ⟨⟨p, ss⟩, _⟩ ⟨⟨p', ss'⟩, _⟩ he
  obtain ⟨hp, hs⟩ := Prod.mk.inj he
  exact .pure (by rw [unplaced_withSuffixes, unplaced_withSuffixes, hp, hs])

theorem unary_matching : Matching (size + 1) Expr.unplaced (unary expr) (unary expr') := by
  have operators : Matching (size + 1) id (many unaryOp) (many unaryOp) :=
    (select_matching (by simp)).many.mono fun _ _ ho => by
      simpa using ho
  have parts : Matching (size + 1) (fun r => (r.1, r.2.unplaced))
      (do let operators ← many unaryOp; return (operators, ← operand expr))
      (do let operators ← many unaryOp; return (operators, ← operand expr')) :=
    .bind operators fun _ _ ho => .bind (operand_matching h) fun _ _ he => .pure (Prod.ext ho he)
  refine .bind parts.spanned ?_
  rintro ⟨⟨ops, e⟩, _⟩ ⟨⟨ops', e'⟩, _⟩ he
  obtain ⟨rfl, he⟩ := Prod.mk.inj he
  cases ops with
  | nil => exact .pure he
  | cons op ops => exact .pure (by rw [Expr.unplaced, Expr.unplaced, he])

end Bracketed

theorem chain_matching {operators : Parser BinaryOp} {inner inner' : Parser Expr}
    (ho : Matching size id operators operators) (h : Matching size Expr.unplaced inner inner') :
    Matching size Expr.unplaced (chain operators inner) (chain operators inner') := by
  have link : Matching size (fun p => (p.1, p.2.unplaced))
      (do let op ← operators; return (op, ← inner))
      (do let op ← operators; return (op, ← inner')) :=
    .bind ho fun _ _ ho => .bind h fun _ _ he => .pure (Prod.ext ho he)
  have parts : Matching size (fun r => (r.1.unplaced, unplacedRest r.2))
      (do
        let first ← inner
        let rest ← many do
          let op ← operators
          return (op, ← inner)
        return (first, rest))
      (do
        let first ← inner'
        let rest ← many do
          let op ← operators
          return (op, ← inner')
        return (first, rest)) := by
    refine .bind h fun _ _ hf => .bind link.many fun rest rest' hr => .pure (Prod.ext hf ?_)
    induction hr with
    | nil => rfl
    | cons hp _ ih =>
        obtain ⟨ho, he⟩ := Prod.mk.inj hp
        simp only at ih ⊢
        rw [unplacedRest, unplacedRest, ho, he, ih]
  refine .bind parts.spanned ?_
  rintro ⟨⟨e, rest⟩, _⟩ ⟨⟨e', rest'⟩, _⟩ he
  obtain ⟨he, hr⟩ := Prod.mk.inj he
  cases rest with
  | nil =>
      cases rest' with
      | nil => exact .pure he
      | cons => cases hr
  | cons p ps =>
      cases rest' with
      | nil => cases hr
      | cons p' ps' => exact .pure (by rw [Expr.unplaced, Expr.unplaced, he, hr])

section Operators

variable (h : Matching size Expr.unplaced expr expr')

include h

theorem disjunction_matching :
    Matching (size + 1) Expr.unplaced (disjunction expr) (disjunction expr') := by
  have sign {s : Symbol} {op : BinaryOp} (hs : Token.endsExpr (.symbol s) = false) :
      Matching (size + 1) id (do Parser.symbol s; return op) (do Parser.symbol s; return op) :=
    .bind (.token (by simp [hs])) fun _ _ _ => .pure rfl
  exact chain_matching (sign rfl) (chain_matching (sign rfl)
    (chain_matching (select_matching (by simp [equalityOp]))
      (chain_matching (select_matching (by simp [relationalOp]))
        (chain_matching (select_matching (by simp [additiveOp]))
          (chain_matching (select_matching (by simp [multiplicativeOp])) (unary_matching h))))))

theorem ternary_matching : Matching (size + 1) Expr.unplaced (ternary expr) (ternary expr') := by
  have rest : Matching size (fun b => (b.1.unplaced, b.2.unplaced))
      (do let thenCase ← expr; Parser.symbol .colon; return (thenCase, ← expr))
      (do let thenCase ← expr'; Parser.symbol .colon; return (thenCase, ← expr')) :=
    .bind h fun _ _ ht => .bind (.token (by decide)) fun _ _ _ => .bind h fun _ _ he =>
      .pure (Prod.ext ht he)
  have branches : Matching (size + 1) (fun b => (b.1.unplaced, b.2.unplaced)) (cases expr)
      (cases expr') := rest.behind (by decide)
  have parts : Local (Token.endsExpr ·) (size + 1)
      (fun r r' => r.1.unplaced = r'.1.unplaced ∧ Option.Rel
        (fun b b' => (b.1.unplaced, b.2.unplaced) = (b'.1.unplaced, b'.2.unplaced)) r.2 r'.2)
      (do let condition ← disjunction expr; return (condition, ← optional (cases expr)))
      (do let condition ← disjunction expr'; return (condition, ← optional (cases expr'))) :=
    .bind (disjunction_matching h) fun _ _ hc =>
      .bind branches.optional fun _ _ hb => .pure ⟨hc, hb⟩
  refine .bind parts.spanned ?_
  rintro ⟨⟨e, b⟩, _⟩ ⟨⟨e', b'⟩, _⟩ ⟨he, hb⟩
  cases hb with
  | none => exact .pure he
  | some hb =>
      obtain ⟨ht, hl⟩ := Prod.mk.inj hb
      exact .pure (by rw [Expr.unplaced, Expr.unplaced, he, ht, hl])

end Operators

/-- How deep the parsers may go does not matter, if there are not more tokens. -/
theorem expressionWithin_matching {size depth depth' : Nat} (hd : size ≤ depth)
    (hd' : size ≤ depth') :
    Matching size Expr.unplaced (expressionWithin depth) (expressionWithin depth') := by
  induction size generalizing depth depth' with
  | zero => exact ⟨fun _ few => absurd few (Nat.not_lt_zero _)⟩
  | succ size ih =>
      obtain ⟨depth, rfl⟩ := Nat.exists_eq_succ_of_ne_zero (by omega : depth ≠ 0)
      obtain ⟨depth', rfl⟩ := Nat.exists_eq_succ_of_ne_zero (by omega : depth' ≠ 0)
      exact ternary_matching (ih (by omega) (by omega))

theorem expression_matching {size depth : Nat} (hd : size ≤ depth) :
    Matching size Expr.unplaced expression (expressionWithin depth) := by
  refine ⟨fun {ts _ _ c c'} hc few => ?_⟩
  have tokens : ts.length ≤ c.rest.length := by
    rw [← Cursor.tokens_length, hc.tokens, List.length_append]
    omega
  have within : Matching (ts.length + 1) Expr.unplaced (expressionWithin (c.rest.length + 1))
      (expressionWithin depth) := expressionWithin_matching (by omega) (by omega)
  exact within.alike hc (Nat.lt_succ_self _)

end Template.Markup.Grammar
