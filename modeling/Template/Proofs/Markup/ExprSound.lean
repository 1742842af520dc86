import Template.Proofs.Markup.Shape
import Template.Proofs.Markup.Yields

/-!
Expressions are read as they are written: what the grammar makes of tokens has the shape of an
expression and is laid out as these tokens.
-/

namespace Template.Markup.Grammar

open Template.Markup.Parser

/-- The parser reads expressions of a level or tighter ones. -/
def Sound (level : Nat) (p : Parser Expr) : Prop :=
  p.Takes (fun e => [e.layout]) fun e => e.Shaped ∧ level ≤ e.level

theorem identifier_takes : identifier.Takes (fun name => [.token (.ident name)]) fun _ => True := by
  refine .labelled (Takes.select fun t name span ht => ?_)
  split at ht <;> cases ht
  exact ⟨.token .nil, trivial⟩

theorem referenceToken_takes :
    Takes (select fun
      | .reference name quiet => some (name, quiet)
      | _ => none) (fun r => [.token (.reference r.1 r.2)]) fun _ => True := by
  refine .select fun t r span ht => ?_
  split at ht <;> cases ht
  exact ⟨.token .nil, trivial⟩

theorem reference_takes :
    reference.Takes (fun p => [p.layout]) fun p =>
      ∃ name quiet span, p = .reference name quiet span :=
  .labelled (.bind (referenceToken_takes.spanned fun _ _ => Fits.token_ne_nil)
    fun ((_, _), _) _ ⟨hf, _⟩ => .pure ⟨hf, _, _, _, rfl⟩)

variable {expr : Parser Expr} {level : Nat}

theorem property_takes : property.Takes (fun s => [s.layout]) Suffix.Shaped := by
  have inner : Takes (do Parser.symbol .dot; identifier)
      (fun name => [.symbol .dot, .token (.ident name)]) fun _ => True :=
    .bind (Takes.symbol .dot) fun _ _ ⟨hd, _⟩ => .last identifier_takes fun _ _ ⟨hn, _⟩ =>
      ⟨hd.append hn, trivial⟩
  exact .bind (inner.spanned fun _ _ => Fits.token_ne_nil) fun (_, _) _ ⟨hf, _⟩ =>
    .pure ⟨hf, .property⟩

theorem Sound.shaped (h : Sound level expr) : expr.Takes (fun e => [e.layout]) Expr.Shaped :=
  h.mono fun _ _ ⟨hf, hs, _⟩ => ⟨hf, hs⟩

theorem items_takes (h : Sound level expr) :
    (items true (Parser.symbol .comma) expr).Takes (fun es => Layout.separated (layoutItems es))
      fun es => ∀ e ∈ es, e.Shaped := by
  simp only [layoutItems_eq]
  exact .items true h.shaped

theorem call_takes (h : Sound level expr) : (call expr).Takes (fun s => [s.layout]) Suffix.Shaped :=
  .bind ((items_takes h).between.spanned fun _ _ => Fits.token_ne_nil)
    fun (_, _) _ ⟨hf, hs⟩ => .pure ⟨hf, .call hs⟩

theorem index_takes (h : Sound level expr) :
    (index expr).Takes (fun s => [s.layout]) Suffix.Shaped :=
  .bind (h.between.spanned fun _ _ => Fits.token_ne_nil)
    fun (_, _) _ ⟨hf, hs, _⟩ => .pure ⟨hf, .index hs⟩

theorem suffix_takes (h : Sound level expr) :
    (suffix expr).Takes (fun s => [s.layout]) Suffix.Shaped :=
  .choice (by simpa using ⟨property_takes, call_takes h, index_takes h⟩)

theorem suffixes_takes (h : Sound level expr) :
    (many (suffix expr)).Takes layoutSuffixes fun ss => ∀ s ∈ ss, s.Shaped := by
  rw [show layoutSuffixes = _ from funext layoutSuffixes_eq]
  exact .many (suffix_takes h)

theorem nameAndSuffixes_yield (h : Sound level expr) :
    Yields (do
      let (name, span) ← spanned identifier
      return (Primary.reference name false span, ← many (suffix expr))) fun r ls =>
      ∃ name place, r.1 = .reference name false place ∧
        Fits (.part place [.token (.ident name)] :: layoutSuffixes r.2) ls ∧
        ∀ s ∈ r.2, s.Shaped :=
  .bind (identifier_takes.spanned fun _ _ => Fits.token_ne_nil)
    fun (name, place) _ ⟨hf, _⟩ => .bind (suffixes_takes h)
      fun _ _ ⟨hf', hs⟩ => .pure ⟨name, place, rfl, hf.append hf', hs⟩

theorem formalBody_takes (h : Sound level expr) :
    (formalBody expr).Takes (fun e => [e.layoutInBraces]) fun e => e.Named false ∧ e.Shaped := by
  refine .bind ((nameAndSuffixes_yield h).spanned ?_) fun ((primary, suffixes), span) ls
    ⟨⟨name, place, hp, hf, hs⟩, covers⟩ => .pure ?_
  · rintro r ls ⟨name, place, -, hf, -⟩
    exact hf.part_ne_nil
  · cases hp
    cases suffixes with
    | nil => exact ⟨hf, .primary, .primary .reference⟩
    | cons s ss => exact ⟨.only hf covers, .applied, .applied (by simp) .reference hs⟩

theorem formalToken_takes :
    Takes (select fun
      | .formal quiet => some quiet
      | _ => none) (fun quiet => [.token (.formal quiet)]) fun _ => True := by
  refine .select fun t quiet span ht => ?_
  split at ht <;> cases ht
  exact ⟨.token .nil, trivial⟩

theorem formalParts_take (h : Sound level expr) :
    Takes (do
      let quiet ← select fun
        | .formal quiet => some quiet
        | _ => none
      let inner ← formalBody expr
      Parser.symbol .closeBrace
      return (quiet, inner))
      (fun r => [.token (.formal r.1), r.2.layoutInBraces, .symbol .closeBrace])
      fun r => r.2.Named false ∧ r.2.Shaped :=
  .bind formalToken_takes fun _ _ ⟨ho, _⟩ => .bind (formalBody_takes h) fun _ _ ⟨hf, hP⟩ =>
    .bind (Takes.symbol .closeBrace) fun _ _ ⟨hc, _⟩ => .pure ⟨(ho.append hf).append hc, hP⟩

theorem formal_takes (h : Sound level expr) :
    (formal expr).Takes
      (fun r => [.part r.2 [.token (.formal r.1.1), r.1.2.layoutInBraces, .symbol .closeBrace]])
      fun r => r.1.2.Named false ∧ r.1.2.Shaped :=
  (formalParts_take h).spanned fun _ _ => Fits.token_ne_nil

theorem literalToken_takes :
    Takes (select fun
      | .str raw => some (Literal.str raw)
      | .number raw => some (Literal.number raw)
      | .reserved .yes => some (Literal.bool true)
      | .reserved .no => some (Literal.bool false)
      | .reserved .null => some Literal.null
      | _ => none) (fun value => [.token value.token]) fun _ => True := by
  refine .select fun t value span ht => ⟨?_, trivial⟩
  split at ht <;> cases ht <;> exact .token .nil

theorem literal_takes : literal.Takes (fun p => [p.layout]) Primary.Shaped :=
  .bind (literalToken_takes.spanned fun _ _ => Fits.token_ne_nil) fun (_, _) _ ⟨hf, _⟩ =>
    .pure ⟨hf, .literal⟩

theorem group_takes (h : Sound level expr) :
    (group expr).Takes (fun p => [p.layout]) Primary.Shaped :=
  .bind (h.between.spanned fun _ _ => Fits.token_ne_nil)
    fun (_, _) _ ⟨hf, hs, _⟩ => .pure ⟨hf, .group hs⟩

theorem range_takes (h : Sound level expr) :
    (range expr).Takes (fun p => [p.layout]) Primary.Shaped := by
  have inner : Takes (do
      let first ← expr
      Parser.symbol .dots
      return (first, ← expr)) (fun r => [r.1.layout, .symbol .dots, r.2.layout])
      fun r => r.1.Shaped ∧ r.2.Shaped :=
    .bind h fun _ _ ⟨hf, hs, _⟩ => .bind (Takes.symbol .dots) fun _ _ ⟨hd, _⟩ =>
      .bind h fun _ _ ⟨hf', hs', _⟩ => .pure ⟨(hf.append hd).append hf', hs, hs'⟩
  exact .bind (inner.between.spanned fun _ _ => Fits.token_ne_nil)
    fun ((_, _), _) _ ⟨hf, hs, hs'⟩ => .pure ⟨hf, .range hs hs'⟩

theorem list_takes (h : Sound level expr) :
    (list expr).Takes (fun p => [p.layout]) Primary.Shaped :=
  .bind ((items_takes h).between.spanned fun _ _ => Fits.token_ne_nil)
    fun (_, _) _ ⟨hf, hs⟩ => .pure ⟨hf, .list hs⟩

theorem mapKey_takes : mapKey.Takes (fun key => [.token key.token]) fun _ => True := by
  refine .labelled (Takes.select fun t key span ht => ?_)
  split at ht <;> cases ht <;> exact ⟨.token .nil, trivial⟩

theorem mapEntry_takes (h : Sound level expr) :
    (mapEntry expr).Takes (fun p => [.token p.1.token, .symbol .colon, p.2.layout])
      fun p => p.2.Shaped :=
  .bind mapKey_takes fun _ _ ⟨hk, _⟩ => .bind (Takes.symbol .colon) fun _ _ ⟨hc, _⟩ =>
    .bind h fun _ _ ⟨hf, hs, _⟩ => .pure ⟨(hk.append hc).append hf, hs⟩

theorem map_takes (h : Sound level expr) :
    (map expr).Takes (fun p => [p.layout]) Primary.Shaped := by
  have entries : (items true (Parser.symbol .comma) (mapEntry expr)).Takes
      (fun ps => Layout.separated (layoutEntries ps)) fun ps => ∀ p ∈ ps, p.2.Shaped := by
    simp only [layoutEntries_eq]
    exact .items true (mapEntry_takes h)
  exact .bind (entries.between.spanned fun _ _ => Fits.token_ne_nil)
    fun (_, _) _ ⟨hf, hs⟩ => .pure ⟨hf, .map hs⟩

theorem formalPrimary_takes (h : Sound level expr) :
    (formalPrimary expr).Takes (fun p => [p.layout]) Primary.Shaped :=
  .bind (formal_takes h) fun ((_, _), _) _ ⟨hf, hn, hs⟩ => .pure ⟨hf, .formal hn hs⟩

theorem primary_takes (h : Sound level expr) :
    (primary expr).Takes (fun p => [p.layout]) Primary.Shaped := by
  have reference : reference.Takes (fun p => [p.layout]) Primary.Shaped :=
    reference_takes.mono fun p ls ⟨hf, _, _, _, hp⟩ => ⟨hf, hp ▸ .reference⟩
  exact .labelled (.choice (by simpa using ⟨literal_takes, reference, formalPrimary_takes h,
    group_takes h, range_takes h, list_takes h, map_takes h⟩))

theorem operand_sound (h : Sound level expr) : Sound 9 (operand expr) := by
  have inner : Takes (do
      let first ← primary expr
      return (first, ← many (suffix expr))) (fun r => r.1.layout :: layoutSuffixes r.2)
      fun r => r.1.Shaped ∧ ∀ s ∈ r.2, s.Shaped :=
    .bind (primary_takes h) fun _ _ ⟨hf, hp⟩ => .bind (suffixes_takes h) fun _ _ ⟨hf', hs⟩ =>
      .pure ⟨hf.append hf', hp, hs⟩
  refine .bind (Yields.spanned inner fun r _ h => Fits.expr_ne_nil (e := .primary r.1) h.1)
    fun ((first, suffixes), span) ls ⟨⟨hf, hp, hs⟩, covers⟩ => .pure ?_
  cases suffixes with
  | nil => exact ⟨hf, .primary hp, Nat.le_refl 9⟩
  | cons s ss => exact ⟨.only hf covers, .applied (by simp) hp hs, Nat.le_refl 9⟩

theorem unaryOp_takes : unaryOp.Takes (fun op => [.token op.token]) fun _ => True := by
  refine .select fun t op span ht => ⟨?_, trivial⟩
  split at ht <;> cases ht <;> exact .token .nil

theorem unary_sound (h : Sound level expr) : Sound 8 (unary expr) := by
  have inner : Yields (do
      let operators ← many unaryOp
      return (operators, ← operand expr)) fun r ls => ls ≠ [] ∧
      Fits (r.1.flatMap (fun op => [.token op.token]) ++ [r.2.layout]) ls ∧
        r.2.Shaped ∧ 9 ≤ r.2.level :=
    .bind (Takes.many unaryOp_takes) fun _ _ ⟨hf, _⟩ => .bind (operand_sound h)
      fun _ _ ⟨hf', hs, hl⟩ => .pure ⟨by simp [hf'.expr_ne_nil], hf.append hf', hs, hl⟩
  refine .bind (inner.spanned fun _ _ h => h.1) fun ((operators, e), span) ls
    ⟨⟨_, hf, hs, hl⟩, covers⟩ => ?_
  cases operators with
  | nil => exact .pure ⟨hf, hs, Nat.le_of_succ_le hl⟩
  | cons op ops =>
      refine .pure ⟨.only ?_ covers, .unary (by simp) hl hs, Nat.le_refl 8⟩
      rw [List.map_eq_flatMap]
      exact hf

/-- The operators of a level stand between operands of the next one. -/
theorem chain_sound {operators : Parser BinaryOp} {inner : Parser Expr}
    (ho : operators.Takes (fun op => [.token op.token]) fun op => op.level = level)
    (hi : Sound (level + 1) inner) : Sound level (chain operators inner) := by
  have pair : Takes (do
      let op ← operators
      return (op, ← inner)) (fun p => [.token p.1.token, p.2.layout])
      fun p => (p.1.level = level ∧ level < p.2.level) ∧ p.2.Shaped :=
    .bind ho fun _ _ ⟨hf, hl⟩ => .bind hi fun _ _ ⟨hf', hs, hl'⟩ =>
      .pure ⟨hf.append hf', ⟨hl, hl'⟩, hs⟩
  have whole : Takes (do
      let first ← inner
      let rest ← many do
        let op ← operators
        return (op, ← inner)
      return (first, rest)) (fun r => r.1.layout :: layoutRest r.2)
      fun r => (r.1.Shaped ∧ level < r.1.level) ∧
        ∀ p ∈ r.2, (p.1.level = level ∧ level < p.2.level) ∧ p.2.Shaped := by
    simp only [layoutRest_eq]
    exact .bind hi fun _ _ ⟨hf, hs, hl⟩ => .bind pair.many fun _ _ ⟨hf', hp⟩ =>
      .pure ⟨hf.append hf', ⟨hs, hl⟩, hp⟩
  refine .bind (Yields.spanned whole fun _ _ h => h.1.expr_ne_nil) fun ((first, rest), span) ls
    ⟨⟨hf, ⟨hs, hl⟩, hr⟩, covers⟩ => ?_
  cases rest with
  | nil => exact .pure ⟨hf, hs, Nat.le_of_lt hl⟩
  | cons p ps =>
      refine .pure ⟨.only hf covers, .chain level (by simp) hl hs (fun q hq => (hr q hq).1)
        (fun q hq => (hr q hq).2), ?_⟩
      exact Nat.le_of_eq (hr p (by simp)).1.1.symm

theorem select_operator_takes {f : Token → Option BinaryOp}
    (h : ∀ t op, f t = some op → t = op.token ∧ op.level = level) :
    (select f).Takes (fun op => [.token op.token]) fun op => op.level = level := by
  refine .select fun t op span ht => ?_
  obtain ⟨rfl, hlevel⟩ := h t op ht
  exact ⟨.token .nil, hlevel⟩

theorem disjunction_sound (h : Sound level expr) : Sound 2 (disjunction expr) := by
  have multiplicative : Sound 7 (multiplicative expr) :=
    chain_sound (select_operator_takes fun t op ht => by
      unfold multiplicativeOp at ht; split at ht <;> cases ht <;> exact ⟨rfl, rfl⟩) (unary_sound h)
  have additive : Sound 6 (additive expr) :=
    chain_sound (select_operator_takes fun t op ht => by
      unfold additiveOp at ht; split at ht <;> cases ht <;> exact ⟨rfl, rfl⟩) multiplicative
  have relational : Sound 5 (relational expr) :=
    chain_sound (select_operator_takes fun t op ht => by
      unfold relationalOp at ht; split at ht <;> cases ht <;> exact ⟨rfl, rfl⟩) additive
  have equality : Sound 4 (equality expr) :=
    chain_sound (select_operator_takes fun t op ht => by
      unfold equalityOp at ht; split at ht <;> cases ht <;> exact ⟨rfl, rfl⟩) relational
  have conjunction : Sound 3 (conjunction expr) :=
    chain_sound (.bind (Takes.symbol .conj) fun _ _ ⟨hf, _⟩ => .pure ⟨hf, rfl⟩) equality
  exact chain_sound (.bind (Takes.symbol .disj) fun _ _ ⟨hf, _⟩ => .pure ⟨hf, rfl⟩) conjunction

theorem ternary_sound (h : Sound level expr) : Sound 1 (ternary expr) := by
  have branches : (cases expr).Takes
      (fun p => [.symbol .question, p.1.layout, .symbol .colon, p.2.layout])
      fun p => p.1.Shaped ∧ p.2.Shaped :=
    .bind (Takes.symbol .question) fun _ _ ⟨hq, _⟩ => .bind h fun _ _ ⟨hf, hs, _⟩ =>
      .bind (Takes.symbol .colon) fun _ _ ⟨hc, _⟩ => .bind h fun _ _ ⟨hf', hs', _⟩ =>
        .pure ⟨((hq.append hf).append hc).append hf', hs, hs'⟩
  have inner : Yields (do
      let condition ← disjunction expr
      return (condition, ← optional (cases expr))) fun r ls =>
      (r.1.Shaped ∧ 2 ≤ r.1.level) ∧
        match r.2 with
        | none => Fits [r.1.layout] ls
        | some p => Fits [r.1.layout, .symbol .question, p.1.layout, .symbol .colon, p.2.layout] ls ∧
            p.1.Shaped ∧ p.2.Shaped := by
    refine .bind (disjunction_sound h) fun e ls ⟨hf, hs⟩ => .bind (Yields.optional branches) ?_
    rintro _ ls' (⟨rfl, rfl⟩ | ⟨p, rfl, hf', hp⟩)
    · exact .pure ⟨hs, by rw [List.append_nil]; exact hf⟩
    · exact .pure ⟨hs, hf.append hf', hp⟩
  refine .bind (inner.spanned ?_) fun ((condition, branches), span) ls ⟨⟨⟨hs, hl⟩, hr⟩, covers⟩ => ?_
  · rintro ⟨e, _ | p⟩ ls ⟨-, hr⟩
    · exact hr.expr_ne_nil
    · exact hr.1.expr_ne_nil
  · cases branches with
    | none => exact .pure ⟨hr, hs, Nat.le_of_succ_le hl⟩
    | some p => exact .pure ⟨.only hr.1 covers, .ternary hl hs hr.2.1 hr.2.2, Nat.le_refl 1⟩

theorem expressionWithin_sound (depth : Nat) : Sound 0 (expressionWithin depth) := by
  induction depth with
  | zero => exact Yields.fail
  | succ depth ih => exact (ternary_sound ih).mono fun _ _ ⟨hf, hs, _⟩ => ⟨hf, hs, Nat.zero_le _⟩

theorem expression_sound : Sound 0 expression :=
  ⟨fun h => (expressionWithin_sound _).taken h⟩

end Template.Markup.Grammar
