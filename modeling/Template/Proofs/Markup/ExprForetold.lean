import Template.Proofs.Markup.Foretold

/-!
Expressions take what they expect: the grammar of expressions, with its eight levels of operators and
its choice between a range and a list, which begin alike.
-/

namespace Template.Markup.Grammar

open Template.Markup.Parser

variable {size : Nat} {expr expr' : Parser Expr}

theorem identifier_foretells : Foretells size identifier identifier := .labelled (.select _)

theorem reference_foretells : Foretells size reference reference :=
  .labelled (.bind (.spanned (.select _)) fun _ _ => .pure _ _)

theorem property_foretells : Foretells size property property :=
  .bind (.spanned (.bind (.symbol .dot) fun _ _ => identifier_foretells)) fun _ _ => .pure _ _

theorem literal_foretells : Foretells size literal literal :=
  .bind (.spanned (.select _)) fun _ _ => .pure _ _

/-- The kinds of suffixes, with the tokens that they begin with. -/
def suffixes (expr : Parser Expr) : List (Token × Parser Suffix) :=
  [(.symbol .dot, property), (.symbol .openParen, call expr), (.symbol .openBracket, index expr)]

theorem suffixes_start (expr : Parser Expr) : ∀ a ∈ suffixes expr, Starts a.1 a.2 := by
  simp only [suffixes, List.forall_mem_cons]
  refine ⟨?_, ?_, ?_, nofun⟩
  · exact .bind (.spanned (.bind (.token (.symbol .dot))))
  · exact .bind (.spanned (.bind (.token (.symbol .openParen))))
  · exact .bind (.spanned (.bind (.token (.symbol .openBracket))))

/-- The kinds of operands, with the tokens that they begin with. -/
def operands (expr : Parser Expr) : List (Token × Parser Primary) :=
  [(.str "", literal), (.reference "" false, reference), (.formal false, formalPrimary expr),
    (.symbol .openParen, group expr), (.symbol .openBracket, range expr),
    (.symbol .openBracket, list expr), (.symbol .openBrace, map expr)]

theorem operands_start (expr : Parser Expr) : ∀ a ∈ operands expr, Starts a.1 a.2 := by
  simp only [operands, List.forall_mem_cons]
  refine ⟨?_, ?_, ?_, ?_, ?_, ?_, ?_, nofun⟩
  · refine .bind (.spanned (.select fun t ht => ?_))
    split <;> first | rfl | exact absurd rfl ht
  · refine .labelled (.bind (.spanned (.select fun t ht => ?_)))
    split <;> first | rfl | exact absurd rfl ht
  · refine .bind (.spanned (.bind (.select fun t ht => ?_)))
    split <;> first | rfl | exact absurd rfl ht
  · exact .bind (.spanned (.bind (.token (.symbol .openParen))))
  · exact .bind (.spanned (.bind (.token (.symbol .openBracket))))
  · exact .bind (.spanned (.bind (.token (.symbol .openBracket))))
  · exact .bind (.spanned (.bind (.token (.symbol .openBrace))))

/-- Where a list is closed behind its elements, no dots stand behind the first of them. -/
theorem dots_fail_of_list {c c' next last : Cursor} {e : Expr} {es : List Expr}
    {missed missed' missed'' : Option Failure} (he : expr c = .success e c' missed)
    (hi : items true (Parser.symbol .comma) expr c = .success es next missed')
    (hn : Parser.symbol .closeBracket next = .success () last missed'') :
    ∃ f, Parser.symbol .dots c' = .failure f := by
  cases hd : Parser.symbol .dots c' with
  | failure f => exact ⟨f, rfl⟩
  | success _ behind m =>
      obtain ⟨l, hl, ht⟩ := exists_of_token_eq_success hd
      cases hc : Parser.symbol .comma c' with
      | success _ behind' m' =>
          obtain ⟨l', hl', ht'⟩ := exists_of_token_eq_success hc
          cases hl.symm.trans hl'
          cases ht.symm.trans ht'
      | failure f =>
          have more : moreItems true (Parser.symbol .comma) expr c' = .success [] c' (some f) := by
            rw [moreItems]
            simp only [hc]
          simp only [items, he, more, Outcome.success.injEq] at hi
          obtain ⟨-, rfl, -⟩ := hi
          obtain ⟨l', hl', ht'⟩ := exists_of_token_eq_success hn
          cases hl.symm.trans hl'
          cases ht.symm.trans ht'

/-- A range that fails where a list succeeds has failed in the first element or right behind it, and
the list has read as far. -/
theorem range_covers_list (h : Forward expr) : Covers (range expr) (list expr) := by
  have tail (first : Expr) : Forward (do Parser.symbol .dots; return (first, ← expr)) :=
    .bind (.symbol .dots) fun _ => .bind h fun _ => .pure _
  refine ⟨fun {c last e a missed k} hp hq hk => ?_⟩
  obtain ⟨_, _, _, _, hl, -⟩ := bind_eq_success hq
  obtain ⟨_, n, m, _, ho, hl⟩ := bind_eq_success (spanned_eq_success hl)
  obtain ⟨es, _, _, _, hi, hl⟩ := bind_eq_success hl
  obtain ⟨_, _, _, _, hcl, -⟩ := bind_eq_success hl
  have failed : (range expr c).Past k := by rw [hp]; exact hk
  unfold range at failed
  unfold list
  rw [past_bind_pure, past_spanned, past_between (h.items true)]
  rw [past_bind_pure, past_spanned, past_between (.bind h tail)] at failed
  refine failed.imp_right ?_
  rintro ⟨n', m', ho', inner⟩
  cases ho.symm.trans ho'
  refine ⟨n, m, ho, .inl (past_items h (.inl ?_))⟩
  rcases inner with inner | ⟨_, _, _, hs, -⟩
  · rcases (past_bind tail).1 inner with past | ⟨first, c', _, he, past⟩
    · exact past
    · -- no dots stand there, so the range has got no further than behind its first element
      obtain ⟨f, hf⟩ := dots_fail_of_list he hi hcl
      have here : f.index = c'.index := congrArg Failure.index (token_eq_failure hf)
      have stopped : ((do Parser.symbol .dots; return (first, ← expr)) c') = .failure f := by
        change Parser.bind _ _ c' = _
        simp only [Parser.bind, hf]
      rw [stopped, Outcome.past_failure, here] at past
      rw [he]
      exact .inl past
  · obtain ⟨first, c', _, _, he, hd⟩ := bind_eq_success hs
    obtain ⟨_, _, _, _, hd, -⟩ := bind_eq_success hd
    obtain ⟨f, hf⟩ := dots_fail_of_list he hi hcl
    cases hd.symm.trans hf

section Nested

variable (h : Foretells size expr expr')

include h

theorem call_foretells : Foretells (size + 1) (call expr) (call expr') :=
  .bind (.spanned (.between _ _ (.items true h))) fun _ _ => .pure _ _

theorem index_foretells : Foretells (size + 1) (index expr) (index expr') :=
  .bind (.spanned (.between _ _ h)) fun _ _ => .pure _ _

theorem suffix_foretells : Foretells (size + 1) (suffix expr) (suffix expr') :=
  .choice_of_starts (suffixes expr) (suffixes expr') (suffixes_start expr) (suffixes_start expr')
    (by simp [suffixes]) (by simp [suffixes])
    (.cons property_foretells (.cons (call_foretells h) (.cons (index_foretells h) .nil)))

theorem formalBody_foretells : Foretells (size + 1) (formalBody expr) (formalBody expr') :=
  .bind (.spanned (.bind (.spanned identifier_foretells) fun _ _ =>
    .bind (.many (suffix_foretells h)) fun _ _ => .pure _ _)) fun _ _ => .pure _ _

theorem formal_foretells : Foretells (size + 1) (formal expr) (formal expr') :=
  .spanned (.bind (.select _) fun _ _ => .bind (formalBody_foretells h) fun _ _ =>
    .bind (.symbol .closeBrace) fun _ _ => .pure _ _)

theorem formalPrimary_foretells :
    Foretells (size + 1) (formalPrimary expr) (formalPrimary expr') :=
  .bind (formal_foretells h) fun _ _ => .pure _ _

theorem group_foretells : Foretells (size + 1) (group expr) (group expr') :=
  .bind (.spanned (.between _ _ h)) fun _ _ => .pure _ _

theorem range_foretells : Foretells (size + 1) (range expr) (range expr') :=
  .bind (.spanned (.between _ _ (.bind h fun _ _ => .bind (.symbol .dots) fun _ _ =>
    .bind h fun _ _ => .pure _ _))) fun _ _ => .pure _ _

theorem list_foretells : Foretells (size + 1) (list expr) (list expr') :=
  .bind (.spanned (.between _ _ (.items true h))) fun _ _ => .pure _ _

theorem mapEntry_foretells : Foretells size (mapEntry expr) (mapEntry expr') :=
  .bind (.labelled (.select _)) fun _ _ => .bind (.symbol .colon) fun _ _ => .bind h fun _ _ =>
    .pure _ _

theorem map_foretells : Foretells (size + 1) (map expr) (map expr') :=
  .bind (.spanned (.between _ _ (.items true (mapEntry_foretells h)))) fun _ _ => .pure _ _

theorem primary_foretells : Foretells (size + 1) (primary expr) (primary expr') := by
  have apart {expr : Parser Expr} (h : Forward expr) :
      (operands expr).Pairwise fun a b => a.1 ≠ b.1 ∨ Covers a.2 b.2 := by
    simp [operands, range_covers_list h]
  exact .labelled (.choice_of_starts _ _ (operands_start expr) (operands_start expr')
    (apart h.forward) (apart h.forward') (.cons literal_foretells (.cons reference_foretells
      (.cons (formalPrimary_foretells h) (.cons (group_foretells h) (.cons (range_foretells h)
        (.cons (list_foretells h) (.cons (map_foretells h) .nil))))))))

theorem operand_foretells : Foretells (size + 1) (operand expr) (operand expr') :=
  .bind (.spanned (.bind (primary_foretells h) fun _ _ => .bind (.many (suffix_foretells h))
    fun _ _ => .pure _ _)) fun _ _ => .pure _ _

theorem unary_foretells : Foretells (size + 1) (unary expr) (unary expr') := by
  refine .bind (.spanned (.bind (.many (.select _)) fun _ _ => .bind (operand_foretells h)
    fun _ _ => .pure _ _)) ?_
  rintro ⟨⟨operators, _⟩, _⟩ ⟨⟨operators', _⟩, _⟩
  cases operators <;> cases operators' <;> exact .pure _ _

end Nested

theorem chain_foretells {operators : Parser BinaryOp} {inner inner' : Parser Expr}
    (ho : Foretells size operators operators) (h : Foretells size inner inner') :
    Foretells size (chain operators inner) (chain operators inner') := by
  refine .bind (.spanned (.bind h fun _ _ => .bind (.many (.bind ho fun _ _ => .bind h
    fun _ _ => .pure _ _)) fun _ _ => .pure _ _)) ?_
  rintro ⟨⟨_, rest⟩, _⟩ ⟨⟨_, rest'⟩, _⟩
  cases rest <;> cases rest' <;> exact .pure _ _

section Operators

variable (h : Foretells size expr expr')

include h

theorem disjunction_foretells :
    Foretells (size + 1) (disjunction expr) (disjunction expr') := by
  have sign (s : Symbol) (op : BinaryOp) : Foretells (size + 1) (do Parser.symbol s; return op)
      (do Parser.symbol s; return op) := .bind (.symbol s) fun _ _ => .pure _ _
  exact chain_foretells (sign _ _) (chain_foretells (sign _ _) (chain_foretells (.select _)
    (chain_foretells (.select _) (chain_foretells (.select _) (chain_foretells (.select _)
      (unary_foretells h))))))

theorem ternary_foretells : Foretells (size + 1) (ternary expr) (ternary expr') := by
  have cases : Foretells (size + 1) (cases expr) (cases expr') :=
    (Foretells.symbol .question).behind (.token _) fun _ _ => h.bind fun _ _ =>
      .bind (.symbol .colon) fun _ _ => h.bind fun _ _ => .pure _ _
  refine .bind (.spanned (.bind (disjunction_foretells h) fun _ _ => .bind cases.optional
    fun _ _ => .pure _ _)) ?_
  rintro ⟨⟨_, branches⟩, _⟩ ⟨⟨_, branches'⟩, _⟩
  cases branches <;> cases branches' <;> exact .pure _ _

end Operators

theorem expressionWithin_forward (depth : Nat) : Forward (expressionWithin depth) := by
  induction depth with
  | zero => exact .fail
  | succ depth ih => exact (ternary_foretells (.zero ih ih)).forward

/-- How deep the parsers may go does not matter, if there are not more tokens in front of the place. -/
theorem expressionWithin_foretells {depth depth' : Nat} (hd : size ≤ depth) (hd' : size ≤ depth') :
    Foretells size (expressionWithin depth) (expressionWithin depth') := by
  induction size generalizing depth depth' with
  | zero => exact .zero (expressionWithin_forward depth) (expressionWithin_forward depth')
  | succ size ih =>
      obtain ⟨depth, rfl⟩ := Nat.exists_eq_succ_of_ne_zero (by omega : depth ≠ 0)
      obtain ⟨depth', rfl⟩ := Nat.exists_eq_succ_of_ne_zero (by omega : depth' ≠ 0)
      exact ternary_foretells (ih (by omega) (by omega))

theorem expression_foretells : Foretells size expression expression := by
  have forward : Forward expression := ⟨fun c => (expressionWithin_forward _).runs c⟩
  refine ⟨forward, forward, fun {k w span behind c c'} h _ hk => ?_⟩
  obtain ⟨shared, hr, hr', hi⟩ := h.rest
  have few : shared.length + 1 ≤ c.rest.length + 1 := by simp [hr]
  have few' : shared.length + 1 ≤ c'.rest.length + 1 := by simp [hr']
  exact (expressionWithin_foretells few few').agree h (by omega) hk

end Template.Markup.Grammar
