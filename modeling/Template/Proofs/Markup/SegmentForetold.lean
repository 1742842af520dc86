import Template.Proofs.Markup.ExprForetold

/-!
Templates take what they expect: the grammar of segments, whose kinds are told by their first tokens,
and of the blocks that hold bodies of segments.
-/

namespace Template.Markup.Grammar

open Template.Markup.Parser

variable {size : Nat} {body body' : Parser (List Segment)}

/-- The kinds of segments, with the tokens that they begin with. -/
def segments (body : Parser (List Segment)) : List (Token × Parser Segment) :=
  [(.newline, text), (.unparsed "", unparsed), (.reference "" false, referenceSegment),
    (.formal false, formalSegment), (.directive .ifThen, conditional body),
    (.directive .assign, assign), (.directive .forEach, loop body),
    (.directive .define, define body), (.macroCall "", invocation),
    (.directive .evaluate, evaluate), (.directive .parse, parse), (.directive .embed, embed),
    (.directive .leave, leave), (.directive .stop, stop)]

theorem directive_starts {α : Type} (word : Keyword) (p : Parser α) :
    Starts (.directive word) (spanned do keyword word; parenthesized p) :=
  .spanned (.bind (.token (.directive word)))

theorem segments_start (body : Parser (List Segment)) : ∀ a ∈ segments body, Starts a.1 a.2 := by
  simp only [segments, List.forall_mem_cons]
  refine ⟨?_, ?_, ?_, ?_, ?_, ?_, ?_, ?_, ?_, ?_, ?_, ?_, ?_, ?_, nofun⟩
  · refine .bind (.spanned (.bind (.select fun t ht => ?_)))
    split <;> first | rfl | exact absurd rfl ht
  · refine .bind (.spanned (.select fun t ht => ?_))
    split <;> first | rfl | exact absurd rfl ht
  · refine .bind (.spanned (.bind (.labelled (.bind (.spanned (.select fun t ht => ?_))))))
    split <;> first | rfl | exact absurd rfl ht
  · refine .labelled (.bind (.spanned (.bind (.select fun t ht => ?_))))
    split <;> first | rfl | exact absurd rfl ht
  · exact .labelled (.bind (.spanned (.bind (.bind (directive_starts .ifThen _)))))
  · exact .labelled (.bind (directive_starts .assign _))
  · exact .labelled (.bind (.spanned (.bind (directive_starts .forEach _))))
  · exact .labelled (.bind (.spanned (.bind (directive_starts .define _))))
  · refine .labelled (.bind (.spanned (.bind (.select fun t ht => ?_))))
    split <;> first | rfl | exact absurd rfl ht
  · exact .labelled (.bind (directive_starts .evaluate _))
  · exact .labelled (.bind (directive_starts .parse _))
  · exact .labelled (.bind (directive_starts .embed _))
  · exact .bind (.spanned (.token (.directive .leave)))
  · exact .bind (.spanned (.token (.directive .stop)))

theorem text_foretells : Foretells size text text :=
  .bind (.spanned (.manyOne (.select _))) fun _ _ => .pure _ _

theorem unparsed_foretells : Foretells size unparsed unparsed :=
  .bind (.spanned (.select _)) fun _ _ => .pure _ _

theorem suffixes_foretell :
    Foretells size (many (suffix expression)) (many (suffix expression)) :=
  .many ((suffix_foretells expression_foretells).smaller (Nat.le_succ size))

theorem referenceSegment_foretells : Foretells size referenceSegment referenceSegment :=
  .bind (.spanned (.bind reference_foretells fun _ _ => .bind suffixes_foretell fun _ _ =>
    .pure _ _)) fun _ _ => .pure _ _

theorem formalSegment_foretells : Foretells size formalSegment formalSegment :=
  .labelled (.bind ((formal_foretells expression_foretells).smaller (Nat.le_succ size))
    fun _ _ => .pure _ _)

theorem parenthesized_foretells {α : Type} {p : Parser α} (h : Foretells size p p) :
    Foretells size (parenthesized p) (parenthesized p) :=
  (Foretells.between _ _ h).smaller (Nat.le_succ size)

/-- A directive with its argument in parentheses. -/
theorem directive_foretells {α : Type} {p : Parser α} (word : Keyword) (h : Foretells size p p) :
    Foretells size (spanned do keyword word; parenthesized p)
      (spanned do keyword word; parenthesized p) :=
  .spanned (.bind (.keyword word) fun _ _ => parenthesized_foretells h)

theorem directive_advances {α : Type} {p : Parser α} (word : Keyword) (h : Foretells size p p) :
    Advances (spanned do keyword word; parenthesized p) :=
  .spanned (.bind (.token _) fun _ => (parenthesized_foretells h).forward)

theorem close_foretells : Foretells size Grammar.close Grammar.close :=
  .labelled (.bind (.spanned (.keyword .close)) fun _ _ => .pure _ _)

theorem variableName_foretells : Foretells size variableName variableName := .labelled (.select _)

theorem assign_foretells : Foretells size assign assign := by
  have path : Foretells size (many pathStep) (many pathStep) :=
    .many (.bind (.symbol .dot) fun _ _ => identifier_foretells)
  exact .labelled (.bind (directive_foretells .assign (.bind variableName_foretells fun _ _ =>
    .bind path fun _ _ => .bind (.symbol .assign) fun _ _ => .bind expression_foretells fun _ _ =>
      .pure _ _)) fun _ _ => .pure _ _)

theorem optionalComma_foretells : Foretells size optionalComma optionalComma :=
  .bind (.optional (.symbol .comma)) fun _ _ => .pure _ _

theorem invocation_foretells : Foretells size invocation invocation := by
  have argument : Foretells size callArgument callArgument :=
    .bind expression_foretells fun _ _ => .bind optionalComma_foretells fun _ _ => .pure _ _
  exact .labelled (.bind (.spanned (.bind (.select _) fun _ _ =>
    .bind (.optional (parenthesized_foretells argument.many)) fun _ _ => .pure _ _))
      fun _ _ => .pure _ _)

theorem evaluate_foretells : Foretells size evaluate evaluate :=
  .labelled (.bind (directive_foretells .evaluate expression_foretells) fun _ _ => .pure _ _)

theorem parse_foretells : Foretells size parse parse :=
  .labelled (.bind (directive_foretells .parse expression_foretells) fun _ _ => .pure _ _)

theorem embed_foretells : Foretells size embed embed :=
  .labelled (.bind (directive_foretells .embed (.itemsOne false expression_foretells))
    fun _ _ => .pure _ _)

theorem leave_foretells : Foretells size leave leave :=
  .bind (.spanned (.keyword .leave)) fun _ _ => .pure _ _

theorem stop_foretells : Foretells size stop stop :=
  .bind (.spanned (.keyword .stop)) fun _ _ => .pure _ _

section Blocks

variable (h : Foretells size body body')

include h

theorem fallback_foretells : Foretells (size + 1) (fallback body) (fallback body') :=
  (Foretells.spanned (.keyword .otherwise)).behind (.spanned (.token _)) fun _ _ =>
    h.bind fun _ _ => .pure _ _

theorem arm_foretells (word : Keyword) :
    Foretells (size + 1) (arm word body) (arm word body') :=
  (directive_foretells word expression_foretells).behind
    (directive_advances word (@expression_foretells size)) fun _ _ => h.bind fun _ _ => .pure _ _

theorem conditional_foretells : Foretells (size + 1) (conditional body) (conditional body') :=
  .labelled (.bind (.spanned (.bind (arm_foretells h .ifThen) fun _ _ =>
    .bind (.many (arm_foretells h .elseIf)) fun _ _ => .bind (.optional (fallback_foretells h))
      fun _ _ => .bind close_foretells fun _ _ => .pure _ _)) fun _ _ => .pure _ _)

theorem loop_foretells : Foretells (size + 1) (loop body) (loop body') := by
  have header {n : Nat} : Foretells n (do
      let variableName ← variableName
      token (.reserved .inside)
      return (variableName, ← expression)) (do
      let variableName ← variableName
      token (.reserved .inside)
      return (variableName, ← expression)) :=
    .bind variableName_foretells fun _ _ => .bind (.token rfl) fun _ _ =>
      .bind expression_foretells fun _ _ => .pure _ _
  have otherwise := (fallback_foretells h).optional.smaller (Nat.le_succ size)
  exact .labelled (.bind (.spanned ((directive_foretells .forEach header).behind
    (directive_advances .forEach (@header 0)) fun _ _ => .bind h fun _ _ =>
      .bind otherwise fun _ _ => .bind close_foretells fun _ _ => .pure _ _)) fun _ _ => .pure _ _)

theorem define_foretells : Foretells (size + 1) (define body) (define body') := by
  have parameters {n : Nat} : Foretells n (many parameter) (many parameter) :=
    .many (.bind (.labelled (.select _)) fun _ _ => .bind optionalComma_foretells fun _ _ =>
      .pure _ _)
  have header {n : Nat} : Foretells n (do
      let name ← labelled .definitionName identifier
      optionalComma
      return (name, ← many parameter)) (do
      let name ← labelled .definitionName identifier
      optionalComma
      return (name, ← many parameter)) :=
    .bind (.labelled identifier_foretells) fun _ _ => .bind optionalComma_foretells fun _ _ =>
      .bind parameters fun _ _ => .pure _ _
  exact .labelled (.bind (.spanned ((directive_foretells .define header).behind
    (directive_advances .define (@header 0)) fun _ _ => .bind h fun _ _ =>
      .bind close_foretells fun _ _ => .pure _ _)) fun _ _ => .pure _ _)

theorem segment_foretells : Foretells (size + 1) (segment body) (segment body') := by
  have apart (body : Parser (List Segment)) :
      (segments body).Pairwise fun a b => a.1 ≠ b.1 ∨ Covers a.2 b.2 := by
    simp [segments]
  exact .choice_of_starts _ _ (segments_start body) (segments_start body') (apart body) (apart body')
    (.cons text_foretells (.cons unparsed_foretells (.cons referenceSegment_foretells
      (.cons formalSegment_foretells (.cons (conditional_foretells h) (.cons assign_foretells
        (.cons (loop_foretells h) (.cons (define_foretells h) (.cons invocation_foretells
          (.cons evaluate_foretells (.cons parse_foretells (.cons embed_foretells
            (.cons leave_foretells (.cons stop_foretells .nil))))))))))))))

end Blocks

theorem bodyWithin_forward (depth : Nat) : Forward (bodyWithin depth) := by
  induction depth with
  | zero => exact .fail
  | succ depth ih => exact ((segment_foretells (.zero ih ih)).many).forward

/-- How deep the parsers may go does not matter, if there are not more tokens in front of the place. -/
theorem bodyWithin_foretells {depth depth' : Nat} (hd : size ≤ depth) (hd' : size ≤ depth') :
    Foretells size (bodyWithin depth) (bodyWithin depth') := by
  induction size generalizing depth depth' with
  | zero => exact .zero (bodyWithin_forward depth) (bodyWithin_forward depth')
  | succ size ih =>
      obtain ⟨depth, rfl⟩ := Nat.exists_eq_succ_of_ne_zero (by omega : depth ≠ 0)
      obtain ⟨depth', rfl⟩ := Nat.exists_eq_succ_of_ne_zero (by omega : depth' ≠ 0)
      exact (segment_foretells (ih (by omega) (by omega))).many

end Template.Markup.Grammar
