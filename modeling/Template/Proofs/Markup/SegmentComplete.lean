import Template.Proofs.Markup.ExprComplete
import Template.Proofs.Markup.SegmentSound

/-!
Templates are found again: from the tokens that a body of the right shape is written with, the
grammar makes that body. The first token tells which segment comes, and whether another one comes.
-/

namespace Template

namespace Token

/-- May the token stand outside of code? -/
def isOutside : Token → Bool
  | .ident _ | .str _ | .number _ | .reserved _ | .symbol _ => false
  | _ => true

def isUnparsed : Token → Bool
  | .unparsed _ => true
  | _ => false

def isMacroCall : Token → Bool
  | .macroCall _ => true
  | _ => false

/-- Does the token end or continue the block around it? -/
def endsBody : Token → Bool
  | .directive .elseIf | .directive .otherwise | .directive .close => true
  | _ => false

theorem tightness_of_isOutside {t : Token} (h : t.isOutside) : t.tightness = 0 := by
  cases t <;> first | rfl | cases h

theorem isOutside_of_endsBody {t : Token} (h : t.endsBody) : t.isOutside := by
  unfold endsBody at h
  split at h <;> first | rfl | cases h

theorem isText_of_endsBody {t : Token} (h : t.endsBody) : t.isText = false := by
  unfold endsBody at h
  split at h <;> first | rfl | cases h

end Token

namespace Markup

namespace Segment

/-- The first token of a segment tells whether it is text. -/
theorem Shaped.head_tokens {s : Segment} (h : s.Shaped) :
    ∃ t ts, s.tokens = t :: ts ∧ t.isOutside ∧ t.isText = s.isText := by
  cases h with
  | text | unparsed | formal | assign | loop | leave | stop | define | evaluate | parse | embed =>
      exact ⟨_, _, rfl, rfl, rfl⟩
  | @macroCall _ arguments => cases arguments <;> exact ⟨_, _, rfl, rfl, rfl⟩
  | reference hr hs =>
      obtain ⟨name, place, suffixes, span, rfl, -⟩ := Grammar.exists_named hr hs
      rw [tokens_reference, Grammar.tokens_withSuffixes, Primary.tokens_reference]
      exact ⟨_, _, rfl, rfl, rfl⟩
  | @conditional first =>
      obtain ⟨_, _, _⟩ := first
      exact ⟨_, _, rfl, rfl, rfl⟩

end Segment

/-- No code goes on. -/
def Outside (ts : List Token) : Prop := ∀ t ∈ ts.head?, t.isOutside

/-- The body ends. -/
def Stops (ts : List Token) : Prop := ∀ t ∈ ts.head?, t.endsBody

theorem Outside.below {ts : List Token} (h : Outside ts) : Below 1 ts := by
  intro t ht
  rw [Token.tightness_of_isOutside (h t ht)]
  decide

theorem Stops.outside {ts : List Token} (h : Stops ts) : Outside ts :=
  fun t ht => Token.isOutside_of_endsBody (h t ht)

namespace Grammar

open Template.Markup.Parser

/-- The kinds of segments, with the tokens that they begin with. -/
def alternatives (body : Parser (List Segment)) : List ((Token → Bool) × Parser Segment) :=
  [(Token.isText, text), (Token.isUnparsed, unparsed), (Token.isReference, referenceSegment),
    (Token.isFormal, formalSegment), (fun t => t = .directive .ifThen, conditional body),
    (fun t => t = .directive .assign, assign), (fun t => t = .directive .forEach, loop body),
    (fun t => t = .directive .define, define body), (Token.isMacroCall, invocation),
    (fun t => t = .directive .evaluate, evaluate), (fun t => t = .directive .parse, parse),
    (fun t => t = .directive .embed, embed), (fun t => t = .directive .leave, leave),
    (fun t => t = .directive .stop, stop)]

theorem segment_eq (body : Parser (List Segment)) :
    segment body = choice ((alternatives body).map Prod.snd) := rfl

theorem keyword_fails {k : Keyword} {ts : List Token}
    (h : ∀ t ∈ ts.head?, decide (t = .directive k) = false) : (keyword k).Fails ts :=
  .token fun he => of_decide_eq_false (h _ he) rfl

theorem directive_fails {α : Type} {p : Parser α} {k : Keyword} {ts : List Token}
    (h : ∀ t ∈ ts.head?, decide (t = .directive k) = false) :
    (spanned do
      keyword k
      parenthesized p).Fails ts :=
  .spanned (.bind_left (keyword_fails h))

theorem text_fails {ts : List Token} (h : ∀ t ∈ ts.head?, t.isText = false) : text.Fails ts := by
  rw [text_eq]
  refine .bind_left (.spanned (.bind_left (.select fun t ht => ?_)))
  have := h t ht
  cases t <;> first | rfl | cases this

theorem alternatives_fail (body : Parser (List Segment)) :
    ∀ a ∈ alternatives body, ∀ ts, (∀ t ∈ ts.head?, a.1 t = false) → a.2.Fails ts := by
  simp only [alternatives]
  simp only [List.forall_mem_cons]
  refine ⟨fun ts h => text_fails h, fun ts h => ?_, fun ts h => ?_, fun ts h => ?_, fun ts h => ?_,
    fun ts h => ?_, fun ts h => ?_, fun ts h => ?_, fun ts h => ?_, fun ts h => ?_, fun ts h => ?_,
    fun ts h => ?_, fun ts h => ?_, fun ts h => ?_, nofun⟩
  · refine .bind_left (.spanned (.select fun t ht => ?_))
    have := h t ht
    split <;> first | rfl | cases this
  · exact .bind_left (.spanned (.bind_left (reference_fails h)))
  · exact .labelled (.bind_left (formal_fails h))
  · exact .labelled (.bind_left (.spanned (.bind_left (.bind_left (directive_fails h)))))
  · exact .labelled (.bind_left (directive_fails h))
  · exact .labelled (.bind_left (.spanned (.bind_left (directive_fails h))))
  · exact .labelled (.bind_left (.spanned (.bind_left (directive_fails h))))
  · refine .labelled (.bind_left (.spanned (.bind_left (.select fun t ht => ?_))))
    have := h t ht
    split <;> first | rfl | cases this
  · exact .labelled (.bind_left (directive_fails h))
  · exact .labelled (.bind_left (directive_fails h))
  · exact .labelled (.bind_left (directive_fails h))
  · exact .bind_left (.spanned (keyword_fails h))
  · exact .bind_left (.spanned (keyword_fails h))

/-- Where a body ends no segment begins. -/
theorem segment_fails {body : Parser (List Segment)} {ts : List Token} (h : Stops ts) :
    (segment body).Fails ts := by
  have none (t : Token) (ht : t.endsBody) : ∀ a ∈ alternatives body, a.1 t = false := by
    unfold Token.endsBody at ht
    simp only [alternatives]
    simp only [List.forall_mem_cons]
    split at ht
    all_goals cases ht
    all_goals
      exact ⟨rfl, rfl, rfl, rfl, rfl, rfl, rfl, rfl, rfl, rfl, rfl, rfl, rfl, rfl, nofun⟩
  rw [segment_eq]
  refine .choice fun p hp => ?_
  obtain ⟨a, ha, rfl⟩ := List.mem_map.1 hp
  exact alternatives_fail body a ha ts fun t ht => none t (h t ht) a ha

/-- The segment is found by its first token. -/
theorem segment_of_head {body : Parser (List Segment)} {a : (Token → Bool) × Parser Segment}
    {t : Token} {ts ts' : List Token} {Q : Segment → Prop}
    (ha : (alternatives body).find? (·.1 t) = some a) (h : a.2.Gives (t :: ts) Q ts') :
    (segment body).Gives (t :: ts) Q ts' :=
  .choice_of_head (alternatives_fail body) ha h

theorem expression_gives {e : Expr} (hs : e.Shaped) {ts : List Token} (ht : Below 1 ts) :
    expression.Gives (e.tokens ++ ts) (·.unplaced = e.unplaced) ts :=
  (expression_complete _).gives hs hs.one_le_level (Nat.le_refl _) ht

/-- A directive with its argument in parentheses. -/
theorem directive_gives {α : Type} {p : Parser α} {Q : α → Prop} (k : Keyword)
    {input ts : List Token} (h : p.Gives input Q (.symbol .closeParen :: ts)) :
    (spanned do
      keyword k
      parenthesized p).Gives (.directive k :: .symbol .openParen :: input) (fun r => Q r.1) ts :=
  .spanned (.bind (.token _) fun _ _ => .between h)

theorem text_gives {content : String} {ts : List Token} (ht : ∀ t ∈ ts.head?, t.isText = false) :
    text.Gives (.text content :: ts) (·.unplaced = .text content default) ts := by
  rw [text_eq]
  have more : (many (select Token.literalText?)).Gives ts (· = []) ts := by
    refine .many_nil (.select fun t hm => ?_)
    have := ht t hm
    cases t <;> first | rfl | cases this
  have pieces : (manyOne (select Token.literalText?)).Gives (.text content :: ts)
      (· = [content]) ts := by
    refine .bind (.select rfl) ?_
    rintro _ rfl
    exact .bind more fun _ hm => .pure (by rw [hm])
  refine .bind pieces.spanned ?_
  rintro ⟨_, _⟩ rfl
  exact .pure (by simp [Segment.unplaced])

theorem referenceSegment_gives {e : Expr} {quiet : Bool} {span : Span} (hn : e.Named quiet)
    (hs : e.Shaped) {ts : List Token} (ht : Outside ts) :
    referenceSegment.Gives (e.tokens ++ ts)
      (·.unplaced = (Segment.reference e quiet span).unplaced) ts := by
  obtain ⟨name, place, suffixes, span, rfl, hss⟩ := exists_named hn hs
  rw [tokens_withSuffixes, Primary.tokens_reference, List.append_assoc]
  have parts : Gives (do
      let primary ← reference
      return (primary, ← many (suffix expression)))
      (.reference name quiet :: (suffixes.flatMap Suffix.tokens ++ ts))
      (fun r => (∃ place, r.1 = .reference name quiet place) ∧
        unplacedSuffixes r.2 = unplacedSuffixes suffixes) ts :=
    .bind (reference_gives name quiet _) fun _ hp =>
      .bind (suffixes_give (expression_complete _) hss (Nat.le_succ _) (ht.below.mono (by decide)))
        fun _ he => .pure ⟨hp, he⟩
  refine .bind parts.spanned ?_
  rintro ⟨⟨_, ss⟩, span⟩ ⟨⟨place, rfl⟩, he⟩
  refine .pure ?_
  rw [Segment.unplaced, Segment.unplaced, unplaced_withSuffixes, unplaced_withSuffixes, he]
  rfl

theorem formalSegment_gives {inner : Expr} {quiet : Bool} {span : Span} (hn : inner.Named false)
    (hs : inner.Shaped) (ts : List Token) :
    formalSegment.Gives ((Segment.formal inner quiet span).tokens ++ ts)
      (·.unplaced = (Segment.formal inner quiet span).unplaced) ts := by
  rw [Segment.tokens_formal]
  refine .labelled (.bind (formal_gives (expression_complete _) hn hs (Nat.le_succ _) ts) ?_)
  rintro ⟨⟨_, e⟩, _⟩ ⟨rfl, he⟩
  exact .pure (by rw [Segment.unplaced, Segment.unplaced, he])

theorem assign_gives {name : String} {path : List String} {value : Expr} {span : Span}
    (hs : value.Shaped) (ts : List Token) :
    assign.Gives ((Segment.assign name path value span).tokens ++ ts)
      (·.unplaced = (Segment.assign name path value span).unplaced) ts := by
  have steps : (many pathStep).Gives (path.flatMap (fun step => [.symbol .dot, .ident step]) ++
      .symbol .assign :: (value.tokens ++ .symbol .closeParen :: ts))
      (fun p => p.map id = path.map id)
      (.symbol .assign :: (value.tokens ++ .symbol .closeParen :: ts)) :=
    .many (fun _ => True) (fun step _ ts _ => .bind (.token _) fun _ _ => identifier_gives step ts)
      (by simp) (fun _ _ _ => trivial) trivial (.bind_left (.token (by simp)))
  have target : Gives (do
      let name ← variableName
      let path ← many pathStep
      Parser.symbol .assign
      return (name, path, ← expression))
      (.reference name false :: (path.flatMap (fun step => [.symbol .dot, .ident step]) ++
        .symbol .assign :: (value.tokens ++ .symbol .closeParen :: ts)))
      (fun r => r.1 = name ∧ r.2.1 = path ∧ r.2.2.unplaced = value.unplaced)
      (.symbol .closeParen :: ts) := by
    refine .bind (.labelled (.select rfl)) ?_
    rintro _ rfl
    exact .bind steps fun p hp => .bind (.token _) fun _ _ =>
      .bind (expression_gives hs (below_cons (by decide))) fun _ he =>
        .pure ⟨rfl, by simpa using hp, he⟩
  simp only [Segment.tokens_assign, List.cons_append, List.append_assoc, List.nil_append]
  refine .labelled (.bind (directive_gives _ target) ?_)
  rintro ⟨⟨_, _, e⟩, _⟩ ⟨rfl, rfl, he⟩
  exact .pure (by rw [Segment.unplaced, Segment.unplaced, he])

theorem evaluate_gives {argument : Expr} {span : Span} (hs : argument.Shaped) (ts : List Token) :
    evaluate.Gives ((Segment.evaluate argument span).tokens ++ ts)
      (·.unplaced = (Segment.evaluate argument span).unplaced) ts := by
  simp only [Segment.tokens_evaluate, List.cons_append, List.append_assoc]
  refine .labelled (.bind (directive_gives _ (expression_gives hs (below_cons (by decide)))) ?_)
  rintro ⟨e, _⟩ he
  exact .pure (congrArg (Segment.evaluate · default) he)

theorem parse_gives {argument : Expr} {span : Span} (hs : argument.Shaped) (ts : List Token) :
    parse.Gives ((Segment.parse argument span).tokens ++ ts)
      (·.unplaced = (Segment.parse argument span).unplaced) ts := by
  simp only [Segment.tokens_parse, List.cons_append, List.append_assoc]
  refine .labelled (.bind (directive_gives _ (expression_gives hs (below_cons (by decide)))) ?_)
  rintro ⟨e, _⟩ he
  exact .pure (congrArg (Segment.parse · default) he)

theorem embed_gives {arguments : List Expr} {span : Span} (hn : arguments ≠ [])
    (hs : ∀ e ∈ arguments, e.Shaped) (ts : List Token) :
    embed.Gives ((Segment.embed arguments span).tokens ++ ts)
      (·.unplaced = (Segment.embed arguments span).unplaced) ts := by
  have items : (itemsOne false (Parser.symbol .comma) expression).Gives
      (commaRow Expr.tokens arguments ++ .symbol .closeParen :: ts)
      (fun es => unplacedItems es = unplacedItems arguments) (.symbol .closeParen :: ts) := by
    simp only [unplacedItems_eq]
    exact .itemsOne (Below 1) hn (fun e he ts ht => expression_gives (hs e he) ht)
      (fun _ => below_cons (by decide)) (below_cons (by decide)) (by simp)
  simp only [Segment.tokens_embed, List.cons_append, List.append_assoc]
  refine .labelled (.bind (directive_gives _ items) ?_)
  rintro ⟨es, _⟩ hes
  exact .pure (congrArg (Segment.embed · default) hes)

theorem optionalComma_gives {ts : List Token} (ht : ts.head? ≠ some (.symbol .comma)) :
    optionalComma.Gives ts (fun _ => True) ts :=
  .bind (.optional_none (.token ht)) fun _ _ => .pure trivial

theorem callArgument_gives {e : Expr} (hs : e.Shaped) {ts ts' : List Token} (ht : Below 1 ts)
    (hc : optionalComma.Gives ts (fun _ => True) ts') :
    callArgument.Gives (e.tokens ++ ts) (·.unplaced = e.unplaced) ts' :=
  .bind (expression_gives hs ht) fun _ he => .bind hc fun _ _ => .pure he

/-- The arguments of a macro, with commas between them. -/
theorem callArguments_give {arguments : List Expr} (hs : ∀ e ∈ arguments, e.Shaped)
    (ts : List Token) :
    (many callArgument).Gives (commaRow Expr.tokens arguments ++ .symbol .closeParen :: ts)
      (fun es => unplacedItems es = unplacedItems arguments) (.symbol .closeParen :: ts) := by
  have stop : callArgument.Fails (.symbol .closeParen :: ts) := by
    refine .bind_left ((expression_complete 0).fails ?_)
    intro _ ht
    cases ht
    rfl
  induction arguments with
  | nil => exact (Gives.many_nil stop).mono fun es h => by rw [h]
  | cons e es ih =>
      obtain ⟨he, hes⟩ := List.forall_mem_cons.1 hs
      have hn := List.length_pos_iff.2 (tokens_ne_nil he)
      have more := ih hes
      cases es with
      | nil =>
          have none : optionalComma.Gives (.symbol .closeParen :: ts) (fun _ => True)
              (.symbol .closeParen :: ts) := optionalComma_gives (by simp)
          have argument := callArgument_gives he (below_cons (by decide)) none
          rw [commaRow_one]
          refine (Gives.many_cons (by simp [hn]) argument more).mono ?_
          rintro _ ⟨a, as, rfl, ha, has⟩
          rw [unplacedItems, unplacedItems, ha, has]
      | cons e' es =>
          have comma : optionalComma.Gives
              (.symbol .comma :: (commaRow Expr.tokens (e' :: es) ++ .symbol .closeParen :: ts))
              (fun _ => True) (commaRow Expr.tokens (e' :: es) ++ .symbol .closeParen :: ts) :=
            .bind (.optional_some (.token _)) fun _ _ => .pure trivial
          have argument := callArgument_gives he (below_cons (by decide)) comma
          rw [commaRow_more, List.append_assoc, List.cons_append]
          refine (Gives.many_cons ?_ argument more).mono ?_
          · simp only [List.length_append, List.length_cons]
            omega
          · rintro _ ⟨a, as, rfl, ha, has⟩
            rw [unplacedItems, unplacedItems, ha, has]

theorem invocation_gives {name : String} {arguments : Option (List Expr)} {span : Span}
    (hs : ∀ es ∈ arguments, ∀ e ∈ es, e.Shaped) {ts : List Token} (ht : Outside ts) :
    invocation.Gives ((Segment.macroCall name arguments span).tokens ++ ts)
      (·.unplaced = (Segment.macroCall name arguments span).unplaced) ts := by
  have parts : Gives (do
      let name ← select fun
        | .macroCall name => some name
        | _ => none
      return (name, ← optional (parenthesized (many callArgument))))
      ((Segment.macroCall name arguments span).tokens ++ ts)
      (fun r => r.1 = name ∧ r.2.map unplacedItems = arguments.map unplacedItems) ts := by
    cases arguments with
    | none =>
        refine .bind (.select rfl) ?_
        rintro _ rfl
        exact .bind (.optional_none (.between (ht.below.head_ne (by decide)))) fun _ hn =>
          .pure ⟨rfl, by rw [hn]⟩
    | some es =>
        simp only [Segment.tokens_macroCall, List.cons_append, List.append_assoc]
        refine .bind (.select rfl) ?_
        rintro _ rfl
        refine .bind (.optional_some (.between (callArguments_give (hs es rfl) ts))) ?_
        rintro _ ⟨es', rfl, hes⟩
        exact .pure ⟨rfl, by rw [Option.map_some, Option.map_some, hes]⟩
  refine .labelled (.bind parts.spanned ?_)
  rintro ⟨⟨_, arguments'⟩, _⟩ ⟨rfl, ha⟩
  exact .pure (by rw [Segment.unplaced, Segment.unplaced, ha])

theorem close_gives (ts : List Token) :
    close.Gives (.directive .close :: ts) (fun _ => True) ts :=
  .labelled (.bind (.spanned (.token _)) fun _ _ => .pure trivial)

theorem stops_fallback (otherwise : Option Fallback) (ts : List Token) :
    Stops (fallbackTokens otherwise ++ .directive .close :: ts) := by
  rcases otherwise with _ | ⟨_, _⟩
  all_goals
    intro _ ht
    cases ht
    rfl

theorem parameters_head_ne (parameters : List String) (ts : List Token) :
    (parameters.flatMap (fun p => [Token.reference p false]) ++ .symbol .closeParen :: ts).head? ≠
      some (.symbol .comma) := by
  cases parameters <;> simp

/-- The parameters of a macro, without commas. -/
theorem parameters_give (parameters : List String) (ts : List Token) :
    (many parameter).Gives
      (parameters.flatMap (fun p => [.reference p false]) ++ .symbol .closeParen :: ts)
      (· = parameters) (.symbol .closeParen :: ts) := by
  have row : (many parameter).Gives
      (parameters.flatMap (fun p => [.reference p false]) ++ .symbol .closeParen :: ts)
      (fun ps => ps.map id = parameters.map id) (.symbol .closeParen :: ts) := by
    refine .many (fun ts => ts.head? ≠ some (.symbol .comma)) (fun p _ ts ht => ?_) (by simp)
      (by simp) (by simp) ?_
    · refine .bind (.labelled (.select rfl)) ?_
      rintro _ rfl
      exact .bind (optionalComma_gives ht) fun _ _ => .pure rfl
    · refine .bind_left (.labelled (.select ?_))
      intro _ ht
      cases ht
      rfl
  exact row.mono fun ps h => by simpa using h

/-- Bodies with not too many tokens are found. -/
structure BodyComplete (p : Parser (List Segment)) (size : Nat) : Prop where
  gives {body : List Segment} (hb : BodyShaped body) (hn : (bodyTokens body).length ≤ size)
    {ts : List Token} (ht : Stops ts) :
    p.Gives (bodyTokens body ++ ts) (fun b => unplacedBody b = unplacedBody body) ts

theorem loopHeader_gives {iterable : Expr} (hi : iterable.Shaped) (item : String)
    (ts : List Token) :
    Gives (do
      let name ← variableName
      token (.reserved .inside)
      return (name, ← expression))
      (.reference item false :: .reserved .inside :: (iterable.tokens ++ .symbol .closeParen :: ts))
      (fun r => r.1 = item ∧ r.2.unplaced = iterable.unplaced) (.symbol .closeParen :: ts) := by
  refine .bind (.labelled (.select rfl)) ?_
  rintro _ rfl
  exact .bind (.token _) fun _ _ => .bind (expression_gives hi (below_cons (by decide)))
    fun _ he => .pure ⟨rfl, he⟩

theorem defineHeader_gives (name : String) (parameters : List String) (ts : List Token) :
    Gives (do
      let name ← labelled .definitionName identifier
      optionalComma
      return (name, ← many parameter))
      (.ident name :: (parameters.flatMap (fun p => [.reference p false]) ++
        .symbol .closeParen :: ts))
      (fun r => r.1 = name ∧ r.2 = parameters) (.symbol .closeParen :: ts) := by
  refine .bind (.labelled (identifier_gives name _)) ?_
  rintro _ rfl
  exact .bind (optionalComma_gives (parameters_head_ne _ _)) fun _ _ =>
    .bind (parameters_give _ _) fun _ hp => .pure ⟨rfl, hp⟩

section Blocks

variable {body : Parser (List Segment)} {size : Nat} (h : BodyComplete body size)

include h

theorem arm_gives {a : Arm} (word : Keyword) (hs : a.Shaped)
    (hn : (a.tokens word).length ≤ size + 1) {ts : List Token} (ht : Stops ts) :
    (arm word body).Gives (a.tokens word ++ ts) (·.unplaced = a.unplaced) ts := by
  cases hs with
  | @mk header condition inner hs hb hc =>
      simp only [Arm.tokens, List.length_cons, List.length_append] at hn
      simp only [Arm.tokens, List.cons_append, List.append_assoc]
      refine .bind (directive_gives _ (expression_gives hs (below_cons (by decide)))) ?_
      rintro ⟨e, _⟩ he
      refine .bind (h.gives ⟨hb, hc⟩ (by omega) ht) fun b hb => .pure ?_
      rw [Arm.unplaced, Arm.unplaced, show e.unplaced = _ from he, hb]

theorem optional_fallback_gives {otherwise : Option Fallback} (hs : ∀ f ∈ otherwise, f.Shaped)
    (hn : (fallbackTokens otherwise).length ≤ size + 1) (ts : List Token) :
    (optional (fallback body)).Gives (fallbackTokens otherwise ++ .directive .close :: ts)
      (fun o => unplacedFallback o = unplacedFallback otherwise) (.directive .close :: ts) := by
  cases otherwise with
  | none =>
      have fails : (fallback body).Fails (.directive .close :: ts) :=
        .bind_left (.spanned (.token (by simp)))
      exact (Gives.optional_none fails).mono fun o ho => by rw [ho]
  | some f =>
      cases hs f rfl with
      | @mk header inner hb hc =>
          simp only [fallbackTokens, List.length_cons] at hn
          have stops : Stops (.directive .close :: ts) := stops_fallback none ts
          have found : (fallback body).Gives
              (.directive .otherwise :: (bodyTokens inner ++ .directive .close :: ts))
              (fun f => unplacedFallback (some f) = some (.mk default (unplacedBody inner)))
              (.directive .close :: ts) := by
            refine .bind (.spanned (.token _)) ?_
            rintro ⟨_, _⟩ -
            exact .bind (h.gives ⟨hb, hc⟩ (by omega) stops) fun b hb => .pure (by
              rw [unplacedFallback, hb])
          refine (Gives.optional_some found).mono ?_
          rintro _ ⟨f, rfl, hf⟩
          exact hf

theorem conditional_gives {first : Arm} {rest : List Arm} {otherwise : Option Fallback}
    {close span : Span} (hf : first.Shaped) (hr : ∀ a ∈ rest, a.Shaped)
    (ho : ∀ f ∈ otherwise, f.Shaped)
    (hn : (Segment.conditional first rest otherwise close span).tokens.length ≤ size + 1)
    (ts : List Token) :
    (conditional body).Gives ((Segment.conditional first rest otherwise close span).tokens ++ ts)
      (·.unplaced = (Segment.conditional first rest otherwise close span).unplaced) ts := by
  simp only [Segment.tokens_conditional, List.length_append] at hn
  have tail := stops_fallback otherwise ts
  have fails : (arm .elseIf body).Fails (fallbackTokens otherwise ++ .directive .close :: ts) := by
    refine .bind_left (directive_fails ?_)
    rcases otherwise with _ | ⟨_, _⟩
    all_goals
      intro _ ht
      cases ht
      rfl
  have head (a : Arm) (ts : List Token) : Stops (a.tokens .elseIf ++ ts) := by
    obtain ⟨_, _, _⟩ := a
    intro _ ht
    cases ht
    rfl
  have arms : (many (arm .elseIf body)).Gives
      (rest.flatMap (Arm.tokens .elseIf) ++ (fallbackTokens otherwise ++ .directive .close :: ts))
      (fun as => unplacedArms as = unplacedArms rest)
      (fallbackTokens otherwise ++ .directive .close :: ts) := by
    simp only [unplacedArms_eq]
    refine .many Stops (fun a ha ts ht => ?_) (fun a _ => ?_) (fun a _ ts => head a ts) tail fails
    · exact arm_gives h .elseIf (hr a ha) ((length_le_flatMap ha).trans (by omega)) ht
    · obtain ⟨_, _, _⟩ := a
      simp [Arm.tokens]
  have stops : Stops (rest.flatMap (Arm.tokens .elseIf) ++
      (fallbackTokens otherwise ++ .directive .close :: ts)) := by
    cases rest with
    | nil => exact tail
    | cons a as =>
        rw [List.flatMap_cons, List.append_assoc]
        exact head a _
  have parts : Gives (do
      let first ← arm .ifThen body
      let rest ← many (arm .elseIf body)
      let otherwise ← optional (fallback body)
      return (first, rest, otherwise, ← Grammar.close))
      (first.tokens .ifThen ++ (rest.flatMap (Arm.tokens .elseIf) ++
        (fallbackTokens otherwise ++ .directive .close :: ts)))
      (fun r => r.1.unplaced = first.unplaced ∧ unplacedArms r.2.1 = unplacedArms rest ∧
        unplacedFallback r.2.2.1 = unplacedFallback otherwise) ts :=
    .bind (arm_gives h .ifThen hf (by omega) stops) fun _ ha => .bind arms fun _ has =>
      .bind (optional_fallback_gives h ho (by omega) ts) fun _ hfs => .bind (close_gives ts)
        fun _ _ => .pure ⟨ha, has, hfs⟩
  simp only [Segment.tokens_conditional, List.append_assoc]
  refine .labelled (.bind parts.spanned ?_)
  rintro ⟨⟨_, _, _, _⟩, _⟩ ⟨ha, has, hfs⟩
  exact .pure (by rw [Segment.unplaced, Segment.unplaced, ha, has, hfs])

theorem loopParts_give {iterable : Expr} {inner : List Segment} {otherwise : Option Fallback}
    (hi : iterable.Shaped) (hb : BodyShaped inner) (ho : ∀ f ∈ otherwise, f.Shaped)
    (hn : (bodyTokens inner).length ≤ size)
    (hf : (fallbackTokens otherwise).length ≤ size) (item : String) (ts : List Token) :
    Gives (do
      let ((variableName, iterable), header) ← spanned do
        keyword .forEach
        parenthesized do
          let variableName ← variableName
          token (.reserved .inside)
          return (variableName, ← expression)
      let inner ← body
      let otherwise ← optional (fallback body)
      return (header, variableName, iterable, inner, otherwise, ← Grammar.close))
      (.directive .forEach :: .symbol .openParen :: .reference item false :: .reserved .inside ::
        (iterable.tokens ++ .symbol .closeParen :: (bodyTokens inner ++
          (fallbackTokens otherwise ++ .directive .close :: ts))))
      (fun r => r.2.1 = item ∧ r.2.2.1.unplaced = iterable.unplaced ∧
        unplacedBody r.2.2.2.1 = unplacedBody inner ∧
        unplacedFallback r.2.2.2.2.1 = unplacedFallback otherwise) ts := by
  refine .bind (directive_gives _ (loopHeader_gives hi item _)) ?_
  rintro ⟨⟨_, _⟩, _⟩ ⟨rfl, he⟩
  exact .bind (h.gives hb (by omega) (stops_fallback otherwise ts)) fun _ hb =>
    .bind (optional_fallback_gives h ho (by omega) ts) fun _ hf => .bind (close_gives ts)
      fun _ _ => .pure ⟨rfl, he, hb, hf⟩

theorem loop_gives {header : Span} {item : String} {iterable : Expr} {inner : List Segment}
    {otherwise : Option Fallback} {close span : Span} (hi : iterable.Shaped)
    (hb : BodyShaped inner) (ho : ∀ f ∈ otherwise, f.Shaped)
    (hn : (Segment.loop header item iterable inner otherwise close span).tokens.length ≤ size + 1)
    (ts : List Token) :
    (loop body).Gives ((Segment.loop header item iterable inner otherwise close span).tokens ++ ts)
      (·.unplaced = (Segment.loop header item iterable inner otherwise close span).unplaced) ts := by
  simp only [Segment.tokens_loop, List.length_append, List.length_cons] at hn
  have parts := loopParts_give h hi hb ho (by omega) (by omega) item ts
  simp only [Segment.tokens_loop, List.cons_append, List.append_assoc]
  refine .labelled (.bind parts.spanned ?_)
  rintro ⟨⟨_, _, _, _, _, _⟩, _⟩ ⟨rfl, he, hb, hf⟩
  exact .pure (by rw [Segment.unplaced, Segment.unplaced, he, hb, hf])

theorem defineParts_give {inner : List Segment} (hb : BodyShaped inner)
    (hn : (bodyTokens inner).length ≤ size) (name : String) (parameters : List String)
    (ts : List Token) :
    Gives (do
      let ((name, parameters), header) ← spanned do
        keyword .define
        parenthesized do
          let name ← labelled .definitionName identifier
          optionalComma
          return (name, ← many parameter)
      let inner ← body
      return (header, name, parameters, inner, ← Grammar.close))
      (.directive .define :: .symbol .openParen :: .ident name ::
        (parameters.flatMap (fun p => [.reference p false]) ++
          .symbol .closeParen :: (bodyTokens inner ++ .directive .close :: ts)))
      (fun r => r.2.1 = name ∧ r.2.2.1 = parameters ∧
        unplacedBody r.2.2.2.1 = unplacedBody inner) ts := by
  refine .bind (directive_gives _ (defineHeader_gives name parameters _)) ?_
  rintro ⟨⟨_, _⟩, _⟩ ⟨rfl, rfl⟩
  exact .bind (h.gives hb (by omega) (stops_fallback none ts)) fun _ hb =>
    .bind (close_gives ts) fun _ _ => .pure ⟨rfl, rfl, hb⟩

theorem define_gives {header : Span} {name : String} {parameters : List String}
    {inner : List Segment} {close span : Span} (hb : BodyShaped inner)
    (hn : (Segment.define header name parameters inner close span).tokens.length ≤ size + 1)
    (ts : List Token) :
    (define body).Gives ((Segment.define header name parameters inner close span).tokens ++ ts)
      (·.unplaced = (Segment.define header name parameters inner close span).unplaced) ts := by
  simp only [Segment.tokens_define, List.length_append, List.length_cons] at hn
  have parts := defineParts_give h hb (by omega) name parameters ts
  simp only [Segment.tokens_define, List.cons_append, List.append_assoc, List.nil_append]
  refine .labelled (.bind parts.spanned ?_)
  rintro ⟨⟨_, _, _, _, _⟩, _⟩ ⟨rfl, rfl, hb⟩
  exact .pure (by rw [Segment.unplaced, Segment.unplaced, hb])

theorem segment_gives {s : Segment} (hs : s.Shaped) (hn : s.tokens.length ≤ size + 1)
    {ts : List Token} (ho : Outside ts) (ht : s.isText → ∀ t ∈ ts.head?, t.isText = false) :
    (segment body).Gives (s.tokens ++ ts) (·.unplaced = s.unplaced) ts := by
  cases hs with
  | text => exact segment_of_head rfl (text_gives (ht rfl))
  | unparsed =>
      refine segment_of_head rfl (.bind (.spanned (.select rfl)) ?_)
      rintro ⟨_, _⟩ rfl
      exact .pure rfl
  | @reference e quiet span hr hs =>
      have given : referenceSegment.Gives (e.tokens ++ ts)
          (·.unplaced = (Segment.reference e quiet span).unplaced) ts :=
        referenceSegment_gives hr hs ho
      obtain ⟨name, place, suffixes, span, rfl, -⟩ := exists_named hr hs
      rw [tokens_withSuffixes, Primary.tokens_reference] at given
      rw [Segment.tokens_reference, tokens_withSuffixes, Primary.tokens_reference]
      exact segment_of_head rfl given
  | formal hf hs => exact segment_of_head rfl (formalSegment_gives hf hs ts)
  | @conditional first _ _ _ _ hf hr hfs =>
      obtain ⟨_, _, _⟩ := first
      exact segment_of_head rfl (conditional_gives h hf hr hfs hn ts)
  | assign hs => exact segment_of_head rfl (assign_gives hs ts)
  | loop hi hb hc hfs => exact segment_of_head rfl (loop_gives h hi ⟨hb, hc⟩ hfs hn ts)
  | leave =>
      refine segment_of_head rfl (.bind (.spanned (.token _)) ?_)
      rintro ⟨_, _⟩ -
      exact .pure rfl
  | stop =>
      refine segment_of_head rfl (.bind (.spanned (.token _)) ?_)
      rintro ⟨_, _⟩ -
      exact .pure rfl
  | define hb hc => exact segment_of_head rfl (define_gives h ⟨hb, hc⟩ hn ts)
  | @macroCall _ arguments _ hs =>
      cases arguments with
      | none => exact segment_of_head rfl (invocation_gives hs ho)
      | some => exact segment_of_head rfl (invocation_gives hs ho)
  | evaluate hs => exact segment_of_head rfl (evaluate_gives hs ts)
  | parse hs => exact segment_of_head rfl (parse_gives hs ts)
  | embed hne hs => exact segment_of_head rfl (embed_gives hne hs ts)

/-- Segments one after the other, up to the end of their block. -/
theorem segments_give {inner : List Segment} (hb : BodyShaped inner)
    (hn : (bodyTokens inner).length ≤ size + 1) {ts : List Token} (ht : Stops ts) :
    (many (segment body)).Gives (bodyTokens inner ++ ts)
      (fun b => unplacedBody b = unplacedBody inner) ts := by
  induction inner with
  | nil => exact (Gives.many_nil (segment_fails ht)).mono fun b hb => by rw [hb]
  | cons s inner ih =>
      obtain ⟨⟨hs, hss⟩, hc⟩ := List.forall_mem_cons.1 hb.segments, hb.texts
      rw [bodyTokens, List.flatMap_cons, List.length_append] at hn
      have more := ih ⟨hss, hc.tail⟩ (by rw [bodyTokens]; omega)
      have behind : Outside (bodyTokens inner ++ ts) ∧
          (s.isText → ∀ t ∈ (bodyTokens inner ++ ts).head?, t.isText = false) := by
        cases inner with
        | nil => exact ⟨ht.outside, fun _ t hm => Token.isText_of_endsBody (ht t hm)⟩
        | cons s' inner =>
            obtain ⟨t, ts', he, ho, hi⟩ := (hss s' (by simp)).head_tokens
            have apart := List.isChain_cons_cons.1 hc
            simp only [bodyTokens, List.flatMap_cons, he, List.cons_append]
            refine ⟨by rintro _ ⟨⟩; exact ho, ?_⟩
            rintro hs _ ⟨⟩
            rw [hi, Bool.eq_false_iff]
            exact fun hs' => apart.1 ⟨hs, hs'⟩
      have first := segment_gives h hs (by omega) behind.1 behind.2
      have taken : (bodyTokens inner ++ ts).length <
          (s.tokens ++ (bodyTokens inner ++ ts)).length := by
        obtain ⟨t, ts', he, -⟩ := hs.head_tokens
        simp only [he, List.cons_append, List.length_cons, List.length_append]
        omega
      rw [bodyTokens, List.flatMap_cons, List.append_assoc]
      refine (Gives.many_cons taken first more).mono ?_
      rintro _ ⟨a, as, rfl, ha, has⟩
      rw [unplacedBody, unplacedBody, ha, has]

end Blocks

theorem bodyWithin_complete (depth : Nat) : BodyComplete (bodyWithin (depth + 1)) depth := by
  induction depth with
  | zero =>
      refine ⟨fun {body} hb hn {ts} ht => ?_⟩
      cases body with
      | nil => exact (Gives.many_nil (segment_fails ht)).mono fun b hb => by rw [hb]
      | cons s body =>
          obtain ⟨t, ts', he, -⟩ := (hb.segments s (by simp)).head_tokens
          simp [bodyTokens, he] at hn
  | succ depth ih => exact ⟨fun hb hn _ ht => segments_give ih hb hn ht⟩

/-- A body is found in its tokens. -/
theorem template_gives {body : List Segment} (hb : BodyShaped body) :
    template.Gives (bodyTokens body) (fun b => unplacedBody b = unplacedBody body) [] := by
  refine ⟨fun {c} hc => ?_⟩
  have stops : Stops [] := nofun
  have whole : Gives (do
      let segments ← bodyWithin (c.rest.length + 1)
      endOfInput
      return segments)
      (bodyTokens body ++ []) (fun b => unplacedBody b = unplacedBody body) [] := by
    refine .bind ((bodyWithin_complete _).gives hb ?_ stops) fun b hb => ?_
    · rw [← hc, Cursor.tokens_length]
    · exact .bind .endOfInput fun _ _ => .pure hb
  rw [List.append_nil] at whole
  exact whole.given hc

end Grammar

end Markup

end Template
