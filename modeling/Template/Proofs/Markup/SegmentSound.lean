import Template.Proofs.Markup.ExprSound

/-!
Templates are read as they are written: what the grammar makes of tokens has the shape of a body and
is laid out as these tokens.
-/

namespace Template

theorem Token.isText_of_literalText? {t : Token} {content : String}
    (h : t.literalText? = some content) : t.isText := by
  cases t with
  | text _ | newline | escaped _ => rfl
  | _ => cases h

theorem Lexeme.literalText_cons {t : Token} {span : Span} {content : String}
    (h : t.literalText? = some content) (ls : List Lexeme) :
    literalText ((t, span) :: ls) = content ++ literalText ls := by
  simp [literalText, h, String.join_cons]

namespace Markup.Grammar

open Template.Markup.Parser

theorem text_pieces :
    (manyOne (select Token.literalText?)).Yields fun pieces ls =>
      ls ≠ [] ∧ (∀ l ∈ ls, l.1.isText) ∧ String.join pieces = Lexeme.literalText ls := by
  have more := (Yields.select (f := Token.literalText?)).many
    (S := fun pieces ls => (∀ l ∈ ls, l.1.isText) ∧ String.join pieces = Lexeme.literalText ls)
    ⟨by simp, rfl⟩ ?_
  · refine .bind .select fun content ls ⟨t, span, ht, hl⟩ => .bind more fun cs ls' ⟨hs, hj⟩ => ?_
    subst hl
    refine .pure ⟨by simp, ?_, ?_⟩
    · exact List.forall_mem_cons.2 ⟨Token.isText_of_literalText? ht, hs⟩
    · rw [String.join_cons, hj]
      exact (Lexeme.literalText_cons ht ls').symm
  · rintro content _ cs ls' ⟨t, span, ht, rfl⟩ ⟨hs, hj⟩
    refine ⟨List.forall_mem_cons.2 ⟨Token.isText_of_literalText? ht, hs⟩, ?_⟩
    rw [String.join_cons, hj]
    exact (Lexeme.literalText_cons ht ls').symm

theorem text_eq :
    text = (do
      let (pieces, span) ← spanned (manyOne (select Token.literalText?))
      return .text (String.join pieces) span) := rfl

theorem text_takes : text.Takes (fun s => [s.layout]) Segment.Shaped := by
  rw [text_eq]
  refine .bind (text_pieces.spanned fun _ _ h => h.1) fun (pieces, span) ls
    ⟨⟨hn, ht, hj⟩, covers⟩ => .pure ⟨.only ?_ covers, .text⟩
  rw [hj]
  simpa only [List.append_nil] using Fits.run hn ht .nil

theorem unparsedToken_takes :
    Takes (select fun
      | .unparsed body => some body
      | _ => none) (fun body => [.token (.unparsed body)]) fun _ => True := by
  refine .select fun t body span ht => ?_
  split at ht <;> cases ht
  exact ⟨.token .nil, trivial⟩

theorem unparsed_takes : unparsed.Takes (fun s => [s.layout]) Segment.Shaped :=
  .bind (unparsedToken_takes.spanned fun _ _ => Fits.token_ne_nil) fun (_, _) _ ⟨hf, _⟩ =>
    .pure ⟨hf, .unparsed⟩

theorem referenceSegment_takes : referenceSegment.Takes (fun s => [s.layout]) Segment.Shaped := by
  have inner : Takes (do
      let primary ← reference
      return (primary, ← many (suffix expression))) (fun r => r.1.layout :: layoutSuffixes r.2)
      fun r => (∃ name quiet span, r.1 = .reference name quiet span) ∧ ∀ s ∈ r.2, s.Shaped :=
    .bind reference_takes fun _ _ ⟨hf, hp⟩ => .bind (suffixes_takes expression_sound)
      fun _ _ ⟨hf', hs⟩ => .pure ⟨hf.append hf', hp, hs⟩
  refine .bind (Yields.spanned inner fun r _ h => Fits.expr_ne_nil (e := .primary r.1) h.1)
    fun ((primary, suffixes), span) ls ⟨⟨hf, ⟨name, quiet, place, hp⟩, hs⟩, covers⟩ => .pure ?_
  cases hp
  cases suffixes with
  | nil => exact ⟨.only hf covers, .reference .primary (.primary .reference)⟩
  | cons s ss =>
      exact ⟨.only (.only hf covers) covers, .reference .applied (.applied (by simp) .reference hs)⟩

theorem formalSegment_takes : formalSegment.Takes (fun s => [s.layout]) Segment.Shaped :=
  .labelled (.bind (formal_takes expression_sound) fun ((_, _), _) _ ⟨hf, hn, hs⟩ =>
    .pure ⟨hf, .formal hn hs⟩)

theorem close_takes : close.Takes (fun span => [.part span [.keyword .close]]) fun _ => True :=
  .labelled (.bind ((Takes.keyword .close).spanned fun _ _ => Fits.token_ne_nil)
    fun _ _ ⟨hf, _⟩ => .pure ⟨hf, trivial⟩)

/-- A directive with its argument in parentheses. -/
theorem directive_takes {α : Type} {p : Parser α} {L : α → List Layout} {P : α → Prop}
    (word : Keyword) (hp : p.Takes L P) :
    (spanned do
      keyword word
      parenthesized p).Takes
      (fun r => [.part r.2
        (Layout.keyword word :: Layout.symbol .openParen :: L r.1 ++ [Layout.symbol .closeParen])])
      fun r => P r.1 := by
  have inner : Takes (do keyword word; parenthesized p)
      (fun a => Layout.keyword word :: Layout.symbol .openParen :: L a ++
        [Layout.symbol .closeParen]) P :=
    .bind (Takes.keyword word) fun _ _ ⟨hk, _⟩ => .last hp.between fun _ _ ⟨hf, hP⟩ =>
      ⟨hk.append hf, hP⟩
  exact inner.spanned fun _ _ => Fits.token_ne_nil

theorem variableName_takes : variableName.Takes (fun name => [.target name]) fun _ => True := by
  refine .labelled (Takes.select fun t name span ht => ?_)
  split at ht <;> cases ht
  exact ⟨.target .nil, trivial⟩

theorem pathStep_takes :
    pathStep.Takes (fun step => [.symbol .dot, .token (.ident step)]) fun _ => True :=
  .bind (Takes.symbol .dot) fun _ _ ⟨hd, _⟩ => .last identifier_takes fun _ _ ⟨hn, _⟩ =>
    ⟨hd.append hn, trivial⟩

theorem assign_takes : assign.Takes (fun s => [s.layout]) Segment.Shaped := by
  have target : Takes (do
      let name ← variableName
      let path ← many pathStep
      Parser.symbol .assign
      return (name, path, ← expression))
      (fun r => [Layout.target r.1] ++
        r.2.1.flatMap (fun step => [Layout.symbol .dot, Layout.token (.ident step)]) ++
        [Layout.symbol .assign] ++ [r.2.2.layout]) fun r => r.2.2.Shaped :=
    .bind variableName_takes fun _ _ ⟨hn, _⟩ => .bind pathStep_takes.many fun _ _ ⟨hp, _⟩ =>
      .bind (Takes.symbol .assign) fun _ _ ⟨ha, _⟩ => .bind expression_sound.shaped
        fun _ _ ⟨hf, hs⟩ => .pure ⟨((hn.append hp).append ha).append hf, hs⟩
  refine .labelled (.bind (directive_takes .assign target)
    fun ((_, _, _), _) _ ⟨hf, hs⟩ => .pure ⟨?_, .assign hs⟩)
  simpa [Segment.layout] using hf

theorem optionalComma_takes (written : Bool) :
    optionalComma.Takes (fun _ => [.comma written]) fun _ => True := by
  refine .bind (Yields.optional (Takes.symbol .comma)) ?_
  rintro o ls (⟨-, rfl⟩ | ⟨_, -, hf, -⟩)
  · exact .pure ⟨.noComma .nil, trivial⟩
  · cases hf with
    | token hf => exact .pure ⟨.comma hf, trivial⟩

theorem parameterName_takes :
    Takes (labelled .parameter <| select fun
      | .reference name false => some name
      | _ => none) (fun p => [.token (.reference p false)]) fun _ => True := by
  refine .labelled (Takes.select fun t name span ht => ?_)
  split at ht <;> cases ht
  exact ⟨.token .nil, trivial⟩

theorem parameter_takes :
    parameter.Takes (fun p => [.token (.reference p false), .comma false]) fun _ => True :=
  .bind parameterName_takes fun _ _ ⟨hn, _⟩ => .bind (optionalComma_takes false)
    fun _ _ ⟨hc, _⟩ => .pure ⟨hn.append hc, trivial⟩

theorem callArgument_takes :
    callArgument.Takes (fun e => [e.layout, .comma true]) Expr.Shaped :=
  .bind expression_sound.shaped fun _ _ ⟨hf, hs⟩ => .bind (optionalComma_takes true)
    fun _ _ ⟨hc, _⟩ => .pure ⟨hf.append hc, hs⟩

theorem callName_takes :
    Takes (select fun
      | .macroCall name => some name
      | _ => none) (fun name => [.token (.macroCall name)]) fun _ => True := by
  refine .select fun t name span ht => ?_
  split at ht <;> cases ht
  exact ⟨.token .nil, trivial⟩

theorem callArguments_take :
    (parenthesized (many callArgument)).Takes
      (fun es => Layout.symbol .openParen :: Layout.spaced (layoutItems es) ++
        [Layout.symbol .closeParen])
      fun es => ∀ e ∈ es, e.Shaped :=
  Takes.between (callArgument_takes.many.mono fun _ _ ⟨hf, hs⟩ => ⟨hf.spaced, hs⟩)

theorem callParts_take :
    Takes (do
      let name ← select fun
        | .macroCall name => some name
        | _ => none
      return (name, ← optional (parenthesized (many callArgument))))
      (fun r => .token (.macroCall r.1) :: match r.2 with
        | none => []
        | some es =>
          Layout.symbol .openParen :: Layout.spaced (layoutItems es) ++ [Layout.symbol .closeParen])
      fun r => ∀ es ∈ r.2, ∀ e ∈ es, e.Shaped :=
  .bind callName_takes fun _ _ ⟨hn, _⟩ => .bind (callArguments_take.optional rfl fun _ => rfl)
    fun _ _ ⟨hf, hs⟩ => .pure ⟨hn.append hf, hs⟩

theorem invocation_takes : invocation.Takes (fun s => [s.layout]) Segment.Shaped := by
  refine .labelled (.bind (callParts_take.spanned fun _ _ => Fits.token_ne_nil)
    fun ((_, arguments), _) _ ⟨hf, hs⟩ => .pure ⟨?_, .macroCall hs⟩)
  cases arguments <;> exact hf

theorem evaluate_takes : evaluate.Takes (fun s => [s.layout]) Segment.Shaped :=
  .labelled (.bind (directive_takes .evaluate expression_sound.shaped)
    fun (_, _) _ ⟨hf, hs⟩ => .pure ⟨hf, .evaluate hs⟩)

theorem parse_takes : parse.Takes (fun s => [s.layout]) Segment.Shaped :=
  .labelled (.bind (directive_takes .parse expression_sound.shaped)
    fun (_, _) _ ⟨hf, hs⟩ => .pure ⟨hf, .parse hs⟩)

theorem embed_takes : embed.Takes (fun s => [s.layout]) Segment.Shaped := by
  have arguments := Takes.itemsOne false expression_sound.shaped
  simp only [← layoutItems_eq] at arguments
  exact .labelled (.bind (directive_takes .embed arguments)
    fun (_, _) _ ⟨hf, hn, hs⟩ => .pure ⟨hf, .embed hn hs⟩)

theorem leave_takes : leave.Takes (fun s => [s.layout]) Segment.Shaped :=
  .bind ((Takes.keyword .leave).spanned fun _ _ => Fits.token_ne_nil)
    fun _ _ ⟨hf, _⟩ => .pure ⟨hf, .leave⟩

theorem stop_takes : stop.Takes (fun s => [s.layout]) Segment.Shaped :=
  .bind ((Takes.keyword .stop).spanned fun _ _ => Fits.token_ne_nil)
    fun _ _ ⟨hf, _⟩ => .pure ⟨hf, .stop⟩

theorem isText_of_literalText?_eq_none {t : Token} (h : t.literalText? = none) :
    t.isText = false := by
  cases t with
  | text _ | newline | escaped _ => cases h
  | _ => rfl

theorem text_stops {c next : Cursor} {s : Segment} {missed : Option Failure}
    (h : text c = .success s next missed) : ∀ l ∈ next.rest.head?, l.1.isText = false := by
  rw [text_eq] at h
  obtain ⟨⟨_, _⟩, _, _, _, hs, hp⟩ := bind_eq_success h
  cases hp
  obtain ⟨_, _, _, _, -, hm⟩ := bind_eq_success (spanned_eq_success hs)
  obtain ⟨_, _, _, _, hm, hp⟩ := bind_eq_success hm
  cases hp
  exact fun l hl => isText_of_literalText?_eq_none (many_select_stops hm l hl)

theorem text_ne_failure {c : Cursor} {l : Lexeme} (hl : l ∈ c.rest.head?) (ht : l.1.isText)
    (e : Failure) : text c ≠ .failure e := by
  intro h
  rw [text_eq] at h
  rcases bind_eq_failure h with ⟨_, hs⟩ | ⟨_, _, _, _, -, hp⟩
  · rcases bind_eq_failure (spanned_eq_failure hs) with ⟨_, hf⟩ | ⟨_, _, _, _, -, hm⟩
    · have none := isText_of_literalText?_eq_none (select_eq_failure hf l hl)
      rw [ht] at none
      cases none
    · rcases bind_eq_failure hm with ⟨_, hf⟩ | ⟨_, _, _, _, -, hp⟩
      · exact many_ne_failure _ _ _ hf
      · cases hp
  · cases hp

theorem isText_head {s : Segment} {ls : List Lexeme} (hf : Fits [s.layout] ls) (hs : s.isText) :
    ∃ l ∈ ls.head?, l.1.isText := by
  cases s with
  | text content span =>
      cases hf with
      | part hi _ h =>
          cases hi with
          | @run pieces _ _ hn ht _ =>
              obtain ⟨l, more, rfl⟩ := List.exists_cons_of_ne_nil hn
              exact ⟨l, by simp, ht l (by simp)⟩
  | _ => cases hs

theorem loopHeader_takes :
    Takes (do
      let variableName ← variableName
      token (.reserved .inside)
      return (variableName, ← expression))
      (fun r => [.target r.1, .token (.reserved .inside), r.2.layout]) fun r => r.2.Shaped :=
  .bind variableName_takes fun _ _ ⟨hn, _⟩ => .bind (Takes.token _) fun _ _ ⟨ht, _⟩ =>
    .bind expression_sound.shaped fun _ _ ⟨hf, hs⟩ => .pure ⟨(hn.append ht).append hf, hs⟩

theorem defineHeader_takes :
    Takes (do
      let name ← labelled .definitionName identifier
      optionalComma
      return (name, ← many parameter))
      (fun r => [Layout.token (.ident r.1), Layout.comma false] ++
        r.2.flatMap fun p => [.token (.reference p false), .comma false]) fun _ => True :=
  .bind (Yields.labelled identifier_takes) fun _ _ ⟨hn, _⟩ => .bind (optionalComma_takes false)
    fun _ _ ⟨hc, _⟩ => .bind parameter_takes.many fun _ _ ⟨hp, _⟩ =>
      .pure ⟨(hn.append hc).append hp, trivial⟩

section Blocks

variable {body : Parser (List Segment)} (h : body.Takes layoutBody BodyShaped)

include h

theorem arm_takes (word : Keyword) : (arm word body).Takes (·.layout word) Arm.Shaped :=
  .bind (directive_takes word expression_sound.shaped) fun (_, _) _ ⟨hf, hs⟩ => .bind h
    fun _ _ ⟨hf', hb⟩ => .pure ⟨hf.append hf', .mk hs hb.segments hb.texts⟩

theorem fallback_takes :
    (fallback body).Takes (fun f => layoutFallback (some f)) Fallback.Shaped :=
  .bind ((Takes.keyword .otherwise).spanned fun _ _ => Fits.token_ne_nil) fun (_, _) _ ⟨hf, _⟩ =>
    .bind h fun _ _ ⟨hf', hb⟩ => .pure ⟨hf.append hf', .mk hb.segments hb.texts⟩

theorem conditional_takes : (conditional body).Takes (fun s => [s.layout]) Segment.Shaped := by
  have arms : (many (arm .elseIf body)).Takes layoutArms fun as => ∀ a ∈ as, a.Shaped := by
    rw [show layoutArms = _ from funext layoutArms_eq]
    exact (arm_takes h .elseIf).many
  have otherwise := (fallback_takes h).optional rfl fun _ => rfl
  have inner : Takes (do
      let first ← arm .ifThen body
      let rest ← many (arm .elseIf body)
      let otherwise ← optional (fallback body)
      return (first, rest, otherwise, ← close))
      (fun r => r.1.layout .ifThen ++ layoutArms r.2.1 ++ layoutFallback r.2.2.1 ++
        [Layout.part r.2.2.2 [Layout.keyword .close]])
      fun r => r.1.Shaped ∧ (∀ a ∈ r.2.1, a.Shaped) ∧ ∀ f ∈ r.2.2.1, f.Shaped :=
    .bind (arm_takes h .ifThen) fun _ _ ⟨hf, ha⟩ => .bind arms fun _ _ ⟨hr, hs⟩ =>
      .bind otherwise fun _ _ ⟨ho, hfs⟩ => .bind close_takes fun _ _ ⟨hc, _⟩ =>
        .pure ⟨((hf.append hr).append ho).append hc, ha, hs, hfs⟩
  have hn (r : Arm × List Arm × Option Fallback × Span) (ls : List Lexeme) (hf : Fits
      (r.1.layout .ifThen ++ layoutArms r.2.1 ++ layoutFallback r.2.2.1 ++
        [Layout.part r.2.2.2 [Layout.keyword .close]]) ls) : ls ≠ [] := by
    obtain ⟨⟨_, _, _⟩, _, _, _⟩ := r
    exact hf.part_ne_nil
  exact .labelled (.bind (inner.spanned hn) fun ((_, _, _, _), _) _ ⟨hf, ha, hs, hfs⟩ =>
    .pure ⟨hf, .conditional ha hs hfs⟩)

theorem loopParts_take :
    Takes (do
      let ((variableName, iterable), header) ← spanned do
        keyword .forEach
        parenthesized do
          let variableName ← variableName
          token (.reserved .inside)
          return (variableName, ← expression)
      let inner ← body
      let otherwise ← optional (fallback body)
      return (header, variableName, iterable, inner, otherwise, ← close))
      (fun r => .part r.1 [.keyword .forEach, .symbol .openParen, .target r.2.1,
        .token (.reserved .inside), r.2.2.1.layout, .symbol .closeParen] ::
          layoutBody r.2.2.2.1 ++ layoutFallback r.2.2.2.2.1 ++
          [Layout.part r.2.2.2.2.2 [Layout.keyword .close]])
      fun r => r.2.2.1.Shaped ∧ BodyShaped r.2.2.2.1 ∧ ∀ f ∈ r.2.2.2.2.1, f.Shaped :=
  .bind (directive_takes .forEach loopHeader_takes) fun ((_, _), _) _ ⟨hf, hs⟩ =>
    .bind h fun _ _ ⟨hf', hb⟩ => .bind ((fallback_takes h).optional rfl fun _ => rfl)
      fun _ _ ⟨ho, hfs⟩ => .bind close_takes fun _ _ ⟨hc, _⟩ =>
        .pure ⟨((hf.append hf').append ho).append hc, hs, hb, hfs⟩

theorem loop_takes : (loop body).Takes (fun s => [s.layout]) Segment.Shaped :=
  .labelled (.bind ((loopParts_take h).spanned fun _ _ => Fits.part_ne_nil)
    fun ((_, _, _, _, _, _), _) _ ⟨hf, hs, hb, hfs⟩ =>
      .pure ⟨hf, .loop hs hb.segments hb.texts hfs⟩)

theorem defineParts_take :
    Takes (do
      let ((name, parameters), header) ← spanned do
        keyword .define
        parenthesized do
          let name ← labelled .definitionName identifier
          optionalComma
          return (name, ← many parameter)
      let inner ← body
      return (header, name, parameters, inner, ← close))
      (fun r => .part r.1 (.keyword .define :: .symbol .openParen ::
        ([Layout.token (.ident r.2.1), Layout.comma false] ++
          r.2.2.1.flatMap fun p => [Layout.token (.reference p false), Layout.comma false]) ++
        [Layout.symbol .closeParen]) :: layoutBody r.2.2.2.1 ++
          [Layout.part r.2.2.2.2 [Layout.keyword .close]])
      fun r => BodyShaped r.2.2.2.1 :=
  .bind (directive_takes .define defineHeader_takes) fun ((_, _), _) _ ⟨hf, _⟩ =>
    .bind h fun _ _ ⟨hf', hb⟩ => .bind close_takes fun _ _ ⟨hc, _⟩ =>
      .pure ⟨(hf.append hf').append hc, hb⟩

theorem define_takes : (define body).Takes (fun s => [s.layout]) Segment.Shaped :=
  .labelled (.bind ((defineParts_take h).spanned fun _ _ => Fits.part_ne_nil)
    fun ((_, _, _, _, _), _) _ ⟨hf, hb⟩ => .pure ⟨hf, .define hb.segments hb.texts⟩)

/-- The segments other than text. -/
theorem markup_takes :
    (choice [unparsed, referenceSegment, formalSegment, conditional body, assign, loop body,
      define body, invocation, evaluate, parse, embed, leave, stop]).Takes
      (fun s => [s.layout]) Segment.Shaped :=
  .choice (by simpa using ⟨unparsed_takes, referenceSegment_takes, formalSegment_takes,
    conditional_takes h, assign_takes, loop_takes h, define_takes h, invocation_takes,
    evaluate_takes, parse_takes, embed_takes, leave_takes, stop_takes⟩)

theorem segment_takes : (segment body).Takes (fun s => [s.layout]) Segment.Shaped :=
  .orElse text_takes (markup_takes h)

theorem segment_apart {c next last : Cursor} {a b : Segment} {missed missed' : Option Failure}
    (ha : segment body c = .success a next missed)
    (hb : segment body next = .success b last missed') : a.MayPrecede b := by
  intro ⟨hta, htb⟩
  obtain ⟨ls, hl, hf, -⟩ := (segment_takes h).taken hb
  obtain ⟨l, hl', ht⟩ := isText_head hf htb
  have head : l ∈ next.rest.head? := by simp [hl.rest, Option.mem_def.1 hl']
  change orElse text _ c = _ at ha
  unfold orElse at ha
  split at ha
  · next hs =>
    cases ha
    rw [text_stops hs l head] at ht
    cases ht
  · next e he =>
    split at ha
    · next hs =>
      cases ha
      obtain ⟨ls, hl, hf, -⟩ := (markup_takes h).taken hs
      obtain ⟨l, hl', ht⟩ := isText_head hf hta
      exact text_ne_failure (by simp [hl.rest, Option.mem_def.1 hl']) ht e he
    · cases ha

end Blocks

theorem bodyWithin_takes (depth : Nat) : (bodyWithin depth).Takes layoutBody BodyShaped := by
  induction depth with
  | zero => exact Yields.fail
  | succ depth ih =>
      rw [show layoutBody = _ from funext layoutBody_eq]
      refine ⟨fun {c body next missed} h => ?_⟩
      obtain ⟨ls, hl, hf, hs⟩ := (segment_takes ih).many.taken h
      exact ⟨ls, hl, hf, hs, many_isChain (segment_apart ih) h⟩

/-- A template is read to its end. -/
theorem template_takes {c next : Cursor} {body : List Segment} {missed : Option Failure}
    (h : template c = .success body next missed) :
    Fits (layoutBody body) c.rest ∧ BodyShaped body := by
  obtain ⟨_, _, _, _, hb, he⟩ := bind_eq_success h
  obtain ⟨ls, hl, hf, hs⟩ := (bodyWithin_takes _).taken hb
  obtain ⟨_, _, _, _, he, hp⟩ := bind_eq_success he
  cases hp
  rw [hl.rest, endOfInput_eq_success he, List.append_nil]
  exact ⟨hf, hs⟩

end Markup.Grammar

end Template
