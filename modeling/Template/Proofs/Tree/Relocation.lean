import Template.Proofs.Tree.Places
import Template.Proofs.Tree.Printing
import Template.Proofs.Tree.StringRuns

/-!
The same text in another place. Two builders make the same tree of a text, but for the places, if
they take the same from their sources: what a string stands for, and what a reference or a call
repeats. The text between the quotes of a string is such a text: without double quotes in it, it
gives what it gives as a source of its own.
-/

namespace Template

namespace Tree

theorem unplacedNodes_append (ms ns : List Node) :
    unplacedNodes (ms ++ ns) = unplacedNodes ms ++ unplacedNodes ns := by
  induction ms with
  | nil => rfl
  | cons m ms ih => simp [ih]

namespace Builder

open Markup

/-- The builders take the same from their sources where these have the tokens. -/
structure Agree (b b' : Builder) (ls : List Lexeme) : Prop where
  literal {raw : String} {s : Span} (h : (.str raw, s) ∈ ls) :
    (b.literal (.str raw) s).unplaced = (b'.literal (.str raw) s).unplaced
  sourceText {la : List Lexeme} {s : Span} (hl : la <:+: ls) (covers : s.Covers la) :
    b.sourceText s = b'.sourceText s

theorem unaries_unplaced {place place' : Region} {operand operand' : Expr}
    (h : operand.unplaced = operand'.unplaced) (ops : List UnaryOp) :
    (unaries place operand ops).unplaced = (unaries place' operand' ops).unplaced := by
  induction ops with
  | nil => exact h
  | cons op ops ih => simp only [unaries, Expr.unplaced, ih]

theorem textNode_unplaced (b b' : Builder) (content : String) (s : Span) :
    unplacedNodes (b.textNode content s) = unplacedNodes (b'.textNode content s) := by
  unfold textNode
  split <;> rfl

namespace Agree

variable {b b' : Builder} {ls la : List Lexeme}

theorem restrict (h : b.Agree b' ls) (hl : la <:+: ls) : b.Agree b' la where
  literal hm := h.literal (hl.subset hm)
  sourceText hla := h.sourceText (hla.trans hl)

theorem literal_unplaced (h : b.Agree b' ls) {value : Markup.Literal} {s : Span}
    (hf : FitsIn [(Primary.literal value s).layout] ls) :
    (b.literal value s).unplaced = (b'.literal value s).unplaced := by
  obtain ⟨la, hl, covers, fits⟩ := hf.part
  obtain rfl := fits.eq_of_covers covers
  cases value with
  | str raw => exact h.literal (hl.subset (List.mem_singleton.2 rfl))
  | _ => rfl

mutual

theorem expr {ls : List Lexeme} (h : b.Agree b' ls) : (e : Markup.Expr) → e.Shaped →
    FitsIn [e.layout] ls → (b.expr e).unplaced = (b'.expr e).unplaced
  | .ternary condition thenCase elseCase s, shaped, hf => by
      cases shaped with
      | ternary _ hc ht he =>
          obtain ⟨la, hl, -, fits⟩ := hf.part
          have inner := h.restrict hl
          simp only [Builder.expr, Expr.unplaced,
            inner.expr condition hc (fits.mem (by simp)),
            inner.expr thenCase ht (fits.mem (by simp)),
            inner.expr elseCase he (fits.mem (by simp))]
  | .chain first rest s, shaped, hf => by
      cases shaped with
      | chain _ _ _ hf' _ hr =>
          obtain ⟨la, hl, -, fits⟩ := hf.part
          have inner := h.restrict hl
          simp only [Builder.expr]
          exact inner.operands rest hr
            (fun p hp => fits.mem (List.mem_cons_of_mem _ (mem_layoutRest hp)))
            (inner.expr first hf' (fits.mem (by simp)))
  | .unary operators operand s, shaped, hf => by
      cases shaped with
      | unary _ _ ho =>
          obtain ⟨la, hl, -, fits⟩ := hf.part
          simp only [Builder.expr]
          exact unaries_unplaced ((h.restrict hl).expr operand ho (fits.mem (by simp))) operators
  | .applied primary suffixes s, shaped, hf => by
      cases shaped with
      | applied _ hp hx =>
          obtain ⟨la, hl, -, fits⟩ := hf.part
          have inner := h.restrict hl
          simp only [Builder.expr]
          exact inner.suffixes suffixes hx
            (fun x hx => fits.mem (List.mem_cons_of_mem _ (mem_layoutSuffixes hx)))
            (inner.primary primary hp (fits.mem (by simp)))
  | .primary primary, shaped, hf => by
      cases shaped with
      | primary hp =>
          simp only [Builder.expr]
          exact h.primary primary hp hf

theorem operands {ls : List Lexeme} (h : b.Agree b' ls) :
    (rest : List (BinaryOp × Markup.Expr)) → (∀ p ∈ rest, p.2.Shaped) →
      (∀ p ∈ rest, FitsIn [p.2.layout] ls) → {left left' : Expr} →
        left.unplaced = left'.unplaced →
          (b.operands left rest).unplaced = (b'.operands left' rest).unplaced
  | [], _, _, _, _, same => by
      simp only [Builder.operands]
      exact same
  | (op, e) :: rest, shaped, hf, left, left', same => by
      obtain ⟨he, shaped⟩ := List.forall_mem_cons.1 shaped
      obtain ⟨fe, hf⟩ := List.forall_mem_cons.1 hf
      simp only [Builder.operands]
      refine h.operands rest shaped hf ?_
      simp only [Expr.unplaced, same, h.expr e he fe]

theorem primary {ls : List Lexeme} (h : b.Agree b' ls) : (p : Primary) → p.Shaped →
    FitsIn [p.layout] ls → (b.primary p).unplaced = (b'.primary p).unplaced
  | .literal value s, _, hf => by
      simp only [Builder.primary]
      exact h.literal_unplaced hf
  | .reference name quiet s, _, _ => by
      simp only [Builder.primary, Expr.unplaced]
  | .formal inner quiet s, shaped, hf => by
      cases shaped with
      | formal named hi =>
          obtain ⟨la, hl, -, fits⟩ := hf.part
          simp only [Builder.primary]
          exact (h.restrict hl).inBraces inner named hi (fits.mem (by simp))
  | .group inner s, shaped, hf => by
      cases shaped with
      | group hi =>
          obtain ⟨la, hl, -, fits⟩ := hf.part
          simp only [Builder.primary]
          exact (h.restrict hl).expr inner hi (fits.mem (by simp))
  | .list items s, shaped, hf => by
      cases shaped with
      | list hi =>
          obtain ⟨la, hl, -, fits⟩ := hf.part
          simp only [Builder.primary, Expr.unplaced]
          rw [(h.restrict hl).exprs items hi fun e he => fits.mem
            (List.mem_append_left _ (List.mem_cons_of_mem _ (mem_row_items he)))]
  | .range first last s, shaped, hf => by
      cases shaped with
      | range hf' hl' =>
          obtain ⟨la, hl, -, fits⟩ := hf.part
          have inner := h.restrict hl
          simp only [Builder.primary, Expr.unplaced,
            inner.expr first hf' (fits.mem (by simp)), inner.expr last hl' (fits.mem (by simp))]
  | .map entries s, shaped, hf => by
      cases shaped with
      | map he =>
          obtain ⟨la, hl, -, fits⟩ := hf.part
          simp only [Builder.primary, Expr.unplaced]
          rw [(h.restrict hl).entries entries he fun p hp => fits.mem
            (List.mem_append_left _ (List.mem_cons_of_mem _ (mem_row_entries hp)))]

/-- A name in braces and what is applied to it. -/
theorem inBraces {ls : List Lexeme} (h : b.Agree b' ls) : (e : Markup.Expr) → e.Named false →
    e.Shaped → FitsIn [e.layoutInBraces] ls → (b.expr e).unplaced = (b'.expr e).unplaced
  | .applied (.reference name quiet place) suffixes s, _, shaped, hf => by
      cases shaped with
      | applied _ _ hx =>
          obtain ⟨la, hl, -, fits⟩ := hf.part
          simp only [Builder.expr, Builder.primary]
          exact (h.restrict hl).suffixes suffixes hx
            (fun x hx => fits.mem (List.mem_cons_of_mem _ (mem_layoutSuffixes hx))) rfl
  | .primary (.reference name quiet place), _, _, _ => by
      simp only [Builder.expr, Builder.primary, Expr.unplaced]

theorem exprs {ls : List Lexeme} (h : b.Agree b' ls) : (es : List Markup.Expr) →
    (∀ e ∈ es, e.Shaped) → (∀ e ∈ es, FitsIn [e.layout] ls) →
      unplacedExprs (b.exprs es) = unplacedExprs (b'.exprs es)
  | [], _, _ => by simp only [Builder.exprs]
  | e :: es, shaped, hf => by
      obtain ⟨he, shaped⟩ := List.forall_mem_cons.1 shaped
      obtain ⟨fe, hf⟩ := List.forall_mem_cons.1 hf
      simp only [Builder.exprs, unplacedExprs, h.expr e he fe, h.exprs es shaped hf]

theorem entries {ls : List Lexeme} (h : b.Agree b' ls) :
    (entries : List (MapKey × Markup.Expr)) → (∀ p ∈ entries, p.2.Shaped) →
      (∀ p ∈ entries, FitsIn [p.2.layout] ls) →
      Tree.unplacedEntries (b.entries entries) = Tree.unplacedEntries (b'.entries entries)
  | [], _, _ => by simp only [Builder.entries]
  | (key, e) :: rest, shaped, hf => by
      obtain ⟨he, shaped⟩ := List.forall_mem_cons.1 shaped
      obtain ⟨fe, hf⟩ := List.forall_mem_cons.1 hf
      simp only [Builder.entries, Tree.unplacedEntries, h.expr e he fe, h.entries rest shaped hf]

theorem suffixes {ls : List Lexeme} (h : b.Agree b' ls) : (suffixes : List Markup.Suffix) →
    (∀ x ∈ suffixes, x.Shaped) → (∀ x ∈ suffixes, FitsIn [x.layout] ls) →
      {object object' : Expr} → object.unplaced = object'.unplaced →
        (b.suffixes object suffixes).unplaced = (b'.suffixes object' suffixes).unplaced
  | [], _, _, _, _, same => by
      simp only [Builder.suffixes]
      exact same
  | x :: rest, shaped, hf, object, object', same => by
      obtain ⟨hx, shaped⟩ := List.forall_mem_cons.1 shaped
      obtain ⟨fx, hf⟩ := List.forall_mem_cons.1 hf
      simp only [Builder.suffixes]
      exact h.suffixes rest shaped hf (h.suffix x hx fx same)

theorem suffix {ls : List Lexeme} (h : b.Agree b' ls) : (x : Markup.Suffix) → x.Shaped →
    FitsIn [x.layout] ls → {object object' : Expr} → object.unplaced = object'.unplaced →
      (b.suffix object x).unplaced = (b'.suffix object' x).unplaced
  | .property name s, _, _, _, _, same => by
      simp only [Builder.suffix, Expr.unplaced, same]
  | .call arguments s, shaped, hf, _, _, same => by
      cases shaped with
      | call ha =>
          obtain ⟨la, hl, -, fits⟩ := hf.part
          simp only [Builder.suffix, Expr.unplaced, same]
          rw [(h.restrict hl).exprs arguments ha fun e he => fits.mem
            (List.mem_append_left _ (List.mem_cons_of_mem _ (mem_row_items he)))]
  | .index key s, shaped, hf, _, _, same => by
      cases shaped with
      | index hk =>
          obtain ⟨la, hl, -, fits⟩ := hf.part
          simp only [Builder.suffix, Expr.unplaced, same,
            (h.restrict hl).expr key hk (fits.mem (by simp))]

end

mutual

theorem segment {ls : List Lexeme} (h : b.Agree b' ls) : (x : Markup.Segment) → x.Shaped →
    FitsIn [x.layout] ls → unplacedNodes (b.segment x) = unplacedNodes (b'.segment x)
  | .text content s, _, _ | .unparsed content s, _, _ => by
      simp only [Builder.segment]
      exact textNode_unplaced b b' content s
  | .leave s, _, _ | .stop s, _, _ => by
      simp only [Builder.segment, unplacedNodes, Node.unplaced]
  | .reference e quiet s, shaped, hf => by
      cases shaped with
      | reference _ he =>
          obtain ⟨la, hl, covers, fits⟩ := hf.part
          simp only [Builder.segment, unplacedNodes, Node.unplaced, h.sourceText hl covers,
            (h.restrict hl).expr e he (fits.mem (by simp))]
  | .formal e quiet s, shaped, hf => by
      cases shaped with
      | formal named he =>
          obtain ⟨la, hl, covers, fits⟩ := hf.part
          simp only [Builder.segment, unplacedNodes, Node.unplaced, h.sourceText hl covers,
            (h.restrict hl).inBraces e named he (fits.mem (by simp))]
  | .conditional first rest otherwise close s, shaped, hf => by
      cases shaped with
      | conditional hf' hr ho =>
          obtain ⟨la, hl, -, fits⟩ := hf.part
          have inner := h.restrict hl
          have branches := fits.fitsIn.front
          simp only [Builder.segment, unplacedNodes, Node.unplaced, unplacedBranches,
            inner.arm first hf' branches.front.front, inner.arms rest hr branches.front.back,
            inner.fallback otherwise ho branches.back]
  | .assign name path value s, shaped, hf => by
      cases shaped with
      | assign hv =>
          obtain ⟨la, hl, -, fits⟩ := hf.part
          simp only [Builder.segment, unplacedNodes, Node.unplaced,
            (h.restrict hl).expr value hv (fits.mem (by simp))]
  | .loop header item iterable body otherwise close s, shaped, hf => by
      cases shaped with
      | loop hi hb _ ho =>
          obtain ⟨la, hl, -, fits⟩ := hf.part
          have inner := h.restrict hl
          have whole := fits.fitsIn.front
          obtain ⟨lh, hh, -, inside⟩ := (whole.front.front (a := [_])).part
          simp only [Builder.segment, unplacedNodes, Node.unplaced,
            (inner.restrict hh).expr iterable hi (inside.mem (by simp)),
            inner.segments body hb (whole.front.back (a := [_])),
            inner.fallback otherwise ho whole.back]
  | .define header name parameters body close s, shaped, hf => by
      cases shaped with
      | define hb _ =>
          obtain ⟨la, hl, -, fits⟩ := hf.part
          simp only [Builder.segment, unplacedNodes, Node.unplaced,
            (h.restrict hl).segments body hb (fits.fitsIn.front.back (a := [_]))]
  | .macroCall name none s, _, hf => by
      obtain ⟨la, hl, covers, -⟩ := hf.part
      simp only [Builder.segment, Option.getD_none, Builder.exprs, unplacedNodes, Node.unplaced,
        h.sourceText hl covers]
  | .macroCall name (some arguments) s, shaped, hf => by
      cases shaped with
      | macroCall ha =>
          obtain ⟨la, hl, covers, fits⟩ := hf.part
          simp only [Builder.segment, Option.getD_some, unplacedNodes, Node.unplaced,
            h.sourceText hl covers]
          rw [(h.restrict hl).exprs arguments (ha arguments rfl) fun e he => fits.mem
            (List.mem_append_left _ (List.mem_cons_of_mem _ (List.mem_cons_of_mem _
              (mem_row_items he))))]
  | .evaluate argument s, shaped, hf => by
      cases shaped with
      | evaluate ha =>
          obtain ⟨la, hl, -, fits⟩ := hf.part
          simp only [Builder.segment, unplacedNodes, Node.unplaced,
            (h.restrict hl).expr argument ha (fits.mem (by simp))]
  | .parse argument s, shaped, hf => by
      cases shaped with
      | parse ha =>
          obtain ⟨la, hl, -, fits⟩ := hf.part
          simp only [Builder.segment, unplacedNodes, Node.unplaced,
            (h.restrict hl).expr argument ha (fits.mem (by simp))]
  | .embed arguments s, shaped, hf => by
      cases shaped with
      | embed _ ha =>
          obtain ⟨la, hl, -, fits⟩ := hf.part
          simp only [Builder.segment, unplacedNodes, Node.unplaced]
          rw [(h.restrict hl).exprs arguments ha fun e he => fits.mem
            (List.mem_append_left _ (List.mem_cons_of_mem _ (List.mem_cons_of_mem _
              (mem_row_items he))))]

theorem arm {ls : List Lexeme} (h : b.Agree b' ls) : (a : Markup.Arm) → a.Shaped →
    {word : Keyword} → FitsIn (a.layout word) ls → (b.arm a).unplaced = (b'.arm a).unplaced
  | .mk header condition body, shaped, word, hf => by
      cases shaped with
      | mk hc hb =>
          obtain ⟨la, hl, -, fits⟩ := (hf.of_mem (List.mem_cons_self ..)).part
          simp only [Builder.arm, Branch.unplaced,
            (h.restrict hl).expr condition hc (fits.mem (by simp)),
            h.segments body hb (hf.back (a := [_]))]

theorem arms {ls : List Lexeme} (h : b.Agree b' ls) : (arms : List Markup.Arm) →
    (∀ a ∈ arms, a.Shaped) → FitsIn (layoutArms arms) ls →
      unplacedBranches (b.arms arms) = unplacedBranches (b'.arms arms)
  | [], _, _ => by simp only [Builder.arms]
  | a :: arms, shaped, hf => by
      obtain ⟨ha, shaped⟩ := List.forall_mem_cons.1 shaped
      simp only [Builder.arms, unplacedBranches, h.arm a ha hf.front, h.arms arms shaped hf.back]

theorem fallback {ls : List Lexeme} (h : b.Agree b' ls) : (f : Option Markup.Fallback) →
    (∀ g ∈ f, g.Shaped) → FitsIn (layoutFallback f) ls →
      unplacedOtherwise (b.fallback f) = unplacedOtherwise (b'.fallback f)
  | none, _, _ => by simp only [Builder.fallback]
  | some (.mk header body), shaped, hf => by
      cases shaped _ rfl with
      | mk hb =>
          simp only [Builder.fallback, unplacedOtherwise, h.segments body hb (hf.back (a := [_]))]

theorem segments {ls : List Lexeme} (h : b.Agree b' ls) : (body : List Markup.Segment) →
    (∀ x ∈ body, x.Shaped) → FitsIn (layoutBody body) ls →
      unplacedNodes (b.segments body) = unplacedNodes (b'.segments body)
  | [], _, _ => by simp only [Builder.segments]
  | x :: xs, shaped, hf => by
      obtain ⟨hx, shaped⟩ := List.forall_mem_cons.1 shaped
      simp only [Builder.segments, unplacedNodes_append,
        h.segment x hx (hf.front (a := [x.layout])),
        h.segments xs shaped (hf.back (a := [x.layout]))]

end

end Agree

end Builder

end Tree

/-! ### Texts without double quotes -/

/-- Tokens that say nothing with a double quote. -/
def Token.Quoteless : Token → Prop
  | .text said | .unparsed said | .escaped said | .str said => '"' ∉ said.toList
  | _ => True

theorem Token.Spelled.quoteless {t : Token} {cs : List Char} (h : t.Spelled cs) (hc : '"' ∉ cs) :
    t.Quoteless := by
  cases h with
  | text | str => simpa only [Quoteless, String.toList_ofList] using hc
  | unparsed => simp_all [Quoteless]
  | escaped => simp_all [Quoteless]
  | _ => trivial

theorem Token.Quoteless.literalText {t : Token} {content : String} (h : t.Quoteless)
    (ht : t.literalText? = some content) : '"' ∉ content.toList := by
  cases t with
  | text | escaped =>
      cases ht
      exact h
  | newline =>
      cases ht
      decide
  | _ => cases ht

theorem Lexeme.Stand.quoteless {source : List Char} {offset : Nat} {ls : List Lexeme}
    (h : Stand source offset ls) (hq : '"' ∉ source) : ∀ l ∈ ls, l.1.Quoteless := by
  intro l hl
  obtain ⟨before, cs, after, rfl, spelled, -⟩ := h.spelled l hl
  exact spelled.quoteless fun hc => hq (List.mem_append_right _ (List.mem_append_left _ hc))

theorem Lexeme.quoteless_literalText {ls : List Lexeme} (h : ∀ l ∈ ls, l.1.Quoteless) :
    '"' ∉ (literalText ls).toList := by
  induction ls with
  | nil => simp [literalText]
  | cons l ls ih =>
      obtain ⟨t, span⟩ := l
      obtain ⟨hl, h⟩ := List.forall_mem_cons.1 h
      cases ht : t.literalText? with
      | none => simpa [literalText, ht] using ih h
      | some content =>
          rw [literalText_cons ht, String.toList_append, List.mem_append]
          exact not_or.2 ⟨hl.literalText ht, ih h⟩

namespace Tree

theorem unquote_of_quoteless {cs : List Char} (h : '"' ∉ cs) : unquote '"' cs = cs :=
  (unquote_eq_self_iff '"' cs).2
    ⟨fun hc => h (hc.subset (by simp)), fun hc => h (hc.subset (by simp))⟩

namespace Builder

/-- Without double quotes a string literal is no template. -/
theorem literal_of_quoteless (b : Builder) {raw : String} (h : '"' ∉ raw.toList) (s : Span) :
    b.literal (.str raw) s =
      .literal (.text (String.ofList (unquote (splitQuotes raw).1 (splitQuotes raw).2)))
        (b.region s) := by
  rcases b.literal_str rfl s with plain | ⟨double, inner, -⟩
  · exact plain
  · cases chars : raw.toList with
    | nil => simp [chars, mayInterpolate] at inner
    | cons quote rest =>
        obtain rfl : quote = '"' := by simpa [splitQuotes, chars] using double
        exact absurd (by simp [chars]) h

/-- A text between others, and the same text as a source of its own. -/
theorem agree_of_quoteless {b b' : Builder} {front body back : List Char} {ls : List Lexeme}
    (source : b.source = front ++ (body ++ back)) (offset : b.offset = Text.byteLength front)
    (source' : b'.source = body) (offset' : b'.offset = 0) (stand : Lexeme.Stand body 0 ls)
    (hq : '"' ∉ body) : b.Agree b' ls where
  literal h := by
    rw [literal_of_quoteless b (stand.quoteless hq _ h),
      literal_of_quoteless b' (stand.quoteless hq _ h), Expr.unplaced, Expr.unplaced]
  sourceText {la s} hl covers := by
    obtain ⟨inside, before, after, rfl, place⟩ :=
      stand.holds (((stand.restrict hl).runs covers).mono hl.subset)
    have span : s = ⟨Text.byteLength before, Text.byteLength before + Text.byteLength inside⟩ := by
      rw [← Text.byteLength_append]
      exact congrArg Region.span place
    have shifted : s.shift (Text.byteLength front) = ⟨Text.byteLength (front ++ before),
        Text.byteLength (front ++ before) + Text.byteLength inside⟩ := by
      simp only [span, Span.shift, Text.byteLength_append, Span.mk.injEq]
      omega
    have here := Text.slice?_append (front ++ before) inside (after ++ back)
    have own := Text.slice?_append before inside after
    rw [List.append_assoc, ← List.append_assoc inside, ← List.append_assoc before] at here
    simp only [sourceText, source, offset, shifted, here]
    simp only [source', offset', span, Span.shift, Nat.add_zero, own]

/-- At the top of the template there are no quotes to be taken away. -/
theorem segment_unquoted (b : Builder) {ls : List Lexeme} (hl : ∀ l ∈ ls, l.1.Quoteless)
    {x : Markup.Segment} (hf : Markup.FitsIn [x.layout] ls) :
    (b.segment x).map unquoteText = b.segment x := by
  have kept {content : String} (h : '"' ∉ content.toList) (s : Span) :
      (b.textNode content s).map unquoteText = b.textNode content s := by
    unfold textNode
    split
    · rfl
    · simp [unquoteText, unquote_of_quoteless h]
  cases x with
  | text content s =>
      obtain ⟨la, ha, -, fits⟩ := hf.part
      cases fits with
      | run _ _ fits =>
          cases fits
          rw [List.append_nil] at ha
          exact kept (Lexeme.quoteless_literalText fun l hm => hl l (ha.subset hm)) s
  | unparsed content s =>
      obtain ⟨la, ha, covers, fits⟩ := hf.part
      obtain rfl := fits.eq_of_covers covers
      exact kept (hl _ (ha.subset (List.mem_singleton.2 rfl))) s
  | _ => rfl

theorem segments_unquoted (b : Builder) {ls : List Lexeme} (hl : ∀ l ∈ ls, l.1.Quoteless)
    {body : List Markup.Segment} (hf : Markup.FitsIn (Markup.layoutBody body) ls) :
    (b.segments body).map unquoteText = b.segments body := by
  induction body with
  | nil => rfl
  | cons x xs ih =>
      rw [segments, List.map_append, b.segment_unquoted hl (hf.front (a := [x.layout])),
        ih (hf.back (a := [x.layout]))]

end Builder

end Tree

end Template
