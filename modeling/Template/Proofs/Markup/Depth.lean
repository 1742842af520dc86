import Template.Proofs.Markup.SegmentSound
import Template.Proofs.Token.Nesting

/-!
How deep markup is nested. Blocks, brackets and the branches of ternaries are one level each, and
the tokens of markup are nested at least as deep as the markup, so a limit on tokens is a limit on
markup. What stands side by side, the operators of a chain and suffixes too, adds no level.
-/

namespace Template.Markup

mutual

def Expr.nesting : Expr → Nat
  | .ternary condition thenCase elseCase _ =>
    max condition.nesting (max thenCase.nesting elseCase.nesting + 1)
  | .chain first rest _ => max first.nesting (nestingOfRest rest)
  | .unary _ operand _ => operand.nesting
  | .applied primary suffixes _ => max primary.nesting (nestingOfSuffixes suffixes)
  | .primary primary => primary.nesting

def nestingOfRest : List (BinaryOp × Expr) → Nat
  | [] => 0
  | (_, e) :: rest => max e.nesting (nestingOfRest rest)

def nestingOfSuffixes : List Suffix → Nat
  | [] => 0
  | s :: ss => max s.nesting (nestingOfSuffixes ss)

def nestingOfAll : List Expr → Nat
  | [] => 0
  | e :: es => max e.nesting (nestingOfAll es)

def nestingOfEntries : List (MapKey × Expr) → Nat
  | [] => 0
  | (_, e) :: rest => max e.nesting (nestingOfEntries rest)

def Primary.nesting : Primary → Nat
  | .literal _ _ | .reference _ _ _ => 0
  | .formal inner _ _ | .group inner _ => inner.nesting + 1
  | .list items _ => nestingOfAll items + 1
  | .range first last _ => max first.nesting last.nesting + 1
  | .map entries _ => nestingOfEntries entries + 1

def Suffix.nesting : Suffix → Nat
  | .property _ _ => 0
  | .call arguments _ => nestingOfAll arguments + 1
  | .index key _ => key.nesting + 1

end

mutual

/-- The parentheses of a directive are a level inside its block. -/
def Segment.nesting : Segment → Nat
  | .text _ _ | .unparsed _ _ | .leave _ | .stop _ | .macroCall _ none _ => 0
  | .reference e _ _ => e.nesting
  | .formal inner _ _ => inner.nesting + 1
  | .conditional first rest otherwise _ _ =>
    max first.nesting (max (nestingOfArms rest) (nestingOfFallback otherwise)) + 1
  | .assign _ _ value _ => value.nesting + 1
  | .loop _ _ iterable body otherwise _ _ =>
    max (iterable.nesting + 1) (max (nestingOfBody body) (nestingOfFallback otherwise)) + 1
  | .define _ _ _ body _ _ => nestingOfBody body + 1
  | .macroCall _ (some arguments) _ | .embed arguments _ => nestingOfAll arguments + 1
  | .evaluate argument _ | .parse argument _ => argument.nesting + 1

def Arm.nesting : Arm → Nat
  | .mk _ condition body => max (condition.nesting + 1) (nestingOfBody body)

def nestingOfArms : List Arm → Nat
  | [] => 0
  | a :: as => max a.nesting (nestingOfArms as)

def nestingOfFallback : Option Fallback → Nat
  | none => 0
  | some (.mk _ body) => nestingOfBody body

def nestingOfBody : List Segment → Nat
  | [] => 0
  | s :: ss => max s.nesting (nestingOfBody ss)

end

/-- The unparted layout fits as well. -/
theorem Fits.unpart {span : Span} {inside more : List Layout} {ls : List Lexeme}
    (h : Fits (.part span inside :: more) ls) : Fits (inside ++ more) ls := by
  cases h with
  | part hi _ hm => exact hi.append hm

/-- Whatever fits the layout is nested so many levels deep. -/
def Layout.Nest (levels : Nat) (l : List Layout) : Prop :=
  ∀ ls, Fits l ls → Bracketed levels (ls.map Prod.fst)

/-- Whatever fits the layout is one token that closes. -/
def Layout.Closes (l : List Layout) : Prop :=
  ∀ ls, Fits l ls → ∃ t span, ls = [(t, span)] ∧ t.closes

theorem Layout.Closes.token {t : Token} (ht : t.closes) : Closes [.token t] := by
  intro ls hf
  cases hf with
  | token hf =>
      cases hf
      exact ⟨t, _, rfl, ht⟩

theorem Layout.Closes.part {t : Token} {span : Span} (ht : t.closes) :
    Closes [.part span [.token t]] :=
  fun ls hf => Closes.token ht ls hf.unpart

namespace Layout.Nest

variable {h h' : Nat} {l m : List Layout}

theorem mono (hs : h' ≤ h) (hl : Nest h l) : Nest h' l := fun ls hf => (hl ls hf).mono hs

theorem nil : Nest 0 [] := by
  intro ls hf
  cases hf
  exact .nil

theorem append (hl : Nest h l) (hm : Nest h' m) : Nest (max h h') (l ++ m) := by
  intro ls hf
  obtain ⟨la, lb, rfl, ha, hb⟩ := hf.split
  rw [List.map_append]
  exact (hl la ha).append (hm lb hb)

theorem cons {x : Layout} (hx : Nest h [x]) (hl : Nest h' l) : Nest (max h h') (x :: l) :=
  append hx hl

/-- What is nested no deeper than other things beside it. -/
theorem skip {x : Layout} (hx : Nest 0 [x]) (hl : Nest h l) : Nest h (x :: l) :=
  (cons hx hl).mono (Nat.le_max_right _ _)

theorem unpart {span : Span} (hl : Nest h (l ++ m)) : Nest h (.part span l :: m) :=
  fun ls hf => hl ls hf.unpart

theorem part {span : Span} (hl : Nest h l) : Nest h [.part span l] :=
  unpart (by rwa [List.append_nil])

theorem token {t : Token} (ht : Nesting.isNeutral t) : Nest 0 [.token t] := by
  intro ls hf
  cases hf with
  | token hf =>
      cases hf
      exact .single ht

theorem target (name : String) : Nest 0 [.target name] := by
  intro ls hf
  cases hf with
  | target hf =>
      cases hf
      exact .single rfl

theorem comma (written : Bool) : Nest 0 [.comma written] := by
  intro ls hf
  cases hf with
  | comma hf =>
      cases hf
      exact .single rfl
  | noComma hf =>
      cases hf
      exact .nil

theorem question (hl : Nest h l) : Nest (h + 1) (.symbol .question :: l) := by
  intro ls hf
  cases hf with
  | token hf => exact (hl _ hf).question

/-- What closes is one token, perhaps in a part of its own. -/
theorem between {opener : Token} {last : List Layout} (ho : opener.opens) (hc : Closes last)
    (hl : Nest h l) : Nest (h + 1) (.token opener :: (l ++ last)) := by
  intro ls hf
  cases hf with
  | token hf =>
      obtain ⟨la, lb, rfl, ha, hb⟩ := hf.split
      obtain ⟨t, span, rfl, ht⟩ := hc lb hb
      rw [List.map_cons, List.map_append]
      exact (hl la ha).between ho ht

theorem run (content : String) : Nest 0 [.run content] := by
  have texts {pieces : List Lexeme} (ht : ∀ l ∈ pieces, l.1.isText) :
      Bracketed 0 (pieces.map Prod.fst) := by
    induction pieces with
    | nil => exact .nil
    | cons l pieces ih =>
        obtain ⟨hl, ht⟩ := List.forall_mem_cons.1 ht
        refine (Bracketed.append (.single ?_) (ih ht)).mono (Nat.zero_le _)
        unfold Token.isText at hl
        split at hl <;> simp_all [Nesting.isNeutral, Nesting.deepens, Token.opens, Token.closes]
  intro ls hf
  cases hf with
  | run _ ht hf =>
      cases hf
      simpa using texts ht

section

variable {α : Type} {f : α → List Layout} {g : α → Nat} {sep : Layout} {last : List Layout}
  {xs : List α}

theorem behind (hs : Nest 0 [sep]) (hl : Nest 0 last) (hx : ∀ x ∈ xs, Nest (g x) (f x)) :
    Nest (xs.foldr (fun x n => max (g x) n) 0) (Layout.behind sep last (xs.map f)) := by
  induction xs with
  | nil => exact hl
  | cons x xs ih =>
      obtain ⟨h, hx⟩ := List.forall_mem_cons.1 hx
      exact skip hs (append h (ih hx))

theorem row (hs : Nest 0 [sep]) (hl : Nest 0 last) (hx : ∀ x ∈ xs, Nest (g x) (f x)) :
    Nest (xs.foldr (fun x n => max (g x) n) 0) (Layout.row sep last (xs.map f)) := by
  cases xs with
  | nil => exact nil
  | cons x xs =>
      obtain ⟨h, hx⟩ := List.forall_mem_cons.1 hx
      exact append h (behind hs hl hx)

end

theorem binaryOp (op : BinaryOp) : Nest 0 [.token op.token] := by
  cases op <;> exact token rfl

theorem unaryOps (operators : List UnaryOp) (hl : Nest h l) :
    Nest h (operators.map (fun op => .token op.token) ++ l) := by
  induction operators with
  | nil => exact hl
  | cons op operators ih =>
      refine skip ?_ ih
      cases op <;> exact token rfl

end Layout.Nest

theorem nestingOfAll_eq (es : List Expr) :
    nestingOfAll es = es.foldr (fun e n => max e.nesting n) 0 := by
  induction es with
  | nil => rfl
  | cons e es ih => simp [nestingOfAll, ih]

theorem nestingOfEntries_eq (entries : List (MapKey × Expr)) :
    nestingOfEntries entries = entries.foldr (fun p n => max p.2.nesting n) 0 := by
  induction entries with
  | nil => rfl
  | cons p entries ih => simp [nestingOfEntries, ih]

open Layout (Nest)

/-- Items between commas are nested like the deepest of them. -/
theorem nest_items {sep : Layout} {last : List Layout} {es : List Expr} (hs : Nest 0 [sep])
    (hl : Nest 0 last) (he : ∀ e ∈ es, Nest e.nesting [e.layout]) :
    Nest (nestingOfAll es) (Layout.row sep last (layoutItems es)) := by
  rw [nestingOfAll_eq, layoutItems_eq]
  exact .row hs hl he

theorem nest_separated {es : List Expr} (he : ∀ e ∈ es, Nest e.nesting [e.layout]) :
    Nest (nestingOfAll es) (Layout.separated (layoutItems es)) :=
  nest_items (.token rfl) (.comma false) he

mutual

theorem Expr.nest : (e : Expr) → e.Shaped → Nest e.nesting [e.layout]
  | .ternary condition thenCase elseCase _, h => by
      cases h with
      | ternary _ hc ht he =>
          exact .part ((condition.nest hc).cons (.question
            (.cons (thenCase.nest ht) (.skip (.token rfl) (elseCase.nest he)))))
  | .chain first rest _, h => by
      cases h with
      | chain _ _ _ hf _ hr => exact .part ((first.nest hf).cons (nest_rest rest hr))
  | .unary operators operand _, h => by
      cases h with
      | unary _ _ h => exact .part (.unaryOps operators (operand.nest h))
  | .applied primary suffixes _, h => by
      cases h with
      | applied _ hp hs => exact .part ((primary.nest hp).cons (nest_suffixes suffixes hs))
  | .primary primary, h => by
      cases h with
      | primary h => exact primary.nest h

theorem nest_rest : (rest : List (BinaryOp × Expr)) → (∀ p ∈ rest, p.2.Shaped) →
    Nest (nestingOfRest rest) (layoutRest rest)
  | [], _ => .nil
  | (op, e) :: rest, h => by
      obtain ⟨he, h⟩ := List.forall_mem_cons.1 h
      exact .skip (.binaryOp op) ((e.nest he).cons (nest_rest rest h))

theorem nest_suffixes : (ss : List Suffix) → (∀ s ∈ ss, s.Shaped) →
    Nest (nestingOfSuffixes ss) (layoutSuffixes ss)
  | [], _ => .nil
  | s :: ss, h => by
      obtain ⟨hs, h⟩ := List.forall_mem_cons.1 h
      exact (s.nest hs).cons (nest_suffixes ss h)

theorem nest_each : (es : List Expr) → (∀ e ∈ es, e.Shaped) → ∀ e ∈ es, Nest e.nesting [e.layout]
  | [], _ => nofun
  | e :: es, h => by
      obtain ⟨he, h⟩ := List.forall_mem_cons.1 h
      exact List.forall_mem_cons.2 ⟨e.nest he, nest_each es h⟩

theorem nest_entries : (entries : List (MapKey × Expr)) → (∀ p ∈ entries, p.2.Shaped) →
    ∀ p ∈ entries, Nest p.2.nesting [.token p.1.token, .symbol .colon, p.2.layout]
  | [], _ => nofun
  | (key, e) :: entries, h => by
      obtain ⟨he, h⟩ := List.forall_mem_cons.1 h
      refine List.forall_mem_cons.2 ⟨.skip ?_ (.skip (.token rfl) (e.nest he)),
        nest_entries entries h⟩
      cases key <;> exact .token rfl

theorem Primary.nest : (p : Primary) → p.Shaped → Nest p.nesting [p.layout]
  | .literal value _, _ => .part (by
      cases value with
      | bool b => cases b <;> exact .token rfl
      | _ => exact .token rfl)
  | .reference _ _ _, _ => .part (.token rfl)
  | .formal inner _ _, h => by
      cases h with
      | formal hn h => exact .part (.between rfl (.token rfl) (inner.nest_inBraces hn h))
  | .group inner _, h => by
      cases h with
      | group h => exact .part (.between rfl (.token rfl) (inner.nest h))
  | .list items _, h => by
      cases h with
      | list h => exact .part (.between rfl (.token rfl) (nest_separated (nest_each items h)))
  | .range first last _, h => by
      cases h with
      | range hf hl =>
          have inside : Nest (max first.nesting last.nesting)
              [first.layout, .symbol .dots, last.layout] :=
            (first.nest hf).cons (.skip (.token rfl) (last.nest hl))
          exact .part (.between rfl (.token rfl) inside)
  | .map entries _, h => by
      cases h with
      | map h =>
          have inside : Nest (nestingOfEntries entries)
              (Layout.separated (layoutEntries entries)) := by
            rw [nestingOfEntries_eq, layoutEntries_eq]
            exact .row (.token rfl) (.comma false) (nest_entries entries h)
          exact .part (.between rfl (.token rfl) inside)

theorem Expr.nest_inBraces : (e : Expr) → e.Named false → e.Shaped →
    Nest e.nesting [e.layoutInBraces]
  | .applied (.reference _ _ _) suffixes _, _, h => by
      cases h with
      | applied _ _ hs =>
          exact .part (.cons (.part (.token rfl)) (nest_suffixes suffixes hs))
  | .primary (.reference _ _ _), _, _ => .part (.token rfl)

theorem Suffix.nest : (s : Suffix) → s.Shaped → Nest s.nesting [s.layout]
  | .property _ _, _ => .part (.skip (.token rfl) (.token rfl))
  | .call arguments _, h => by
      cases h with
      | call h => exact .part (.between rfl (.token rfl) (nest_separated (nest_each arguments h)))
  | .index key _, h => by
      cases h with
      | index h => exact .part (.between rfl (.token rfl) (key.nest h))

end

section

variable {h h' : Nat} {l m : List Layout}

theorem nest_parenthesized (hl : Nest h l) :
    Nest (h + 1) (.symbol .openParen :: (l ++ [.symbol .closeParen])) :=
  .between rfl (.token rfl) hl

/-- A block: the rest of its header is a level inside it as its body is. -/
theorem nest_block {word : Keyword} (hw : (Token.directive word).opens) {header close : Span}
    (hl : Nest h l) (hm : Nest h' m) :
    Nest (max h h' + 1)
      (.part header (.keyword word :: l) :: (m ++ [.part close [.keyword .close]])) := by
  have closes : Layout.Closes [.part close [.keyword .close]] := .part rfl
  have block := Layout.Nest.between hw closes (hl.append hm)
  rw [List.append_assoc] at block
  exact .unpart block

theorem nest_flatMap {α : Type} {f : α → List Layout} (hf : ∀ x, Nest 0 (f x)) (xs : List α) :
    Nest 0 (xs.flatMap f) := by
  induction xs with
  | nil => exact .nil
  | cons x xs ih => exact .append (hf x) ih

end

mutual

theorem Segment.nest : (s : Segment) → s.Shaped → Nest s.nesting [s.layout]
  | .text content _, _ => .part (.run content)
  | .unparsed _ _, _ | .leave _, _ | .stop _, _ | .macroCall _ none _, _ =>
    .part (.token rfl)
  | .reference e _ _, h => by
      cases h with
      | reference _ h => exact .part (e.nest h)
  | .formal inner _ _, h => by
      cases h with
      | formal hn h => exact .part (.between rfl (.token rfl) (inner.nest_inBraces hn h))
  | .conditional (.mk header condition body) rest otherwise close _, h => by
      cases h with
      | conditional hf hr ho =>
          cases hf with
          | mk hc hb =>
              have block : Nest _ (.part header (.keyword .ifThen :: .symbol .openParen ::
                  ([condition.layout] ++ [.symbol .closeParen])) :: (_ ++
                    [.part close [.keyword .close]])) :=
                nest_block rfl (nest_parenthesized (condition.nest hc))
                  ((nest_body body hb).append
                    ((nest_arms rest hr).append (nest_fallback otherwise ho)))
              refine .part ?_
              simpa [Segment.nesting, Arm.nesting, Arm.layout, Nat.max_assoc] using block
  | .assign name path value _, h => by
      cases h with
      | assign h =>
          have steps : Nest value.nesting
              (path.flatMap (fun step => [.symbol .dot, .token (.ident step)]) ++
                [.symbol .assign, value.layout]) :=
            ((nest_flatMap (fun _ => .skip (.token rfl) (.token rfl)) path).append
              (.skip (.token rfl) (value.nest h))).mono (Nat.le_max_right _ _)
          refine .part (.skip (.token rfl) ?_)
          simpa [Segment.nesting] using nest_parenthesized (.skip (.target name) steps)
  | .loop header item iterable body otherwise close _, h => by
      cases h with
      | loop hi hb _ ho =>
          have inside : Nest iterable.nesting
              [.target item, .token (.reserved .inside), iterable.layout] :=
            .skip (.target item) (.skip (.token rfl) (iterable.nest hi))
          have block : Nest _ (.part header (.keyword .forEach :: .symbol .openParen ::
              ([.target item, .token (.reserved .inside), iterable.layout] ++
                [.symbol .closeParen])) :: (_ ++ [.part close [.keyword .close]])) :=
            nest_block rfl (nest_parenthesized inside)
              ((nest_body body hb).append (nest_fallback otherwise ho))
          refine .part ?_
          simpa [Segment.nesting] using block
  | .define header name parameters body close _, h => by
      cases h with
      | define hb _ =>
          have names : Nest 0 (parameters.flatMap
              fun p => [.token (.reference p false), .comma false]) :=
            nest_flatMap (fun _ => .skip (.token rfl) (.comma false)) parameters
          have inside : Nest 0 (.token (.ident name) :: .comma false :: parameters.flatMap
              fun p => [.token (.reference p false), .comma false]) :=
            .skip (.token rfl) (.skip (.comma false) names)
          have block : Nest _ (.part header (.keyword .define :: .symbol .openParen ::
              (_ ++ [.symbol .closeParen])) :: (_ ++ [.part close [.keyword .close]])) :=
            nest_block rfl (nest_parenthesized inside) (nest_body body hb)
          have deep : nestingOfBody body + 1 ≤ max (0 + 1) (nestingOfBody body) + 1 := by omega
          refine .part ?_
          simpa [Segment.nesting] using block.mono deep
  | .macroCall name (some arguments) _, h => by
      cases h with
      | macroCall h =>
          exact .part (.skip (.token rfl) (nest_parenthesized
            (nest_items (.comma true) (.comma false) (nest_each arguments (h arguments rfl)))))
  | .evaluate argument _, h => by
      cases h with
      | evaluate h => exact .part (.skip (.token rfl) (nest_parenthesized (argument.nest h)))
  | .parse argument _, h => by
      cases h with
      | parse h => exact .part (.skip (.token rfl) (nest_parenthesized (argument.nest h)))
  | .embed arguments _, h => by
      cases h with
      | embed _ h =>
          exact .part (.skip (.token rfl) (nest_parenthesized
            (nest_items (.token rfl) .nil (nest_each arguments h))))

theorem nest_arms : (arms : List Arm) → (∀ a ∈ arms, a.Shaped) →
    Nest (nestingOfArms arms) (layoutArms arms)
  | [], _ => .nil
  | .mk header condition body :: arms, h => by
      obtain ⟨ha, h⟩ := List.forall_mem_cons.1 h
      cases ha with
      | mk hc hb =>
          refine .append (.cons (.part (.skip (.token rfl) ?_)) (nest_body body hb))
            (nest_arms arms h)
          exact nest_parenthesized (condition.nest hc)

theorem nest_fallback : (f : Option Fallback) → (∀ g ∈ f, g.Shaped) →
    Nest (nestingOfFallback f) (layoutFallback f)
  | none, _ => .nil
  | some (.mk _ body), h => by
      cases h _ rfl with
      | mk hb => exact .skip (.part (.token rfl)) (nest_body body hb)

theorem nest_body : (body : List Segment) → (∀ s ∈ body, s.Shaped) →
    Nest (nestingOfBody body) (layoutBody body)
  | [], _ => .nil
  | s :: ss, h => by
      obtain ⟨hs, h⟩ := List.forall_mem_cons.1 h
      exact (s.nest hs).cons (nest_body ss h)

end

open Grammar

theorem Parser.parse_eq_ok {α : Type} {p : Parser α} {lexemes : List Lexeme} {a : α}
    (h : p.parse lexemes = .ok a) : ∃ next missed, p ⟨0, 0, lexemes⟩ = .success a next missed := by
  unfold Parser.parse at h
  cases parsed : p ⟨0, 0, lexemes⟩ with
  | failure e => rw [parsed] at h; cases h
  | success a next missed =>
      rw [parsed] at h
      cases h
      exact ⟨next, missed, rfl⟩

/-- The limit bounds the markup of a template. -/
theorem nesting_le_of_parseSegments {source : String} {lexemes : List Lexeme} {limit : Nat}
    {body : List Segment} (h : parseSegments source lexemes limit = .ok body) :
    (∀ s ∈ body, s.Shaped) ∧ nestingOfBody body ≤ limit := by
  unfold parseSegments at h
  cases checked : Nesting.check source limit lexemes with
  | error e => rw [checked] at h; cases h
  | ok =>
      rw [checked] at h
      cases parsed : template.parse lexemes with
      | error e => rw [parsed] at h; cases h
      | ok found =>
          rw [parsed] at h
          cases h
          obtain ⟨next, missed, parsed⟩ := Parser.parse_eq_ok parsed
          obtain ⟨fits, shaped⟩ := template_takes parsed
          have deep := nest_body body shaped.segments lexemes fits
          exact ⟨shaped.segments, (Nests.ofBracketed deep).le_of_check checked⟩

/-- A template that is one expression is that expression from its first token to its last. -/
theorem fits_of_wholeExpression? {source : String} {limit : Nat} {e : Expr}
    (h : wholeExpression? source limit = some e) : ∃ lexemes,
      tokenizeExpression source = .ok lexemes ∧ Nesting.check source limit lexemes = .ok () ∧
        Fits [e.layout] lexemes ∧ e.Shaped := by
  unfold wholeExpression? at h
  split at h
  · cases h
  · split at h
    · cases h
    next lexemes tokens =>
      split at h
      · cases h
      next checked =>
        simp only at h
        split at h
        · cases h
        next found parsed =>
          split at h
          · cases h
            obtain ⟨next, missed, parsed⟩ := Parser.parse_eq_ok parsed
            obtain ⟨_, last, _, _, whole, ended⟩ := Parser.bind_eq_success parsed
            obtain ⟨_, _, _, _, ended, same⟩ := Parser.bind_eq_success ended
            cases same
            obtain ⟨ls, passes, fits, shaped, -⟩ := expression_sound.taken whole
            have all : lexemes = ls := by
              simpa [Parser.endOfInput_eq_success ended] using passes.rest
            exact ⟨lexemes, tokens, checked, all ▸ fits, shaped⟩
          · cases h

/-- The limit bounds the markup of a template that is one expression. -/
theorem nesting_le_of_wholeExpression? {source : String} {limit : Nat} {e : Expr}
    (h : wholeExpression? source limit = some e) : e.Shaped ∧ e.nesting ≤ limit := by
  obtain ⟨lexemes, -, checked, fits, shaped⟩ := fits_of_wholeExpression? h
  exact ⟨shaped, (Nests.ofBracketed (e.nest shaped lexemes fits)).le_of_check checked⟩

end Template.Markup
