import Template.Proofs.Markup.Depth
import Template.Proofs.Markup.ExprLocal
import Template.Proofs.Markup.RoundTrip
import Template.Proofs.Token.EndsExpr

/-!
A reference means in code what it means in text. Text takes it for a segment and code for an operand,
but both read its suffixes with the same grammar, and this looks no further than they go.
-/

namespace Template

namespace Markup

namespace Parser

variable {α : Type}

theorem choice_of_fails {before after : List (Parser α)} {p : Parser α} {c next : Cursor} {a : α}
    {missed : Option Failure} (hb : ∀ q ∈ before, q.Fails c.tokens)
    (hp : p c = .success a next missed) :
    choice (before ++ p :: after) c = .success a next missed := by
  induction before with
  | nil =>
      cases after with
      | nil => exact hp
      | cons q after =>
          simp only [List.nil_append, choice, orElse, hp]
  | cons q before ih =>
      obtain ⟨hq, hb⟩ := List.forall_mem_cons.1 hb
      obtain ⟨r, more, hr⟩ : ∃ r more, before ++ p :: after = r :: more := by
        cases before <;> exact ⟨_, _, rfl⟩
      obtain ⟨e, he⟩ := hq.failed rfl
      have rest := ih hb
      rw [hr] at rest
      simp only [List.cons_append, hr, choice, orElse, he, rest]

theorem many_eq_nil {p : Parser α} {c last : Cursor} {missed : Option Failure}
    (h : many p c = .success [] last missed) : last = c := by
  rw [many] at h
  split at h
  · cases h
    rfl
  · split at h
    · split at h <;> cases h
    · cases h
      rfl

theorem many_eq_one {p : Parser α} {c last : Cursor} {a : α} {missed : Option Failure}
    (h : many p c = .success [a] last missed) : ∃ missed', p c = .success a last missed' := by
  rw [many] at h
  split at h
  · cases h
  · next ha =>
    split at h
    · split at h
      · next hm =>
        cases h
        exact ⟨_, many_eq_nil hm ▸ ha⟩
      · cases h
    · cases h

theorem bind_of_success {β : Type} {p : Parser α} {f : α → Parser β} {c next last : Cursor} {a : α}
    {b : β} {missed missed' : Option Failure} (hp : p c = .success a next missed)
    (hf : f a next = .success b last missed') :
    (p >>= f) c = .success b last (Failure.merge missed missed') := by
  change Parser.bind p f c = _
  simp only [Parser.bind, hp, hf]

theorem spanned_of_success {p : Parser α} {c next : Cursor} {a : α} {missed : Option Failure}
    (hp : p c = .success a next missed) :
    ∃ span, spanned p c = .success (a, span) next missed := by
  simp only [Parser.spanned, hp]
  exact ⟨_, rfl⟩

theorem exists_many (p : Parser α) (c : Cursor) :
    ∃ as last missed, many p c = .success as last missed := by
  cases h : many p c with
  | success as last missed => exact ⟨as, last, missed, rfl⟩
  | failure e => exact absurd h (many_ne_failure p c e)

end Parser

namespace Grammar

open Template.Markup.Parser

/-- The suffixes of a reference in text. -/
theorem referenceSegment_eq {name : String} {quiet : Bool} {ts : List Token} {c : Cursor}
    (hc : c.tokens = .reference name quiet :: ts) :
    ∃ place behind suffixes last missed span missed', behind.tokens = ts ∧
      many (suffix expression) behind = .success suffixes last missed ∧
      referenceSegment c = .success
        (.reference (withSuffixes (.reference name quiet place) suffixes span) quiet span) last
        missed' := by
  obtain ⟨_, behind, missed, hp, hb, place, rfl⟩ := (reference_gives name quiet ts).given hc
  obtain ⟨suffixes, last, missed', hs⟩ := exists_many (suffix expression) behind
  have parts : (do
      let primary ← reference
      return (primary, ← many (suffix expression)) : Parser (Primary × List Suffix)) c =
        .success (.reference name quiet place, suffixes) last _ :=
    bind_of_success hp (bind_of_success hs rfl)
  obtain ⟨span, hspan⟩ := spanned_of_success parts
  exact ⟨place, behind, suffixes, last, missed', span, _, hb, hs, bind_of_success hspan rfl⟩

theorem first_of_fits {name : String} {quiet : Bool} {place span : Span} {suffixes : List Suffix}
    {more : List Layout} {ls : List Lexeme}
    (h : Fits ((withSuffixes (.reference name quiet place) suffixes span).layout :: more) ls) :
    ∃ ts, ls.map Prod.fst = .reference name quiet :: ts := by
  have first : ∃ more, Fits (.token (.reference name quiet) :: more) ls := by
    cases suffixes with
    | nil => exact ⟨_, h.unpart⟩
    | cons => exact ⟨_, h.unpart.unpart⟩
  obtain ⟨more, first⟩ := first
  cases first
  exact ⟨_, rfl⟩

/-- A template that is one reference is a name and its suffixes up to the end. -/
theorem suffixes_of_template {c next : Cursor} {e : Expr} {quiet : Bool} {span : Span}
    {missed : Option Failure} (h : template c = .success [.reference e quiet span] next missed) :
    ∃ name place behind suffixes span' last missed',
      e = withSuffixes (.reference name quiet place) suffixes span' ∧
        c.tokens = .reference name quiet :: behind.tokens ∧
        many (suffix expression) behind = .success suffixes last missed' ∧ last.tokens = [] := by
  obtain ⟨fits, shaped⟩ := template_takes h
  obtain ⟨_, after, _, _, body, done⟩ := bind_eq_success h
  obtain ⟨_, _, _, _, finished, hp⟩ := bind_eq_success done
  cases hp
  obtain ⟨missed', one⟩ := many_eq_one (show many _ c = _ from body)
  have named : e.Named quiet ∧ e.Shaped := by
    cases shaped.segments _ (List.mem_singleton_self _) with
    | reference hn hs => exact ⟨hn, hs⟩
  obtain ⟨name, place, suffixes, span', rfl, -⟩ := exists_named named.1 named.2
  obtain ⟨ts, tokens⟩ : ∃ ts, c.tokens = .reference name quiet :: ts := first_of_fits fits.unpart
  obtain ⟨place', behind, suffixes', last, missed'', span'', _, rfl, many, segment⟩ :=
    referenceSegment_eq tokens
  have others : ∀ q ∈ [text, unparsed], q.Fails c.tokens := by
    have fail := alternatives_fail fun c' => bodyWithin c.rest.length c'
    simp only [tokens, List.forall_mem_cons]
    refine ⟨?_, ?_, nofun⟩
    · exact fail (Token.isText, text) (by simp [alternatives]) _ (by rintro _ ⟨⟩; rfl)
    · exact fail (Token.isUnparsed, unparsed) (by simp [alternatives]) _ (by rintro _ ⟨⟩; rfl)
  have found : Grammar.segment (fun c' => bodyWithin c.rest.length c') c = .success _ last _ :=
    choice_of_fails others segment
  rw [found] at one
  injection one with hs hl
  injection hs with he
  subst hl
  refine ⟨name, place', behind, suffixes', span'', last, _, he.symm, tokens, many, ?_⟩
  rw [Cursor.tokens, endOfInput_eq_success finished]
  rfl

section Operand

variable {expr : Parser Expr} {ts rest : List Token} {Q : Expr → Prop}

theorem unary_of_operand (ht : ∀ t ∈ ts.head?, t.startsOperand) (h : (operand expr).Gives ts Q rest) :
    (unary expr).Gives ts Q rest := by
  have parts : Gives (do
      let operators ← many unaryOp
      return (operators, ← operand expr)) ts (fun r => r.1 = [] ∧ Q r.2) rest :=
    .bind (.many_nil (unaryOp_fails fun t hm => .inl (ht t hm))) fun _ hn =>
      .bind h fun _ hq => .pure ⟨hn, hq⟩
  refine .bind parts.spanned ?_
  rintro ⟨⟨_, e⟩, _⟩ ⟨rfl, hq⟩
  exact .pure hq

theorem chain_of_inner {operators : Parser BinaryOp} {inner : Parser Expr} {level : Nat}
    (ho : Operators operators level) (hr : Below level rest) (h : inner.Gives ts Q rest) :
    (chain operators inner).Gives ts Q rest := by
  have parts : Gives (do
      let first ← inner
      let rest ← many do
        let op ← operators
        return (op, ← inner)
      return (first, rest)) ts (fun r => Q r.1 ∧ r.2 = []) rest :=
    .bind h fun _ hq => .bind (.many_nil (.bind_left (ho.fails hr))) fun _ hn => .pure ⟨hq, hn⟩
  refine .bind parts.spanned ?_
  rintro ⟨⟨e, _⟩, _⟩ ⟨hq, rfl⟩
  exact .pure hq

/-- An operand behind which nothing goes on is an expression. -/
theorem ternary_of_operand (ht : ∀ t ∈ ts.head?, t.startsOperand) (hr : Below 1 rest)
    (h : (operand expr).Gives ts Q rest) : (ternary expr).Gives ts Q rest := by
  have below {level : Nat} (hl : 1 ≤ level) : Below level rest := hr.mono hl
  have disjunction : (disjunction expr).Gives ts Q rest :=
    chain_of_inner disj_operators (below (by decide)) <|
      chain_of_inner conj_operators (below (by decide)) <|
        chain_of_inner equalityOp_operators (below (by decide)) <|
          chain_of_inner relationalOp_operators (below (by decide)) <|
            chain_of_inner additiveOp_operators (below (by decide)) <|
              chain_of_inner multiplicativeOp_operators (below (by decide)) (unary_of_operand ht h)
  have parts : Gives (do
      let condition ← Grammar.disjunction expr
      return (condition, ← optional (cases expr))) ts (fun r => Q r.1 ∧ r.2 = none) rest :=
    .bind disjunction fun _ hq =>
      .bind (.optional_none (.bind_left (.token (hr.head_ne (by decide))))) fun _ hn => .pure ⟨hq, hn⟩
  refine .bind parts.spanned ?_
  rintro ⟨⟨e, _⟩, _⟩ ⟨hq, rfl⟩
  exact .pure hq

end Operand

theorem below_of_endsExpr {rest : List Token} (h : ∀ t ∈ rest.head?, t.endsExpr) : Below 1 rest := by
  intro t ht
  rcases Token.cases_of_endsExpr (h t ht) with rfl | rfl | rfl | rfl | rfl <;> decide

/-- Wherever an expression is looked for, the tokens of a reference in text are that reference. -/
theorem expressionWithin_of_template {c next : Cursor} {e : Expr} {quiet : Bool} {span : Span}
    {missed : Option Failure} (h : template c = .success [.reference e quiet span] next missed)
    {rest : List Token} (hr : ∀ t ∈ rest.head?, t.endsExpr) {depth : Nat}
    (hd : c.tokens.length ≤ depth) :
    (expressionWithin depth).Gives (c.tokens ++ rest) (·.unplaced = e.unplaced) rest := by
  obtain ⟨fits, shaped⟩ := template_takes h
  have closed : Closed c.tokens := (nest_body _ shaped.segments _ fits).closed
  obtain ⟨name, place, behind, suffixes, span', last, missed', rfl, tokens, found, atEnd⟩ :=
    suffixes_of_template h
  rw [tokens] at closed hd ⊢
  obtain ⟨depth, rfl⟩ := Nat.exists_eq_succ_of_ne_zero (Nat.ne_zero_of_lt hd)
  have hd := Nat.le_of_succ_le_succ hd
  -- The suffixes were read up to the end of the template, and are read again up to the rest.
  have again : (many (suffix (expressionWithin depth))).Gives (behind.tokens ++ rest)
      (fun ss => unplacedSuffixes ss = unplacedSuffixes suffixes) rest := by
    refine ⟨fun {c'} hc' => ?_⟩
    have beside : Beside (Token.endsExpr ·) behind.tokens [] rest behind c' :=
      ⟨closed.tail, nofun, hr, (List.append_nil _).symm, hc'⟩
    have alike := (suffixes_matching (expression_matching hd)).alike beside (Nat.lt_succ_self _)
    rw [found] at alike
    generalize hm : many (suffix (expressionWithin depth)) c' = o at alike
    cases alike with
    | @success _ ss _ next _ missed left he _ hn =>
        have none : left = [] := by
          have left := hn.tokens
          rw [atEnd] at left
          simpa using left
        subst none
        exact ⟨ss, next, missed, rfl, hn.tokens', he.symm⟩
  have whole : (operand (expressionWithin depth)).Gives
      (.reference name quiet :: behind.tokens ++ rest)
      (·.unplaced = (withSuffixes (.reference name quiet place) suffixes span').unplaced) rest := by
    have one : (Primary.reference name quiet place).tokens.length ≤ depth + 1 :=
      Nat.succ_le_succ (Nat.zero_le depth)
    have parts : Gives (do
        let first ← primary (expressionWithin depth)
        return (first, ← many (suffix (expressionWithin depth))))
        ((Primary.reference name quiet place).tokens ++ (behind.tokens ++ rest))
        (fun r => r.1.unplaced = (Primary.reference name quiet place).unplaced ∧
          unplacedSuffixes r.2 = unplacedSuffixes suffixes) rest :=
      .bind (primary_gives (expressionWithin_complete depth) .reference one _) fun _ hp =>
        .bind again fun _ hs => .pure ⟨hp, hs⟩
    refine .bind parts.spanned ?_
    rintro ⟨⟨p, ss⟩, _⟩ ⟨hp, hs⟩
    exact .pure (by rw [unplaced_withSuffixes, unplaced_withSuffixes, hp, hs])
  exact ternary_of_operand (by rintro _ ⟨⟩; rfl) (below_of_endsExpr hr) whole

/-- In code the tokens are the expression wherever a comma or a bracket that closes stands behind
them. -/
def StandFor (ts : List Token) (e : Expr) : Prop :=
  ∀ rest : List Token, (∀ t ∈ rest.head?, t.endsExpr) → ∀ depth, ts.length ≤ depth →
    (expressionWithin depth).Gives (ts ++ rest) (·.unplaced = e.unplaced) rest

section ListArgument

variable {ts : List Token} {e : Expr} (h : StandFor ts e)

include h

theorem StandFor.list_gives {depth : Nat} (hd : ts.length ≤ depth) (rest : List Token) :
    (list (expressionWithin depth)).Gives
      (.symbol .openBracket :: (ts ++ .symbol .closeBracket :: rest))
      (·.unplaced = (Primary.list [e] default).unplaced) rest := by
  have element : (items true (Parser.symbol .comma) (expressionWithin depth)).Gives
      (commaRow (fun _ : Unit => ts) [()] ++ .symbol .closeBracket :: rest)
      (fun es => es.map Expr.unplaced = [()].map fun _ => e.unplaced)
      (.symbol .closeBracket :: rest) :=
    .items (fun ts => ∀ t ∈ ts.head?, t.endsExpr) (fun _ _ rest hr => h rest hr depth hd)
      (fun _ => by rintro _ ⟨⟩; rfl) (by rintro _ ⟨⟩; rfl) (by simp)
      ((expressionWithin_complete depth).fails (by rintro _ ⟨⟩; rfl))
  rw [commaRow_one] at element
  refine .bind (.spanned (.between element)) ?_
  rintro ⟨es, _⟩ he
  exact .pure (congrArg (Primary.list · default) ((unplacedItems_eq es).trans he))

/-- Behind the one element there are no dots, so it is the element of a list and begins no range. -/
theorem StandFor.range_fails {depth : Nat} (hd : ts.length ≤ depth) (rest : List Token) :
    (range (expressionWithin depth)).Fails
      (.symbol .openBracket :: (ts ++ .symbol .closeBracket :: rest)) :=
  .bind_left (.spanned (.bind_right (.token _) fun _ _ => .bind_left (.bind_right
    (h (.symbol .closeBracket :: rest) (by rintro _ ⟨⟩; rfl) depth hd) fun _ _ =>
      .bind_left (.token (by simp)))))

theorem StandFor.listed {depth : Nat} (hd : ts.length ≤ depth) (rest : List Token)
    (hr : ∀ t ∈ rest.head?, t.endsExpr) :
    (expressionWithin (depth + 1)).Gives
      (.symbol .openBracket :: (ts ++ .symbol .closeBracket :: rest))
      (·.unplaced = .primary (.list [e.unplaced] default)) rest := by
  have head {q : Token → Bool} {ts : List Token} (hq : q (.symbol .openBracket) = false) :
      ∀ t ∈ (Token.symbol .openBracket :: ts).head?, q t = false := by
    rintro _ ⟨⟩
    exact hq
  have first : (primary (expressionWithin depth)).Gives
      (.symbol .openBracket :: (ts ++ .symbol .closeBracket :: rest))
      (·.unplaced = (Primary.list [e] default).unplaced) rest := by
    refine .labelled (.choice [literal, reference, formalPrimary _, group _, range _] [map _] ?_
      (h.list_gives hd rest))
    simp only [List.forall_mem_cons]
    exact ⟨literal_fails (head rfl), reference_fails (head rfl), formalPrimary_fails (head rfl),
      group_fails (by simp), h.range_fails hd rest, nofun⟩
  have alone : (many (suffix (expressionWithin depth))).Gives rest (· = []) rest :=
    .many_nil (suffix_fails ((below_of_endsExpr hr).mono (by decide)))
  have parts : Gives (do
      let first ← primary (expressionWithin depth)
      return (first, ← many (suffix (expressionWithin depth))))
      (.symbol .openBracket :: (ts ++ .symbol .closeBracket :: rest))
      (fun r => r.1.unplaced = (Primary.list [e] default).unplaced ∧ r.2 = []) rest :=
    .bind first fun _ hp => .bind alone fun _ hs => .pure ⟨hp, hs⟩
  refine ternary_of_operand (by rintro _ ⟨⟩; rfl) (below_of_endsExpr hr) (.bind parts.spanned ?_)
  rintro ⟨⟨p, _⟩, _⟩ ⟨hp, rfl⟩
  exact .pure (congrArg Expr.primary hp)

/-- The tokens as the element of a list that is the argument of a directive. -/
def argumentTokens (ts : List Token) : List Token :=
  .directive .evaluate :: .symbol .openParen :: .symbol .openBracket ::
    (ts ++ [.symbol .closeBracket, .symbol .closeParen])

theorem StandFor.template_gives :
    template.Gives (argumentTokens ts)
      (fun body => ∃ a span, body = [.evaluate a span] ∧
        a.unplaced = .primary (.list [e.unplaced] default)) [] := by
  have argument : expression.Gives
      (.symbol .openBracket :: (ts ++ [.symbol .closeBracket, .symbol .closeParen]))
      (·.unplaced = .primary (.list [e.unplaced] default)) [.symbol .closeParen] := by
    refine ⟨fun {c} hc => ?_⟩
    have enough : ts.length ≤ c.rest.length := by
      rw [← Cursor.tokens_length, hc, List.length_cons, List.length_append]
      omega
    exact (h.listed enough _ (by rintro _ ⟨⟩; rfl)).given hc
  have directive : evaluate.Gives (argumentTokens ts)
      (fun s => ∃ a span, s = .evaluate a span ∧
        a.unplaced = .primary (.list [e.unplaced] default)) [] := by
    refine .labelled (.bind (directive_gives _ argument) ?_)
    rintro ⟨a, span⟩ ha
    exact .pure ⟨a, span, rfl, ha⟩
  have body (depth : Nat) : (bodyWithin (depth + 1)).Gives (argumentTokens ts)
      (fun body => ∃ a span, body = [.evaluate a span] ∧
        a.unplaced = .primary (.list [e.unplaced] default)) [] := by
    have stops : Stops [] := nofun
    have taken : ([] : List Token).length < (argumentTokens ts).length := Nat.zero_lt_succ _
    refine (Gives.many_cons taken (segment_of_head rfl directive)
      (.many_nil (segment_fails stops))).mono ?_
    rintro _ ⟨_, _, rfl, ⟨a, span, rfl, ha⟩, rfl⟩
    exact ⟨a, span, rfl, ha⟩
  refine ⟨fun {c} hc => ?_⟩
  have whole : Gives (do
      let segments ← bodyWithin (c.rest.length + 1)
      endOfInput
      return segments) (argumentTokens ts) (fun body => ∃ a span, body = [.evaluate a span] ∧
        a.unplaced = .primary (.list [e.unplaced] default)) [] :=
    .bind (body _) fun _ hb => .bind .endOfInput fun _ _ => .pure hb
  exact whole.given hc

end ListArgument

end Grammar

end Markup

/-- Tokens that close what they open leave the depth as it is. -/
theorem Bracketed.depthAfter {levels : Nat} {ts : List Token} (h : Bracketed levels ts)
    (depth : Nat) : ts.foldlM Lexer.depthAfter (depth + 1) = some (depth + 1) := by
  induction h generalizing depth with
  | nil => rfl
  | single hn =>
      simp only [Nesting.isNeutral, Nesting.deepens, Bool.and_eq_true, Bool.not_eq_true',
        Bool.or_eq_false_iff] at hn
      simp [Lexer.depthAfter, hn]
  | append _ _ iht ihu =>
      rw [List.foldlM_append, iht]
      exact ihu depth
  | between ho hc _ ih =>
      simp only [List.foldlM_cons, List.foldlM_append, List.foldlM_nil, Lexer.depthAfter, ho, hc]
      simp [ih (depth + 1), Token.not_opens_of_closes hc]
  | question _ ih => exact ih depth
  | mono _ _ ih => exact ih depth

section Argument

open Lexer

/-- The source as the element of a list that is the argument of a directive. -/
def argumentSource (source : String) : String := "#evaluate([" ++ source ++ "])"

theorem reads_argumentSource {source : String} {ts : List Token}
    (h : Reads (.code 2 false) (source.toList ++ [']', ')']) ts (.code 2 false) [']', ')']) :
    Reads .text (argumentSource source).toList (Markup.Grammar.argumentTokens ts) .text [] := by
  have word (rest : List Char) :
      Reads .text ('#' :: (['e', 'v', 'a', 'l', 'u', 'a', 't', 'e'] ++ '(' :: rest))
        [.directive .evaluate] .arguments ('(' :: rest) := .emit rfl
  have opener (rest : List Char) :
      Reads .arguments ('(' :: ([] ++ rest)) [.symbol .openParen] (.code 1 false) rest := .emit rfl
  have bracket (rest : List Char) :
      Reads (.code 1 false) ('[' :: ([] ++ rest)) [.symbol .openBracket] (.code 2 false) rest :=
    .emit rfl
  have close : Reads (.code 2 false) (']' :: ([] ++ [')'])) [.symbol .closeBracket] (.code 1 false)
      [')'] := .emit rfl
  have closer : Reads (.code 1 false) (')' :: ([] ++ [])) [.symbol .closeParen] .text [] :=
    .emit rfl
  have chars : (argumentSource source).toList =
      '#' :: (['e', 'v', 'a', 'l', 'u', 'a', 't', 'e'] ++ '(' :: '[' ::
        (source.toList ++ [']', ')'])) := by
    simp [argumentSource]
  rw [chars]
  exact (word _).trans ((opener _).trans ((bracket _).trans (h.trans (close.trans closer))))

end Argument

open Markup in
/-- A source that is read as references in text is read as the same tokens in code, but for the names
of properties that are words with a meaning of their own. A reference without such names is the same
expression in code, wherever a comma or a bracket that closes stands behind it. -/
theorem reference_in_code {source : String} {lexemes : List Lexeme} (hh : '#' ∉ source.toList)
    (ht : tokenize source = .ok lexemes) (hc : ∀ l ∈ lexemes, l.1.isCode) :
    tokenizeExpression source = .ok (lexemes.map Lexeme.inCode) ∧
      ((∀ l ∈ lexemes, ∀ name, l.1 = .ident name →
          ReservedWord.ofWord? name = none ∧ Symbol.ofWord? name = none) →
        tokenizeExpression source = .ok lexemes ∧
          ∀ limit e quiet span, parseSegments source lexemes limit = .ok [.reference e quiet span] →
            (∀ depth inTail d rest, Lexer.EndsExpr d →
              Lexer.Reads (.code (depth + 1) inTail) (source.toList ++ d :: rest)
                (lexemes.map Prod.fst) (.code (depth + 1) inTail) (d :: rest)) ∧
            Grammar.StandFor (lexemes.map Prod.fst) e ∧
            ∃ found, tokenize (argumentSource source) = .ok found ∧
              ∀ limit, Nesting.check (argumentSource source) limit found = .ok () →
                ∃ a span', parseSegments (argumentSource source) found limit =
                    .ok [.evaluate a span'] ∧
                  a.unplaced = .primary (.list [e.unplaced] default)) := by
  have code := Lexer.run_inCode hh ht hc
  refine ⟨code, fun hn => ?_⟩
  have same : lexemes.map Lexeme.inCode = lexemes := by
    refine List.map_congr_left (fun l hl => ?_) |>.trans (List.map_id lexemes)
    obtain ⟨t, span⟩ := l
    cases t with
    | ident name => exact Prod.ext ((Token.inCode_ident_iff name).2 (hn _ hl name rfl)) rfl
    | _ => rfl
  rw [same] at code
  refine ⟨code, fun limit e quiet span hp => ?_⟩
  obtain ⟨next, missed, hp⟩ := parseSegments_eq_ok hp
  obtain ⟨fits, shaped⟩ := Grammar.template_takes hp
  have bracketed := nest_body _ shaped.segments _ fits
  have reads (depth : Nat) (inTail : Bool) (d : Char) (rest : List Char) (hd : Lexer.EndsExpr d) :=
    hd.reads rest hh code (bracketed.depthAfter depth) inTail
  have stand : Grammar.StandFor (lexemes.map Prod.fst) e := fun rest hr depth hd =>
    Grammar.expressionWithin_of_template hp hr hd
  obtain ⟨found, read, tokens⟩ :=
    (reads_argumentSource (reads 1 false ']' [')'] (by simp [Lexer.EndsExpr]))).tokenize
  refine ⟨reads, stand, found, read, fun limit hl => ?_⟩
  have given : (Cursor.mk 0 0 found).tokens = Grammar.argumentTokens (lexemes.map Prod.fst) := tokens
  obtain ⟨_, next, missed, parsed, -, a, span', rfl, ha⟩ := stand.template_gives.given given
  exact ⟨a, span', parseSegments_of_success hl parsed, ha⟩

/-- Suffixes of every kind, a comma behind the last argument, and a word in brackets. -/
theorem reference_in_code_suffixes :
    let source := "$a.b(1,)[ true ].c"
    let lexemes : List Lexeme :=
      [(.reference "a" false, ⟨0, 2⟩), (.symbol .dot, ⟨2, 3⟩), (.ident "b", ⟨3, 4⟩),
        (.symbol .openParen, ⟨4, 5⟩), (.number "1", ⟨5, 6⟩), (.symbol .comma, ⟨6, 7⟩),
        (.symbol .closeParen, ⟨7, 8⟩), (.symbol .openBracket, ⟨8, 9⟩),
        (.reserved .yes, ⟨10, 14⟩), (.symbol .closeBracket, ⟨15, 16⟩),
        (.symbol .dot, ⟨16, 17⟩), (.ident "c", ⟨17, 18⟩)]
    '#' ∉ source.toList ∧ tokenize source = .ok lexemes ∧ (∀ l ∈ lexemes, l.1.isCode) ∧
      tokenizeExpression source = .ok lexemes ∧
      ∃ e span, Markup.parseSegments source lexemes 64 = .ok [.reference e false span] ∧
        Markup.Grammar.StandFor (lexemes.map Prod.fst) e := by
  intro source lexemes
  have plain : '#' ∉ source.toList := by decide
  have tokens : tokenize source = .ok lexemes := by decide +kernel
  have code : ∀ l ∈ lexemes, l.1.isCode := by decide
  have names : ∀ l ∈ lexemes, ∀ name, l.1 = .ident name →
      ReservedWord.ofWord? name = none ∧ Symbol.ofWord? name = none := by
    simp only [lexemes, List.forall_mem_cons]
    simp
    decide
  obtain ⟨same, means⟩ := (reference_in_code plain tokens code).2 names
  have parsed : ∃ e span, Markup.parseSegments source lexemes 64 = .ok [.reference e false span] :=
    ⟨_, _, by cbv⟩
  obtain ⟨e, span, parsed⟩ := parsed
  exact ⟨plain, tokens, code, same, e, span, parsed, (means 64 e false span parsed).2.1⟩

/-- Text takes the word for the name of a property, code does not. -/
theorem tokenizeExpression_ne_tokenize :
    '#' ∉ "$a.in".toList ∧
      tokenize "$a.in" = .ok [(.reference "a" false, ⟨0, 2⟩), (.symbol .dot, ⟨2, 3⟩),
        (.ident "in", ⟨3, 5⟩)] ∧
      tokenizeExpression "$a.in" = .ok [(.reference "a" false, ⟨0, 2⟩), (.symbol .dot, ⟨2, 3⟩),
        (.reserved .inside, ⟨3, 5⟩)] := by
  refine ⟨by decide, by decide +kernel, by decide +kernel⟩

end Template
