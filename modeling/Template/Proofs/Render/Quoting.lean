import Template.Proofs.Render.Echo
import Template.Proofs.Render.Failure
import Template.Proofs.Render.Fallback
import Template.Proofs.Tree.Printing
import Template.Proofs.Tree.StringValue

/-!
Text in quotes. A text without backslashes is quoted by doubling the quotes in it, and is read back
as it was: as the value that is assigned and printed, and as the key of a map.
-/

namespace Template

open Lexer (Reads reads_blank reads_written)

/-- The text between quotes, with every quote in it doubled. -/
def quotedIn (quote : Char) (text : String) : String :=
  String.ofList (quote :: (PlainText.doubled quote text.toList ++ [quote]))

/-- The text can stand between such quotes. In double quotes it must not hold a template. -/
structure Quotable (quote : Char) (text : String) : Prop where
  plain : '\\' ∉ text.toList
  quotes : quote = '\'' ∨ quote = '"' ∧ '$' ∉ text.toList ∧ '#' ∉ text.toList

theorem PlainText.mem_doubled {quote c : Char} {cs : List Char} (h : c ∈ doubled quote cs) :
    c = quote ∨ c ∈ cs := by
  induction cs with
  | nil => cases h
  | cons d cs ih =>
      unfold doubled at h
      split at h
      · simp only [List.mem_cons] at h ⊢
        tauto
      · simp only [List.mem_cons] at h ⊢
        tauto

namespace Quotable

variable {quote : Char} {text : String}

theorem isQuote (h : Quotable quote text) : quote = '"' ∨ quote = '\'' :=
  h.quotes.elim .inr fun h => .inl h.1

theorem splitQuotes (quote : Char) (text : String) :
    Tree.splitQuotes (quotedIn quote text) = (quote, PlainText.doubled quote text.toList) := by
  simp [Tree.splitQuotes, quotedIn]

theorem unquote (h : Quotable quote text) :
    String.ofList (Tree.unquote quote (PlainText.doubled quote text.toList)) = text := by
  rw [unquote_doubled quote h.plain, String.ofList_toList]

theorem mapKey (h : Quotable quote text) :
    Tree.Builder.mapKey (.str (quotedIn quote text)) = text := by
  simp only [Tree.Builder.mapKey, splitQuotes, h.unquote]

theorem literal (h : Quotable quote text) (b : Tree.Builder) (s : Span) :
    b.literal (.str (quotedIn quote text)) s = .literal (.text text) (b.region s) := by
  rcases b.literal_str (splitQuotes quote text) s with plain | ⟨rfl, inner, -⟩
  · rw [plain, h.unquote]
  · obtain ⟨c, hc, found⟩ := List.any_eq_true.1 inner
    rcases h.quotes with single | ⟨-, dollar, hash⟩
    · cases single
    · rcases PlainText.mem_doubled hc with rfl | hc
      · cases found
      · simp only [Bool.or_eq_true, beq_iff_eq] at found
        rcases found with rfl | rfl
        · exact absurd hc dollar
        · exact absurd hc hash

theorem written (h : Quotable quote text) : Lexer.Written (.str (quotedIn quote text)) quote
    (PlainText.doubled quote text.toList ++ [quote]) := Lexer.written_quoted h.isQuote h.plain

/-- The quoted text is read in code, wherever a blank or a parenthesis follows. -/
theorem reads (h : Quotable quote text) (depth : Nat) {d : Char} (hd : Lexer.EndsToken d)
    (rest : List Char) :
    Reads (.code depth false) (' ' :: (quotedIn quote text).toList ++ d :: rest)
      [.str (quotedIn quote text)] (.code depth false) (d :: rest) := by
  have written := h.written
  have chars : (quotedIn quote text).toList =
      quote :: (PlainText.doubled quote text.toList ++ [quote]) := by simp [quotedIn]
  rw [chars]
  exact (reads_blank written.solid written.notHash depth false _).trans
    (reads_written written rfl false hd rest)

end Quotable

/-- `#set($x = …)` with the quoted text, and `$x`. -/
def quotation (quote : Char) (text : String) : String :=
  "#set($x = " ++ quotedIn quote text ++ ")$!x"

def quotationTokens (quote : Char) (text : String) : List Token :=
  [.directive .assign, .symbol .openParen, .reference "x" false, .symbol .assign,
    .str (quotedIn quote text), .symbol .closeParen, .reference "x" true]

theorem quotation_reads {quote : Char} {text : String} (h : Quotable quote text) :
    Reads .text (quotation quote text).toList (quotationTokens quote text) .tail [] := by
  have name : Lexer.IsName "x".toList := Lexer.isName_of_nameAt (by decide) (by decide)
  have target : Lexer.Balanced [.reference "x" false, .symbol .assign] :=
    .cons (.reference name false) rfl rfl (.single (.symbol .assign) rfl rfl)
  have closer : Reads (.code 1 false) (')' :: ([] ++ ['$', '!', 'x'])) [.symbol .closeParen] .text
      ['$', '!', 'x'] := .emit rfl
  have last : Reads .text ('$' :: (['!', 'x'] ++ [])) [.reference "x" true] .tail [] := .emit rfl
  have chars : (quotation quote text).toList = '#' :: 's' :: 'e' :: 't' :: '(' ::
      (Lexer.spaced [.reference "x" false, .symbol .assign] ++
        (' ' :: (quotedIn quote text).toList ++ [')', '$', '!', 'x'])) := by
    simp [quotation, Lexer.spaced, Token.describe, Symbol.text]
  rw [chars]
  exact (Formula.reads_set _).trans ((target.reads 0 false (.inl rfl) _).trans
    ((h.reads 1 (.inr rfl) _).trans (closer.trans last)))

/-- The markup of such a source, with its places. -/
theorem parseSegments_quotation {quote : Char} {text : String} {lexemes : List Lexeme} {limit : Nat}
    (tokens : lexemes.map Prod.fst = quotationTokens quote text) (hl : 1 ≤ limit) :
    ∃ s₁ s₂ s₃ s₄, Markup.parseSegments (quotation quote text) lexemes limit =
      .ok [.assign "x" [] (.primary (.literal (.str (quotedIn quote text)) s₁)) s₂,
        .reference (.primary (.reference "x" true s₃)) true s₄] := by
  let value : Markup.Expr := .primary (.literal (.str (quotedIn quote text)) default)
  let printed : Markup.Expr := .primary (.reference "x" true default)
  let body : List Markup.Segment := [.assign "x" [] value default, .reference printed true default]
  have shaped : Markup.BodyShaped body := by
    refine ⟨?_, by simp [body, Markup.Segment.MayPrecede, Markup.Segment.isText]⟩
    simp only [body, List.forall_mem_cons]
    exact ⟨.assign (.primary .literal), .reference .primary (.primary .reference),
      List.forall_mem_nil _⟩
  have spelled : Markup.bodyTokens body = quotationTokens quote text := rfl
  have shallow : Nesting.check (quotation quote text) limit lexemes = .ok () := by
    rw [Nesting.check_eq_ok_iff, tokens]
    exact hl
  obtain ⟨found, parsed, same⟩ :=
    Markup.exists_parseSegments shaped (tokens.trans spelled.symm) shallow
  obtain ⟨_, _, rfl, first, same⟩ := Markup.exists_of_unplacedBody_cons same
  obtain ⟨_, rfl, second⟩ := Markup.exists_of_unplacedBody_singleton same
  obtain ⟨m, s₂, rfl, hm⟩ := Markup.Segment.exists_of_unplaced_assign first
  obtain ⟨e, s₄, rfl, he⟩ := Markup.Segment.exists_of_unplaced_reference second
  obtain ⟨s₁, rfl⟩ := Markup.Expr.exists_of_unplaced_literal hm
  obtain ⟨s₃, rfl⟩ := Markup.Expr.exists_of_unplaced_reference he
  exact ⟨s₁, s₂, s₃, s₄, parsed⟩

namespace Document

open Template.Tree

/-- The document of such a source: the text is assigned as it was before it was quoted. -/
theorem compile_quotation {quote : Char} {text : String} (h : Quotable quote text)
    (options : Options) (limit : 1 ≤ options.maxNesting) :
    ∃ p₁ p₂ p₃ p₄ source, compile options (quotation quote text) =
      .ok ⟨[.assign "x" [] (.literal (.text text) p₁) p₂,
        .interpolation (.reference "x" true p₃) true source p₄], none⟩ := by
  obtain ⟨lexemes, read, tokens⟩ := (quotation_reads h).tokenize
  obtain ⟨s₁, s₂, s₃, s₄, parsed⟩ := parseSegments_quotation tokens limit
  have gobbled (mode : Gobbling) (a : Markup.Expr) (c : Markup.Expr) :
      Markup.gobble mode [.assign "x" [] a s₂, .reference c true s₄] =
        [.assign "x" [] a s₂, .reference c true s₄] :=
    Markup.gobble_of_textless mode
      (List.forall_mem_cons.2 ⟨rfl, List.forall_mem_singleton.2 rfl⟩)
  have whole : Markup.wholeExpression? (quotation quote text) options.maxNesting = none := by
    simp [Markup.wholeExpression?, quotation]
  let b := builder (quotation quote text) options.maxNesting
  refine ⟨b.region s₁, b.region s₂, b.region s₃, b.region s₄, b.sourceText s₄, ?_⟩
  simp only [compile, segments, read, parsed, gobbled, Except.map, ofSegments, whole,
    Option.map_none, Builder.segments, Builder.segment, Builder.expr, Builder.primary, h.literal,
    List.cons_append, List.nil_append, List.append_nil, b]

end Document

/-- What was written is looked up, whatever had the name before. -/
theorem Scopes.get?_set (name : String) (value : Value) (s : Scopes) :
    (s.set name value).get? name = some value := by
  unfold Scopes.set
  split <;> simp [Scopes.get?, Scopes.all, Entries.get?_put, *]

namespace Rendering

variable {ω : Type}

/-- What prints nothing is followed by the rest alone. -/
theorem andThen_of_empty {a b : Rendering ω Rendered} {s t : State} {w v : ω}
    (h : a s w = ((.ok .empty, t), v)) : andThen a b s w = b t v := by
  rw [andThen, bind_run, h]
  dsimp only [Rendered.empty, Rendered.ofText]
  rw [bind_run]
  obtain ⟨⟨r, t'⟩, v'⟩ := b t v
  cases r <;> simp [pure_run]

/-- A name that stands for a text prints it. -/
theorem Gives.printed (env : Observed ω) (deeper : Frame → Rendering ω Rendered)
    (name text : String) (quiet quiet' : Bool) (source : String) (p p' : Region) :
    Gives (fun scopes => scopes.get? name = some (.text text))
      (Rendering.renderNodes env deeper
        [.interpolation (.reference name quiet p) quiet' source p'])
      (.ofText text) := by
  have value : Gives (fun scopes => scopes.get? name = some (.text text))
      (Rendering.evaluate env deeper (.reference name quiet p)) (.text text) := by
    simp only [Rendering.evaluate, lookUp]
    refine bind (report _) (unchanged fun s w hs => ?_)
    rw [bind_run, get_run]
    simp only [hs]
    rfl
  have shown : Gives (fun scopes => scopes.get? name = some (.text text))
      (display env (.text text)) text := unchanged fun _ _ _ => rfl
  have node : Gives (fun scopes => scopes.get? name = some (.text text))
      (visitNode env deeper (.interpolation (.reference name quiet p) quiet' source p'))
      (.ofText text) := by
    refine bind (report _) ?_
    simp only [Rendering.renderNode]
    exact bind value (bind shown (print text))
  have nodes := andThen node (pure (Rendered.ofText ""))
  rwa [String.append_empty] at nodes

/-- A text that is assigned and printed is printed, from every state. -/
theorem renderDocument_assigned (env : Observed ω) (deeper : Frame → Rendering ω Rendered)
    (name text : String) (quiet quiet' : Bool) (source : String) (p₁ p₂ p₃ p₄ : Region) (s : State)
    (w : ω) :
    ∃ t, (renderDocument env deeper ⟨[.assign name [] (.literal (.text text) p₁) p₂,
      .interpolation (.reference name quiet p₃) quiet' source p₄], none⟩ s w).1 =
        (.ok (.ofText text), t) := by
  let s' := (s.define []).set name (.text text)
  have value : s'.scopes.get? name = some (.text text) := Scopes.get?_set name _ _
  have first : ∃ v, visitNode env deeper (.assign name [] (.literal (.text text) p₁) p₂)
      (s.define []) w = ((.ok .empty, s'), v) := ⟨_, rfl⟩
  obtain ⟨v, first⟩ := first
  obtain ⟨store, rest⟩ := Gives.printed env deeper name text quiet quiet' source p₃ p₄ s' v value
  refine ⟨{ s' with store }, ?_⟩
  have nodes : (renderNodes env deeper [.assign name [] (.literal (.text text) p₁) p₂,
      .interpolation (.reference name quiet p₃) quiet' source p₄] (s.define []) w).1 =
        (.ok (.ofText text), { s' with store }) :=
    (congrArg Prod.fst (andThen_of_empty first)).trans rest
  rw [renderDocument_of_none, bind_run]
  simp only [Tree.nodeDefinitions, Tree.Node.definitions, List.append_nil]
  generalize renderNodes env deeper _ _ w = out at nodes ⊢
  obtain ⟨_, x⟩ := out
  cases nodes
  rfl

end Rendering

theorem render_quotation {quote : Char} {text : String} (h : Quotable quote text)
    (env : Environment) (context : Context) (store : Store) (limit : 1 ≤ env.options.maxNesting) :
    ∃ d, Document.compile env.options (quotation quote text) = .ok d ∧
      (d.render env context store).result = .ok text := by
  obtain ⟨p₁, p₂, p₃, p₄, source, compiled⟩ := Document.compile_quotation h env.options limit
  refine ⟨_, compiled, ?_⟩
  obtain ⟨t, rendered⟩ := Rendering.renderDocument_assigned env.unobserved
    (Rendering.renderFrame env.unobserved (env.options.maxCallDepth + env.options.maxParseDepth))
    "x" text true true source p₁ p₂ p₃ p₄
    (.initial env.options (context.globalScope store).1 (context.globalScope store).2) ()
  exact congrArg (fun out => out.1.map Rendered.text) rendered

/-! ### The key of a map -/

namespace Nesting

/-- One more level around all others. -/
def wrapped (n : Nesting) : Nesting := { n with around := n.around ++ [0] }

theorem depth_wrapped (n : Nesting) : n.wrapped.depth = n.depth + 1 := by
  simp [depth, wrapped]
  omega

/-- Code that closes only what it opens does not see the levels around it. -/
theorem wrapped_next {n : Nesting} {t : Token} {d : Nat}
    (h : Lexer.depthAfter n.around.length t = some d) :
    n.wrapped.next t = (n.next t).wrapped ∧ (n.next t).around.length = d := by
  unfold Lexer.depthAfter at h
  split at h
  · next opens =>
    cases h
    simp [next, opens, wrapped, enter]
  · next notOpens =>
    split at h
    · next closes =>
      split at h
      · cases h
      · next inside =>
        cases h
        rw [next_of_closes closes, next_of_closes closes]
        obtain ⟨innermost, around, questions⟩ := n
        cases around with
        | nil => exact absurd (Nat.zero_le 1) inside
        | cons outer rest => exact ⟨rfl, rfl⟩
    · next notCloses =>
      cases h
      unfold next
      rw [if_neg notOpens, if_neg notCloses, if_neg notOpens, if_neg notCloses]
      split <;> exact ⟨rfl, rfl⟩

theorem deepest_wrapped_le {n : Nesting} {ts : List Token} {d : Nat}
    (h : ts.foldlM Lexer.depthAfter n.around.length = some d) :
    n.wrapped.deepest ts ≤ n.deepest ts + 1 := by
  induction ts generalizing n with
  | nil => exact Nat.zero_le _
  | cons t ts ih =>
      obtain ⟨middle, first, more⟩ := Option.bind_eq_some_iff.1 h
      obtain ⟨same, length⟩ := wrapped_next first
      subst length
      have behind := ih more
      simp only [deepest, same, depth_wrapped]
      split <;> omega

end Nesting

/-- The value of a map's entry, from the colon to the brace that closes the map. -/
def entryTokens (brackets : Bool) (f : Formula) : List Token :=
  .symbol .colon :: (f.tokens brackets ++ [.symbol .closeBrace])

/-- `#set($x = { … : … })` with the quoted text and a formula. -/
def keyed (quote : Char) (text : String) (brackets : Bool) (f : Formula) : String :=
  "#set($x = \x7b " ++ quotedIn quote text ++ " " ++
    String.ofList (Lexer.spaced (entryTokens brackets f)) ++ ")"

def keyedTokens (quote : Char) (text : String) (brackets : Bool) (f : Formula) : List Token :=
  .directive .assign :: .symbol .openParen :: .reference "x" false :: .symbol .assign ::
    .symbol .openBrace :: .str (quotedIn quote text) ::
      (entryTokens brackets f ++ [.symbol .closeParen])

section Keyed

variable {quote : Char} {text : String} (brackets : Bool) (f : Formula)

theorem entry_reads :
    Reads (.code 2 false) (' ' :: (Lexer.spaced (entryTokens brackets f) ++ [')']))
      (entryTokens brackets f ++ [.symbol .closeParen]) .text [] := by
  have value := Formula.tokens_balanced brackets f
  have printed : ∀ t ∈ entryTokens brackets f, Lexer.Printed t := by
    simp only [entryTokens, List.forall_mem_cons, List.forall_mem_append]
    exact ⟨.symbol .colon, value.printed, .symbol .closeBrace, List.forall_mem_nil _⟩
  have depth : (entryTokens brackets f).foldlM Lexer.depthAfter 2 = some 1 := by
    change (f.tokens brackets ++ [Token.symbol .closeBrace]).foldlM Lexer.depthAfter 2 = some 1
    rw [List.foldlM_append, value.depth 1]
    rfl
  obtain ⟨more, colon⟩ : ∃ more, Lexer.spaced (entryTokens brackets f) ++ [')'] = ':' :: more := by
    obtain ⟨t, ts, ht⟩ := List.exists_cons_of_ne_nil (Formula.tokens_ne_nil brackets f)
    simp [entryTokens, ht, Lexer.spaced, Token.describe, Symbol.text]
  have entry := Lexer.reads_spaced printed depth false (.inr rfl) []
  rw [colon] at entry ⊢
  exact (reads_blank (by decide) (by decide) 2 false more).trans
    (entry.trans Formula.reads_closeParen)

theorem keyed_reads (h : Quotable quote text) :
    Reads .text (keyed quote text brackets f).toList (keyedTokens quote text brackets f) .text []
    := by
  have name : Lexer.IsName "x".toList := Lexer.isName_of_nameAt (by decide) (by decide)
  let front : List Token := [.reference "x" false, .symbol .assign, .symbol .openBrace]
  have printed : ∀ t ∈ front, Lexer.Printed t := by
    simp only [front, List.forall_mem_cons]
    exact ⟨.reference name false, .symbol .assign, .symbol .openBrace, List.forall_mem_nil _⟩
  have chars : (keyed quote text brackets f).toList = '#' :: 's' :: 'e' :: 't' :: '(' ::
      (Lexer.spaced front ++ (' ' :: (quotedIn quote text).toList ++
        (' ' :: (Lexer.spaced (entryTokens brackets f) ++ [')'])))) := by
    have opened : Lexer.spaced front = "$x = \x7b".toList := by decide
    unfold keyed
    simp [opened]
  rw [chars]
  exact (Formula.reads_set _).trans ((Lexer.reads_spaced printed rfl false (.inl rfl) _).trans
    ((h.reads 2 (.inl rfl) _).trans (entry_reads brackets f)))

theorem deepest_keyedTokens_le :
    Nesting.start.deepest (keyedTokens quote text brackets f) ≤ f.nesting brackets + 1 := by
  have paren : ∀ t ∈ [Token.symbol .closeParen], Nesting.deepens t = false := by decide
  have closers : ∀ t ∈ [Token.symbol .closeBrace] ++ [.symbol .closeParen],
      Nesting.deepens t = false := by decide
  have outer : f.nesting brackets = max 1 (Nesting.deepest ⟨0, [0], 0⟩ (f.tokens brackets)) := by
    change max 1 (Nesting.deepest ⟨0, [0], 0⟩ (f.tokens brackets ++ [Token.symbol .closeParen])) = _
    rw [Nesting.deepest_append, Nesting.deepest_of_flat paren, Nat.max_zero]
  have inner : Nesting.start.deepest (keyedTokens quote text brackets f) =
      max 1 (max 2 (Nesting.deepest ⟨0, [0, 0], 0⟩ (f.tokens brackets))) := by
    change max 1 (max 2 (Nesting.deepest ⟨0, [0, 0], 0⟩ ((f.tokens brackets ++ _) ++ _))) = _
    rw [List.append_assoc, Nesting.deepest_append, Nesting.deepest_of_flat closers, Nat.max_zero]
  have deeper : Nesting.deepest ⟨0, [0, 0], 0⟩ (f.tokens brackets) ≤
      Nesting.deepest ⟨0, [0], 0⟩ (f.tokens brackets) + 1 :=
    @Nesting.deepest_wrapped_le ⟨0, [0], 0⟩ _ _ ((Formula.tokens_balanced brackets f).depth 0)
  omega

theorem Document.compile_keyed (h : Quotable quote text) (options : Options)
    (limit : f.nesting brackets < options.maxNesting) :
    (compile options (keyed quote text brackets f)).map unplaced =
      .ok ⟨[.assign "x" [] (.map [(text, f.tree)] default) default], none⟩ := by
  let entries : List (Markup.MapKey × Markup.Expr) :=
    [(.str (quotedIn quote text), f.markup brackets)]
  let value : Markup.Expr := .primary (.map entries default)
  let body : List Markup.Segment := [.assign "x" [] value default]
  obtain ⟨lexemes, read, tokens⟩ := (keyed_reads brackets f h).tokenize
  have shaped : Markup.BodyShaped body := by
    refine ⟨List.forall_mem_singleton.2 (.assign (.primary (.map ?_))), .singleton _⟩
    exact List.forall_mem_singleton.2 (Formula.markup_shaped brackets f).1
  have spelled : Markup.bodyTokens body = keyedTokens quote text brackets f := by
    simp [body, value, entries, Markup.bodyTokens, Markup.Segment.tokens_assign,
      Markup.Expr.tokens_primary, Markup.Primary.tokens_map, Markup.commaRow_one,
      Markup.entryTokens, Markup.MapKey.token, Formula.tokens_markup, keyedTokens,
      entryTokens]
  have shallow : Nesting.check (keyed quote text brackets f) options.maxNesting lexemes = .ok () := by
    rw [Nesting.check_eq_ok_iff, tokens]
    exact (deepest_keyedTokens_le brackets f).trans limit
  obtain ⟨found, parsed, same⟩ :=
    Markup.exists_parseSegments shaped (tokens.trans spelled.symm) shallow
  obtain ⟨m, span, rfl, hm⟩ := Markup.exists_of_unplacedBody_assign same
  have stands : Stands value (.map [(text, f.tree)] default) :=
    stands_map (standAsEntries_cons h.mapKey (Formula.stands_markup brackets f) standAsEntries_nil)
  have whole : Markup.wholeExpression? (keyed quote text brackets f) options.maxNesting = none := by
    unfold Markup.wholeExpression? keyed
    simp
  have segments : Document.segments options (keyed quote text brackets f) =
      .ok [.assign "x" [] m span] := by
    simp [Document.segments, read, parsed, Formula.gobble_assign]
  have built := stands (Tree.builder (keyed quote text brackets f) options.maxNesting) m hm
  simp [Document.compile, segments, Except.map, Document.ofSegments, Document.unplaced, whole,
    Tree.Builder.segments, Tree.Builder.segment, Tree.unplacedNodes, Tree.Node.unplaced, built]

end Keyed

/-- Quoting loses nothing: a text that is assigned in its quotes is printed as it is, whatever it is
rendered with, and in the place of a map's key it names the text. -/
theorem quotedIn_round_trip {quote : Char} {text : String} (plain : '\\' ∉ text.toList)
    (quotes : quote = '\'' ∨ quote = '"' ∧ '$' ∉ text.toList ∧ '#' ∉ text.toList) :
    (∀ (env : Environment) (context : Context) (store : Store), 2 ≤ env.options.maxNesting →
      ∃ d, Document.compile env.options ("#set($x = " ++ quotedIn quote text ++ ")$!x") = .ok d ∧
        (d.render env context store).result = .ok text) ∧
    Tree.Builder.mapKey (.str (quotedIn quote text)) = text ∧
    ∀ (options : Options) (brackets : Bool) (f : Formula), f.nesting brackets < options.maxNesting →
      (Document.compile options (keyed quote text brackets f)).map Document.unplaced =
        .ok ⟨[.assign "x" [] (.map [(text, f.tree)] default) default], none⟩ := by
  have h : Quotable quote text := ⟨plain, quotes⟩
  refine ⟨fun env context store limit => ?_, h.mapKey, fun options brackets f limit => ?_⟩
  · exact render_quotation h env context store (Nat.le_of_succ_le limit)
  · exact Document.compile_keyed brackets f h options limit

/-- Apostrophes within the text and at its end. -/
theorem quotedIn_round_trip_apostrophes :
    let text := "it's $5'"
    let env : Environment := ⟨.standard, .none, .none⟩
    quotedIn '\'' text = "'it''s $5'''" ∧
      (∃ d, Document.compile .standard ("#set($x = " ++ quotedIn '\'' text ++ ")$!x") = .ok d ∧
        (d.render env .empty .empty).result = .ok text) ∧
      keyed '\'' text false .null = "#set($x = \x7b 'it''s $5''' : null \x7d)" ∧
      (Document.compile .standard (keyed '\'' text false .null)).map Document.unplaced =
        .ok ⟨[.assign "x" [] (.map [(text, .literal .null default)] default) default], none⟩ := by
  intro text env
  obtain ⟨rendered, -, compiled⟩ := @quotedIn_round_trip '\'' text (by decide) (.inl rfl)
  exact ⟨by decide, rendered env .empty .empty (by decide), by decide,
    compiled .standard false .null (by decide)⟩

end Template
