import Template.Proofs.Render.Echo
import Template.Proofs.Render.Unplaced
import Template.Proofs.Token.Outside
import Template.Proofs.Tree.Relocation

/-!
Strings agree with templates. What stands between the quotes of a string is parsed as a template of
its own, with half of the nesting that is allowed around it. Without double quotes in it, it gives
the value, the changes and the error that its nodes give where they are rendered outside of any
string. What its references and calls repeat is their own part of the text.
-/

namespace Template

theorem Markup.check_of_parseSegments {source : String} {lexemes : List Lexeme} {limit : Nat}
    {body : List Segment} (h : parseSegments source lexemes limit = .ok body) :
    Nesting.check source limit lexemes = .ok () := by
  unfold parseSegments at h
  cases checked : Nesting.check source limit lexemes with
  | error e =>
      rw [checked] at h
      cases h
  | ok => rfl

/-- The token is one of a text that is parsed where nesting is limited to `limit`. -/
def Lexeme.Parsed (limit : Nat) (l : Lexeme) : Prop :=
  ∃ text lexemes body, tokenize text = .ok lexemes ∧
    Markup.parseSegments text lexemes limit = .ok body ∧ l ∈ lexemes

/-- Strings stand in brackets, so they are allowed where a string is parsed. -/
theorem Lexeme.Parsed.limit_ne_zero {limit : Nat} {raw : String} {s : Span}
    (h : Lexeme.Parsed limit (.str raw, s)) : limit ≠ 0 := by
  rintro rfl
  obtain ⟨text, lexemes, body, tokens, parsed, hl⟩ := h
  have flat := (Nesting.check_eq_ok_iff text 0 lexemes).1 (Markup.check_of_parseSegments parsed)
  have closed := Nesting.opens_of_deepest (Nat.le_zero.1 flat)
  have outside : Lexer.Mode.text.isOutside = true := rfl
  exact Lexer.run_outside outside tokens
    (fun l hl => closed _ (List.mem_map_of_mem hl)) _ hl raw rfl

namespace Tree

/-- A string in double quotes. -/
def inQuotes (body : List Char) : String := String.ofList ('"' :: (body ++ ['"']))

theorem all_isText_unplacedNodes (ns : List Node) :
    (unplacedNodes ns).all Node.isText = ns.all Node.isText := by
  induction ns with
  | nil => rfl
  | cons n ns ih =>
      rw [unplacedNodes, List.all_cons, List.all_cons, ih]
      cases n <;> rfl

/-- The nesting that is allowed inside `depth` strings. Each of them halves it. -/
def nestingInside (limit depth : Nat) : Nat := limit / Nat.pow 2 depth

theorem nestingInside_zero (limit : Nat) : nestingInside limit 0 = limit := Nat.div_one limit

theorem nestingInside_succ (limit depth : Nat) :
    nestingInside limit (depth + 1) = nestingInside limit depth / 2 :=
  (Nat.div_div_eq_div_mul limit (Nat.pow 2 depth) 2).symm

/-- The builder of a text of the source that stands at `offset`, inside `depth` strings. -/
def builderAt (source : String) (limit depth offset : Nat) : Builder :=
  let chars := source.toList
  let lines := LineTable.ofChars chars
  { source := chars, lines, offset
    template := stringTemplate chars lines (stringLevels limit - depth)
      (nestingInside limit (depth + 1)) }

theorem builderAt_zero (source : String) (limit : Nat) :
    builderAt source limit 0 0 = builder source limit := by
  rw [builderAt, builder, nestingInside_succ, nestingInside_zero, Nat.sub_zero]

/-- As long as a string can be parsed it can be a template. -/
theorem lt_stringLevels {limit depth : Nat} {raw : String} {s : Span}
    (h : depth = 0 ∨ Lexeme.Parsed (nestingInside limit depth) (.str raw, s)) :
    depth < stringLevels limit := by
  unfold stringLevels
  rcases h with rfl | h
  · omega
  · have power : 2 ^ depth ≤ limit := by
      by_contra small
      exact h.limit_ne_zero (Nat.div_eq_of_lt (Nat.lt_of_not_le small))
    have nonzero : limit ≠ 0 := fun none =>
      h.limit_ne_zero (by rw [nestingInside, none, Nat.zero_div])
    have := (Nat.le_log2 nonzero).2 power
    omega

/-- What the builder one string deeper makes of the text of a string is its template, unless it is
all text. -/
theorem template_builderAt (source : String) {limit depth : Nat} (hd : depth < stringLevels limit)
    (offset start : Nat) {body : List Char} {lexemes : List Lexeme}
    {segments : List Markup.Segment} (tokens : tokenize (String.ofList body) = .ok lexemes)
    (parsed : Markup.parseSegments (String.ofList body) lexemes
      (nestingInside limit (depth + 1)) = .ok segments) :
    let nodes := ((builderAt source limit (depth + 1) start).segments segments).map unquoteText
    (builderAt source limit depth offset).template body start =
      if nodes.all Node.isText then none else some nodes := by
  obtain ⟨levels, more⟩ : ∃ levels, stringLevels limit - depth = levels + 1 :=
    ⟨stringLevels limit - (depth + 1), by omega⟩
  have fewer : stringLevels limit - (depth + 1) = levels := by omega
  simp only [builderAt, more, fewer, stringTemplate, tokens, parsed,
    nestingInside_succ limit (depth + 1)]

namespace Builder

/-- A text in double quotes that is a template is interpolated. -/
theorem literal_of_template {b : Builder} {body : List Char} {s : Span} {nodes : List Node}
    (inner : mayInterpolate body)
    (found : b.template body (b.offset + s.start + 1) = some nodes) :
    b.literal (.str (inQuotes body)) s = .interpolated nodes (b.region s) := by
  have split : splitQuotes (inQuotes body) = ('"', body) := by
    simp [splitQuotes, inQuotes]
  simp only [literal, split, inner, beq_self_eq_true, Bool.and_self, if_true, found]

theorem all_isText_segments (b : Builder) {body : List Markup.Segment}
    (h : ∀ x ∈ body, x.isText) : (b.segments body).all Node.isText = true := by
  induction body with
  | nil => rfl
  | cons x xs ih =>
      obtain ⟨hx, h⟩ := List.forall_mem_cons.1 h
      rw [segments, List.all_append, ih h, Bool.and_true]
      cases x with
      | text content s =>
          simp only [segment, textNode]
          split <;> rfl
      | _ => cases hx

/-- A text in which there is nothing to be interpolated is all text. -/
theorem all_isText_of_not_mayInterpolate (b : Builder) {body : List Char} {limit : Nat}
    {lexemes : List Lexeme} {segments : List Markup.Segment}
    (tokens : tokenize (String.ofList body) = .ok lexemes)
    (parsed : Markup.parseSegments (String.ofList body) lexemes limit = .ok segments)
    (plain : ¬mayInterpolate body) : (b.segments segments).all Node.isText = true := by
  have absent : '$' ∉ body ∧ '#' ∉ body := by
    simp only [mayInterpolate, List.any_eq_true, not_exists, not_and] at plain
    exact ⟨fun h => plain '$' h rfl, fun h => plain '#' h rfl⟩
  rw [← String.toList_ofList (l := body)] at absent
  obtain ⟨lexemes', segments', tokens', -, parsed', texts⟩ :=
    Markup.parseSegments_of_plain absent.1 absent.2 limit
  obtain rfl := Except.ok.inj (tokens'.symm.trans tokens)
  obtain rfl := Except.ok.inj (parsed'.symm.trans parsed)
  exact b.all_isText_segments texts

end Builder

end Tree

/-- The options that the text of a string is compiled with where nesting is limited to `around`. -/
def Options.inString (around : Nat) (options : Options) : Options :=
  { options with gobbling := .none, maxNesting := around / 2 }

/-- How the text of a string is read as a source, and which nodes it gives. -/
structure Document.Own (d : Document) (text : List Char) (limit : Nat) (lexemes : List Lexeme)
    (body : List Markup.Segment) : Prop where
  tokens : tokenize (String.ofList text) = .ok lexemes
  parsed : Markup.parseSegments (String.ofList text) lexemes limit = .ok body
  nodes : d.nodes = (Tree.builder (String.ofList text) limit).segments body
  stand : Lexeme.Stand text 0 lexemes
  fits : Markup.FitsIn (Markup.layoutBody body) lexemes
  shaped : ∀ x ∈ body, x.Shaped

theorem Document.own_of_compile {options : Options} {around : Nat} {text : List Char}
    {d : Document} (h : compile (options.inString around) (String.ofList text) = .ok d) :
    ∃ lexemes body, d.Own text (around / 2) lexemes body := by
  obtain ⟨lexemes, body, tokens, parsed, rfl⟩ := compile_eq_ok h
  have stand := (Tree.stand_of_tokenize [] [] tokens).1
  rw [List.append_nil] at stand
  obtain ⟨next, missed, taken⟩ := Markup.parseSegments_eq_ok parsed
  obtain ⟨fits, shaped⟩ := Markup.Grammar.template_takes taken
  exact ⟨lexemes, body, tokens, parsed, rfl, stand, fits.fitsIn, shaped.segments⟩

namespace Tree

/-- A string in double quotes, in a text of the source inside so many strings. If its own text has
no double quotes and gives more than text as a source, then the string is a template with the same
nodes, but for their places. -/
theorem literal_of_compile {options : Options} {source : String} {front body back : List Char}
    {depth offset : Nat} {s : Span} (stands : source.toList = front ++ '"' :: (body ++ '"' :: back))
    (place : Text.byteLength front = offset + s.start) (quoteless : '"' ∉ body)
    (parsed : depth = 0 ∨
      Lexeme.Parsed (nestingInside options.maxNesting depth) (.str (inQuotes body), s))
    {d : Document}
    (own : Document.compile (options.inString (nestingInside options.maxNesting depth))
      (String.ofList body) = .ok d)
    (mixed : d.nodes.all Node.isText = false) :
    ∃ nodes region, (builderAt source options.maxNesting depth offset).literal
        (.str (inQuotes body)) s = .interpolated nodes region ∧
      unplacedNodes nodes = unplacedNodes d.nodes := by
  obtain ⟨lexemes, segments, tokens, read, nodes, stand, fits, shaped⟩ :=
    Document.own_of_compile own
  let b := builderAt source options.maxNesting (depth + 1) (offset + s.start + 1)
  have start : b.offset = Text.byteLength (front ++ ['"']) := by
    rw [Text.byteLength_append, place]
    rfl
  have text : b.source = (front ++ ['"']) ++ (body ++ '"' :: back) := by
    simp [b, builderAt, stands]
  have agree : b.Agree
      (builder (String.ofList body) (nestingInside options.maxNesting depth / 2)) lexemes :=
    Builder.agree_of_quoteless text start String.toList_ofList rfl stand quoteless
  have same : unplacedNodes (b.segments segments) = unplacedNodes d.nodes := by
    rw [nodes]
    exact agree.segments segments shaped fits
  have mixed' : (b.segments segments).all Node.isText = false := by
    rwa [← all_isText_unplacedNodes, same, all_isText_unplacedNodes]
  have inner : mayInterpolate body := by
    by_contra plain
    rw [b.all_isText_of_not_mayInterpolate tokens read plain] at mixed'
    cases mixed'
  rw [← nestingInside_succ] at read
  have unquoted := b.segments_unquoted (stand.quoteless quoteless) fits
  have found := template_builderAt source (lt_stringLevels parsed) offset (offset + s.start + 1)
    tokens read
  simp only [b, unquoted, mixed'] at found
  exact ⟨b.segments segments, _, Builder.literal_of_template inner found, same⟩

end Tree

theorem Document.placed_of_compile_inString {options : Options} {around : Nat} {text : List Char}
    {d : Document} (h : compile (options.inString around) (String.ofList text) = .ok d) :
    ∀ n ∈ d.nodes, (Tree.Part.node n).Everywhere (Tree.Part.Placed text) := by
  obtain ⟨lexemes, body, own⟩ := own_of_compile h
  let b := Tree.builder (String.ofList text) (around / 2)
  have source : b.source = text := String.toList_ofList
  have lays := (Tree.builder_grounded (String.ofList text) (around / 2)).segments body own.shaped
    (show Lexeme.Stand b.source 0 lexemes from source.symm ▸ own.stand) own.fits
  intro n hn
  rw [own.nodes] at hn
  exact source ▸ (lays.each n hn).placed

namespace Rendering

theorem evaluate_interpolated (env : Environment) (deeper : Frame → Rendering Unit Rendered)
    (nodes : List Tree.Node) (place : Region) (s : State) :
    (evaluate env.unobserved deeper (.interpolated nodes place) s ()).1 =
      ((renderNodes env.unobserved deeper nodes s ()).1.1.map fun r => .text r.text,
        (renderNodes env.unobserved deeper nodes s ()).1.2) := by
  have run : evaluate env.unobserved deeper (.interpolated nodes place) s () =
      (do
        let r ← renderNodes env.unobserved deeper nodes
        return Value.text r.text) s () := by
    simp only [evaluate, inString, bind_assoc]
    rfl
  rw [run, bind_run]
  obtain ⟨⟨r, s'⟩, ⟨⟩⟩ := renderNodes env.unobserved deeper nodes s ()
  cases r <;> rfl

end Rendering

open Template.Tree Rendering in
/-- A string agrees with what stands in it. Take a string in double quotes anywhere in a source,
inside `depth` other strings. There are no double quotes between its own, and what stands there is a
template under half of the limit that is in force around the string, with more than text in it. From
every state the value of the string is the text that the nodes of this template render outside of
any string, or both fail with the same error; and both leave the same state, but for the places in
the bodies of definitions. Where a reference or a call repeats its source, this is a part of what
stands between the quotes. -/
theorem interpolation_agrees (options : Options) (source : String) {front body back : List Char}
    {depth offset : Nat} {s : Span} (stands : source.toList = front ++ '"' :: (body ++ '"' :: back))
    (place : Text.byteLength front = offset + s.start) (quoteless : '"' ∉ body)
    (parsed : depth = 0 ∨
      Lexeme.Parsed (nestingInside options.maxNesting depth) (.str (inQuotes body), s))
    {d : Document}
    (own : Document.compile (options.inString (nestingInside options.maxNesting depth))
      (String.ofList body) = .ok d)
    (live : ∃ n ∈ d.nodes, n.isText = false) (env : Environment) (t : State) :
    let literal :=
      (builderAt source options.maxNesting depth offset).literal (.str (inQuotes body)) s
    let string := (evaluate env.unobserved (renderWhole env.unobserved) literal t ()).1
    let whole := (renderNodes env.unobserved (renderWhole env.unobserved) d.nodes t ()).1
    string.1 = whole.1.map (fun r => .text r.text) ∧
      string.2.Beside Definitions.SameButPlaces whole.2 ∧
      ∀ n ∈ d.nodes, (Part.node n).Everywhere (Part.Placed body) := by
  obtain ⟨nodes, region, interpolated, same⟩ :=
    literal_of_compile stands place quoteless parsed own (by simpa using live)
  obtain ⟨result, state⟩ := renderNodes_unmoved env same t
  dsimp only
  rw [interpolated, evaluate_interpolated, result]
  exact ⟨rfl, state, Document.placed_of_compile_inString own⟩

open Template.Tree Rendering in
/-- A reference without a value, an assignment and a call of no definition, in a string behind a
character of two bytes. -/
theorem interpolation_agrees_echo :
    let source := "é#set($x = \"$y#set($z = $v)#m()\")"
    let env : Environment := ⟨.standard, .none, .none⟩
    let t : State := .initial .standard [("v", .text "1")] .empty
    let literal := (builder source 64).literal (.str "\"$y#set($z = $v)#m()\"") ⟨12, 33⟩
    let string := (evaluate env.unobserved (renderWhole env.unobserved) literal t ()).1
    string.1.toOption = some (.text "$y#m()") ∧
      string.2.scopes.get? "z" = some (.text "1") := by
  intro source env t
  rw [← builderAt_zero]
  let body := "$y#set($z = $v)#m()".toList
  let whole (d : Document) :=
    (renderNodes env.unobserved (renderWhole env.unobserved) d.nodes t ()).1
  let measure (d : Document) := (d.nodes.any fun n => !n.isText,
    ((whole d).1.map fun r => Value.text r.text).toOption, (whole d).2.scopes.get? "z")
  have found : ((Document.compile (Options.inString 64 .standard) (String.ofList body)).map
      measure).toOption = some (true, some (.text "$y#m()"), some (.text "1")) := by decide +kernel
  obtain ⟨d, own, same⟩ := Document.exists_of_measure measure found
  obtain ⟨live, same⟩ := Prod.mk.inj same
  obtain ⟨text, bound⟩ := Prod.mk.inj same
  have stands : source.toList = "é#set($x = ".toList ++ '"' :: (body ++ '"' :: [')']) := by decide
  have place : Text.byteLength "é#set($x = ".toList = 0 + Span.start ⟨12, 33⟩ := by decide
  obtain ⟨value, ⟨ds, -, state⟩, -⟩ := interpolation_agrees .standard source stands place
    (by decide) (.inl rfl) own (by simpa using live) env t
  have scopes := congrArg (fun s : State => s.scopes.get? "z") state
  exact ⟨(congrArg Except.toOption value).trans text, scopes.symm.trans bound⟩

end Template
