import Template.Proofs.Render.Harmless
import Template.Proofs.Tree.Depth

/-!
Rendering where no name has a value. Every reference then comes to null, whatever is applied to it,
and prints its source or nothing; so a source without a hash sign renders as itself but for its quiet
references.
-/

namespace Template

/-- No name has a value. -/
def Scopes.Bare (scopes : Scopes) : Prop := ∀ name, scopes.get? name = none

namespace Rendering

variable {ω α β : Type} {P : Scopes → Prop}

/-- From states with such scopes the computation ends with the result, and does nothing but to the
store. -/
def Gives (P : Scopes → Prop) (c : Rendering ω α) (a : α) : Prop :=
  ∀ s w, P s.scopes → ∃ store, (c s w).1 = (.ok a, { s with store })

namespace Gives

theorem unchanged {c : Rendering ω α} {a : α} (h : ∀ s w, P s.scopes → (c s w).1 = (.ok a, s)) :
    Gives P c a :=
  fun s w hs => ⟨s.store, h s w hs⟩

theorem pure (a : α) : Gives P (Pure.pure a : Rendering ω α) a := unchanged fun _ _ _ => rfl

theorem mono {Q : Scopes → Prop} {c : Rendering ω α} {a : α} (h : Gives Q c a)
    (hP : ∀ scopes, P scopes → Q scopes) : Gives P c a :=
  fun s w hs => h s w (hP s.scopes hs)

theorem bind {c : Rendering ω α} {f : α → Rendering ω β} {a : α} {b : β} (hc : Gives P c a)
    (hf : Gives P (f a) b) : Gives P (c >>= f) b := by
  intro s w hs
  obtain ⟨store, ended⟩ := hc s w hs
  rw [bind_run]
  generalize c s w = out at ended ⊢
  obtain ⟨_, v⟩ := out
  cases ended
  exact hf { s with store } v hs

/-- What is done first may have any result. -/
theorem after {F : Footprint} {c : Rendering ω α} {f : α → Rendering ω β} {b : β}
    (hc : Settles F c) (hf : ∀ a, Gives P (f a) b) : Gives P (c >>= f) b := by
  intro s w hs
  obtain ⟨a, store, ended, -⟩ := hc s w
  rw [bind_run]
  generalize c s w = out at ended ⊢
  obtain ⟨_, v⟩ := out
  cases ended
  exact hf a { s with store } v hs

variable {env : Observed ω} {deeper : Frame → Rendering ω Rendered}

theorem report (event : State → Event) : Gives P (Rendering.report env event) () :=
  unchanged fun _ _ _ => rfl

theorem print (text : String) : Gives P (Rendering.print env text) (.ofText text) :=
  bind (report _) (pure _)

theorem andThen {a b : Rendering ω Rendered} {x y : String} (ha : Gives P a (.ofText x))
    (hb : Gives P b (.ofText y)) : Gives P (Rendering.andThen a b) (.ofText (x ++ y)) :=
  bind ha (bind hb (pure _))

/-- A name without a value comes to null, and so does what is applied to it: null has no members. -/
theorem evaluate {e : Tree.Expr} (h : e.Rooted env.hosts) :
    Gives Scopes.Bare (Rendering.evaluate env deeper e) .null ∧
      ∀ object name place, e = .member object name place →
        Gives Scopes.Bare (Rendering.evaluate env deeper object) .null := by
  induction h with
  | @reference name =>
      refine ⟨?_, nofun⟩
      simp only [Rendering.evaluate, lookUp]
      refine bind (report _) (unchanged fun s w hs => ?_)
      rw [bind_run, get_run]
      simp only [hs name]
      rfl
  | @member object name place _ ih =>
      refine ⟨?_, ?_⟩
      · simp only [Rendering.evaluate]
        exact bind ih.1 (bind (a := none) (unchanged fun _ _ _ => rfl) (pure _))
      · rintro _ _ _ ⟨⟩
        exact ih.1
  | @call callee arguments place _ ha ih =>
      refine ⟨?_, nofun⟩
      cases callee with
      | member object name place =>
          simp only [Rendering.evaluate]
          exact bind (ih.2 object name place rfl) (after (Settles.evaluateAll arguments ha)
            fun _ => bind (a := none) (unchanged fun _ _ _ => rfl) (pure _))
      | _ =>
          simp only [Rendering.evaluate]
          exact pure _
  | @index container key place _ hk ih =>
      refine ⟨?_, nofun⟩
      simp only [Rendering.evaluate]
      exact bind ih.1 (after (Settles.evaluate key hk)
        fun _ => bind (a := none) (unchanged fun _ _ _ => rfl) (pure _))

theorem interpolation {e : Tree.Expr} (he : e.Rooted env.hosts)
    (hP : ∀ scopes, P scopes → scopes.Bare) (quiet : Bool) (source : String) (place : Region) :
    Gives P (visitNode env deeper (.interpolation e quiet source place))
      (.ofText (if quiet then "" else source)) := by
  refine bind (report _) ?_
  simp only [Rendering.renderNode]
  exact bind ((evaluate he).1.mono hP) (bind (pure _) (print _))

section

variable {source : String} {limit : Nat}

/-- Text prints itself, and a reference without a value its source if it is not quiet. -/
theorem segment {s : Markup.Segment} (hs : s.Plain)
    (hP : s.isText ∨ ∀ scopes, P scopes → scopes.Bare) {ns : List Tree.Node} {text : String}
    (rest : Gives P (Rendering.renderNodes env deeper ns) (.ofText text)) :
    Gives P (Rendering.renderNodes env deeper ((Tree.builder source limit).segment s ++ ns))
      (.ofText (String.ofList (s.echo source.toList) ++ text)) := by
  have printed {e : Tree.Expr} (he : e.Rooted env.hosts) (quiet : Bool) (span : Span)
      (place : Region) (hP : ∀ scopes, P scopes → scopes.Bare) :
      Gives P (Rendering.renderNodes env deeper
        (.interpolation e quiet ((Tree.builder source limit).sourceText span) place :: ns))
        (.ofText (String.ofList (if quiet then [] else
          (Text.slice? span.start span.stop source.toList).getD []) ++ text)) := by
    have first : Gives P (visitNode env deeper (.interpolation e quiet _ place)) _ :=
      interpolation he hP quiet ((Tree.builder source limit).sourceText span) place
    cases quiet with
    | false => exact andThen first rest
    | true => exact andThen first rest
  obtain ⟨inline, shaped, ht⟩ := hs
  cases inline with
  | text content span =>
      simp only [Tree.Builder.segment, Tree.Builder.textNode]
      split
      next empty =>
        have nothing : content = "" := by simpa using empty
        simpa [Markup.Segment.echo, nothing] using rest
      next =>
        simp only [List.cons_append, List.nil_append, Rendering.renderNodes, Rendering.renderNode]
        refine andThen (bind (report _) ?_) rest
        rw [Markup.Segment.echo, String.ofList_toList]
        exact print content
  | reference e quiet span =>
      cases shaped with
      | reference hn hs =>
          rw [Markup.Segment.tokens_reference] at ht
          simp only [Tree.Builder.segment]
          exact printed (Tree.Builder.rooted_of_named (Tree.builder_plain _ _ _) hn hs (.inl ht))
            quiet span _ (hP.resolve_left Bool.false_ne_true)
  | formal inner quiet span =>
      cases shaped with
      | formal hn hs =>
          rw [Markup.Segment.tokens_formal] at ht
          simp only [Tree.Builder.segment]
          exact printed (Tree.Builder.rooted_of_named (Tree.builder_plain _ _ _) hn hs
            (.inr (forall_mem_between ht))) quiet span _ (hP.resolve_left Bool.false_ne_true)

theorem segments {body : List Markup.Segment} (hb : ∀ s ∈ body, s.Plain)
    (hP : ∀ s ∈ body, s.isText ∨ ∀ scopes, P scopes → scopes.Bare) :
    Gives P (Rendering.renderNodes env deeper ((Tree.builder source limit).segments body))
      (.ofText (String.ofList (body.flatMap (Markup.Segment.echo source.toList)))) := by
  induction body with
  | nil =>
      simp only [Tree.Builder.segments, Rendering.renderNodes]
      exact pure _
  | cons s ss ih =>
      obtain ⟨hs, hb⟩ := List.forall_mem_cons.1 hb
      obtain ⟨hp, hP⟩ := List.forall_mem_cons.1 hP
      rw [Tree.Builder.segments, List.flatMap_cons, String.ofList_append]
      exact segment hs hp (ih hb hP)

end

end Gives

end Rendering

namespace Document

open Rendering

theorem run_of_gives {P : Scopes → Prop} {env : Environment} {context : Context} {d : Document}
    {store : Store} {text : String} (he : d.expression = none)
    (hP : P (.ofGlobal (context.globalScope store).1))
    (h : Gives P (renderNodes env.unobserved
      (renderFrame env.unobserved (env.options.maxCallDepth + env.options.maxParseDepth)) d.nodes)
      (.ofText text)) :
    (d.render env context store).result = .ok text := by
  obtain ⟨nodes, _⟩ := d
  subst he
  let s := (State.initial env.options (context.globalScope store).1
    (context.globalScope store).2).define (Tree.nodeDefinitions nodes)
  have whole : Gives P (do return (← renderNodes env.unobserved
      (renderFrame env.unobserved (env.options.maxCallDepth + env.options.maxParseDepth))
      nodes).absorbLeave : Rendering Unit Rendered) (.ofText text) :=
    .bind h (.pure _)
  obtain ⟨left, ended⟩ := whole s () hP
  have run : ((⟨nodes, none⟩ : Document).run env.unobserved () context store).1 =
      (.ok (.ofText text), { s with store := left }) := by
    rw [← ended]
    exact congrArg Prod.fst (renderDocument_of_none ..)
  exact congrArg (fun out => out.1.map Rendered.text) run

theorem compile_eq_ok {options : Options} {source : String} {d : Document}
    (h : compile options source = .ok d) : ∃ lexemes body, tokenize source = .ok lexemes ∧
      Markup.parseSegments source lexemes options.maxNesting = .ok body ∧
      d = ofSegments options.maxNesting source (Markup.gobble options.gobbling body) := by
  unfold compile segments at h
  split at h
  · cases h
  next lexemes tokens =>
    split at h
    · cases h
    next body parsed =>
      cases h
      exact ⟨lexemes, body, tokens, parsed, rfl⟩

/-- What a source without a hash sign renders as, if there are no names in it or they have no values.
-/
theorem render_ofSegments {source : String} (hh : '#' ∉ source.toList) {pieces : List Lexer.Piece}
    (cut : Lexer.Cut source pieces) {limit : Nat} {mode : Gobbling} {body : List Markup.Segment}
    (parsed : Markup.parseSegments source (Lexer.lexemesFrom 0 pieces) limit = .ok body)
    (he : (ofSegments limit source (Markup.gobble mode body)).expression = none)
    (env : Environment) (context : Context) (store : Store)
    (hb : (∀ s ∈ body, s.isText) ∨ (Scopes.ofGlobal (context.globalScope store).1).Bare) :
    ((ofSegments limit source (Markup.gobble mode body)).render env context store).result =
      .ok (String.ofList (Lexer.audible .start pieces)) := by
  obtain ⟨fits, plain⟩ := Markup.plain_of_parseSegments (cut.hashless hh) parsed
  have heard := Markup.audible_eq_echo plain [] cut.laid (cut.chars ▸ hh) fits .start rfl
  rw [List.nil_append, cut.chars] at heard
  let P (scopes : Scopes) : Prop := (∀ s ∈ body, s.isText) ∨ scopes.Bare
  refine run_of_gives (P := P) he hb ?_
  rw [heard, Markup.gobble_of_inline mode fun s hs => (plain s hs).inline]
  refine Gives.segments plain fun s hs => ?_
  by_cases texts : ∀ s ∈ body, s.isText
  · exact .inl (texts s hs)
  · exact .inr fun scopes hP => hP.resolve_left texts

end Document

theorem Scopes.bare_empty (store : Store) :
    (Scopes.ofGlobal (Context.empty.globalScope store).1).Bare := fun _ => rfl

/-- A source without references and directives is a template of texts. -/
theorem Markup.parseSegments_of_plain {source : String} (hd : '$' ∉ source.toList)
    (hh : '#' ∉ source.toList) (limit : Nat) : ∃ lexemes body, tokenize source = .ok lexemes ∧
      (∀ l ∈ lexemes, l.1.isText) ∧ parseSegments source lexemes limit = .ok body ∧
      ∀ s ∈ body, s.isText := by
  obtain ⟨lexemes, tokens, texts⟩ := Lexer.run_of_plain hd hh 0
  have all : ∀ t ∈ lexemes.map Prod.fst, t.isText := by
    intro t ht
    obtain ⟨l, hl, rfl⟩ := List.mem_map.1 ht
    exact texts l hl
  have checked : Nesting.check source limit lexemes = .ok () := by
    rw [Nesting.check_eq_ok_iff, Nesting.deepest_of_flat]
    · exact Nat.zero_le _
    · intro t ht
      have text := all t ht
      cases t <;> first | rfl | cases text
  obtain ⟨body, next, missed, parsed, -, hb⟩ :=
    (Grammar.template_gives_texts all).given (c := ⟨0, 0, lexemes⟩) rfl
  exact ⟨lexemes, body, tokens, texts, parseSegments_of_success checked parsed, hb⟩

theorem Markup.wholeExpression?_of_no_dollar {source : String} (h : '$' ∉ source.toList)
    (limit : Nat) : wholeExpression? source limit = none := by
  refine if_pos ?_
  have head : source.toList.head? ≠ some '$' := fun he => h (List.mem_of_mem_head? he)
  simp [head]

/-- A source without a hash sign that is no expression as a whole renders as itself, but for its
quiet references, where no name has a value. If it has no references at all then it is always a
template, and renders as itself whatever the names are. -/
theorem render_echoes (options : Options) (source : String) (hh : '#' ∉ source.toList) :
    (∀ d, Document.compile options source = .ok d → d.expression = none →
      (∃ pieces, Lexer.Cut source pieces) ∧ ∀ pieces, Lexer.Cut source pieces → ∀ env store,
        (d.render env .empty store).result =
          .ok (String.ofList (Lexer.audible .start pieces))) ∧
    ('$' ∉ source.toList → ∃ d, Document.compile options source = .ok d ∧
      ∀ env context store, (d.render env context store).result = .ok source) := by
  refine ⟨fun d hd he => ?_, fun hs => ?_⟩
  · obtain ⟨lexemes, body, tokens, parsed, rfl⟩ := Document.compile_eq_ok hd
    obtain ⟨pieces, cut, -⟩ := Lexer.exists_cut tokens
    refine ⟨⟨pieces, cut⟩, fun pieces cut env store => ?_⟩
    obtain rfl : lexemes = Lexer.lexemesFrom 0 pieces :=
      Except.ok.inj (tokens.symm.trans cut.tokens)
    exact Document.render_ofSegments hh cut parsed he env .empty store
      (.inr (Scopes.bare_empty store))
  · obtain ⟨lexemes, body, tokens, texts, parsed, hb⟩ :=
      Markup.parseSegments_of_plain hs hh options.maxNesting
    obtain ⟨pieces, cut, rfl⟩ := Lexer.exists_cut tokens
    refine ⟨Document.ofSegments options.maxNesting source (Markup.gobble options.gobbling body), ?_,
      fun env context store => ?_⟩
    · simp only [Document.compile, Document.segments, tokens, parsed]
      rfl
    · have he : (Markup.wholeExpression? source options.maxNesting).map
          (Tree.builder source options.maxNesting).expr = none := by
        rw [Markup.wholeExpression?_of_no_dollar hs, Option.map_none]
      rw [Document.render_ofSegments hh cut parsed he env context store (.inl hb),
        cut.audible_of_texts texts, String.ofList_toList]

/-- A quiet reference with a call, a list with a reference inside it, and a formal one. -/
theorem render_echoes_mixed :
    let source := "x$!a.b(')', [$c]) $c $!\x7bd.e\x7d\\y"
    let env : Environment := ⟨.standard, .none, .none⟩
    (∃ d pieces, Document.compile .standard source = .ok d ∧ Lexer.Cut source pieces ∧
      (d.render env .empty .empty).result = .ok (String.ofList (Lexer.audible .start pieces)) ∧
      String.ofList (Lexer.audible .start pieces) = "x $c \\y") ∧
    ∃ d, Document.compile .standard "a\\b" = .ok d ∧
      ∀ env context store, (d.render env context store).result = .ok "a\\b" := by
  intro source env
  have found : ((Document.compile .standard source).map fun d =>
      (d.expression.isNone, (d.render env .empty .empty).result.toOption)).toOption =
        some (true, some "x $c \\y") := by decide +kernel
  obtain ⟨d, hd, same⟩ := Document.exists_of_measure _ found
  obtain ⟨he, text⟩ := Prod.mk.inj same
  obtain ⟨⟨pieces, cut⟩, printed⟩ := (render_echoes .standard source (by decide)).1 d hd
    (Option.isNone_iff_eq_none.1 he)
  have result := printed pieces cut env .empty
  refine ⟨⟨d, pieces, hd, cut, result, ?_⟩,
    (render_echoes .standard "a\\b" (by decide)).2 (by decide)⟩
  rw [result] at text
  exact Option.some.inj text

end Template
