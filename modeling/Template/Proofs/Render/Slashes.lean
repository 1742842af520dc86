import Template.Proofs.Markup.LeadingText
import Template.Proofs.Render.Echo

/-!
Backslashes in front of a directive word, from the source to what is printed. They are told at the
front of a template, where the text before them is printed as it stands.
-/

namespace Template

open Lexer (Reads)

/-- The directive word that a node comes from. -/
def Tree.Node.keyword? : Tree.Node → Option Keyword
  | .conditional .. => some .ifThen
  | .assign .. => some .assign
  | .loop .. => some .forEach
  | .leave .. => some .leave
  | .stop .. => some .stop
  | .define .. => some .define
  | .evaluate .. => some .evaluate
  | .parse .. => some .parse
  | .embed .. => some .embed
  | .text .. | .interpolation .. | .macroCall .. => none

namespace Markup

theorem Segment.keyword?_skeleton (s : Segment) : s.skeleton.keyword? = s.keyword? := by
  cases s <;> rfl

theorem Segment.Shaped.keyword?_of_head {s : Segment} (hs : s.Shaped) {k : Keyword} {l : Lexeme}
    {ls : List Lexeme} (hf : Fits [s.layout] (l :: ls)) (hl : l.1 = .directive k) :
    s.keyword? = some k := by
  rcases hs.begins with text | ⟨t, begins, -, word⟩
  · obtain ⟨_, ⟨⟩, found⟩ := Grammar.isText_head hf text
    rw [hl] at found
    cases found
  · exact word k ((begins.head hf).symm.trans hl)

end Markup

theorem Tree.Builder.segment_of_keyword? (b : Tree.Builder) {s : Markup.Segment} {k : Keyword}
    (h : s.keyword? = some k) : ∃ node, b.segment s = [node] ∧ node.keyword? = some k := by
  cases s <;> cases h <;> exact ⟨_, rfl, rfl⟩

/-- A directive word in front of segments is told by the first of their nodes. The segments may have
been gobbled since. -/
theorem Tree.Builder.exists_node_of_directive (b : Tree.Builder) {body body' : List Markup.Segment}
    {l : Lexeme} {ls : List Lexeme} {k : Keyword} (hb : ∀ s ∈ body, s.Shaped)
    (hf : Markup.Fits (Markup.layoutBody body) (l :: ls)) (hl : l.1 = .directive k)
    (bones : Markup.skeleton body' = Markup.skeleton body) :
    ∃ node behind, b.segments body' = node :: behind ∧ node.keyword? = some k := by
  cases body with
  | nil => cases hf
  | cons s body =>
      obtain ⟨_, _, -, first, -⟩ := hf.exists_head
      have word := (hb s (List.mem_cons_self ..)).keyword?_of_head first hl
      cases body' with
      | nil => cases bones
      | cons s' body' =>
          have same : s'.skeleton = s.skeleton := (List.cons.inj bones).1
          rw [← s.keyword?_skeleton, ← same, s'.keyword?_skeleton] at word
          obtain ⟨node, made, named⟩ := b.segment_of_keyword? word
          exact ⟨node, b.segments body', by rw [Tree.Builder.segments, made]; rfl, named⟩

theorem Lexer.Reads.exists_lexemes {source : String} {ts : List Token} {next : Lexer.Mode}
    {rest : List Char} (h : Reads .text source.toList ts next rest) {lexemes : List Lexeme}
    (tokens : Template.tokenize source = .ok lexemes) :
    ∃ front back, lexemes = front ++ back ∧ front.map Prod.fst = ts := by
  obtain ⟨front, stop, read, run⟩ := h 0
  rw [Template.tokenize, run] at tokens
  cases behind : Lexer.run next stop rest with
  | error e =>
      rw [behind] at tokens
      cases tokens
  | ok back =>
      rw [behind] at tokens
      cases tokens
      exact ⟨front, back, rfl, read⟩

theorem Rendered.text_absorbLeave (r : Rendered) : r.absorbLeave.text = r.text := by
  unfold absorbLeave
  split <;> rfl

namespace Rendering

/-- Text is printed in front of what the nodes behind it print. -/
theorem renderNodes_text (env : Environment) (deeper : Frame → Rendering Unit Rendered)
    (content : String) (place : Region) (nodes : List Tree.Node) (s : State) :
    (renderNodes env.unobserved deeper (.text content place :: nodes) s ()).1.1 =
      (renderNodes env.unobserved deeper nodes s ()).1.1.map fun r =>
        { r with text := content ++ r.text } := by
  simp only [renderNodes, andThen, visit, renderNode, print, bind_run, report, pure_run,
    Rendered.ofText]
  obtain ⟨⟨r, t⟩, ⟨⟩⟩ := renderNodes env.unobserved deeper nodes s ()
  cases r <;> rfl

end Rendering

namespace Document

variable {options : Options} {source : String} {d : Document}

theorem compile_leading_text (hd : compile options source = .ok d) {front tail : List Token}
    {next : Lexer.Mode} {rest cs : List Char} {c : Char}
    (reads : Reads .text source.toList (front ++ tail) next rest) (hn : front ≠ [])
    (texts : ∀ t ∈ front, t.isText)
    (said : String.join (front.filterMap Token.literalText?) = String.ofList (cs ++ [c]))
    (hc : (Markup.Item.char c).isSpacing = false) :
    ∃ more place nodes, d.nodes = .text (String.ofList (cs ++ c :: more)) place :: nodes ∧
      ∀ k, tail = [.directive k] →
        more = [] ∧ ∃ node behind, nodes = node :: behind ∧ node.keyword? = some k := by
  obtain ⟨lexemes, body, tokens, parsed, rfl⟩ := compile_eq_ok hd
  obtain ⟨la, lb, rfl, read⟩ := Lexer.Reads.exists_lexemes reads tokens
  obtain ⟨fits, shaped⟩ := (Markup.parseSegments_round_trip source options.maxNesting).1 _ _ parsed
  obtain ⟨lf, lt, rfl, rfl, behind⟩ := List.map_eq_append_iff.1 read
  have some : lf ≠ [] := by simpa using hn
  rw [List.append_assoc] at fits
  obtain ⟨more, span, others, rfl, ended⟩ := Markup.exists_leading_text shaped some
    (fun l hl => texts l.1 (List.mem_map_of_mem hl)) fits
  have content : Lexeme.literalText lf ++ more = String.ofList (cs ++ c :: more.toList) := by
    rw [List.filterMap_map] at said
    have front : Lexeme.literalText lf = String.ofList (cs ++ [c]) := said
    rw [front, ← String.toList_inj]
    simp
  obtain ⟨more', others', gobbled, bones, none⟩ :=
    Markup.gobble_leading_text options.gobbling cs hc more.toList span others
  have visible : (String.ofList (cs ++ c :: more')).isEmpty = false := by
    simp [← String.toList_eq_nil_iff]
  let b := Tree.builder source options.maxNesting
  refine ⟨more', b.region span, b.segments others', ?_, ?_⟩
  · rw [content, gobbled, ofSegments, Tree.Builder.segments, Tree.Builder.segment,
      Tree.Builder.textNode, visible]
    rfl
  · rintro k rfl
    obtain ⟨l, rfl, word⟩ := List.map_eq_singleton_iff.1 behind
    obtain ⟨rfl, later⟩ := ended (by simp [word, Token.isText])
    refine ⟨none rfl, ?_⟩
    exact b.exists_node_of_directive (fun s hs => shaped.segments s (List.mem_cons_of_mem _ hs))
      later word bones

/-- What is printed begins with the text at the front. -/
theorem render_leading_text {content : String} {place : Region} {nodes : List Tree.Node}
    (hd : d.nodes = .text content place :: nodes) (he : d.expression = none) (env : Environment)
    (context : Context) (store : Store) {text : String}
    (h : (d.render env context store).result = .ok text) : ∃ more, text = content ++ more := by
  obtain ⟨_, _⟩ := d
  subst hd he
  let deeper := Rendering.renderFrame env.unobserved
    (env.options.maxCallDepth + env.options.maxParseDepth)
  let start := State.initial env.options (context.globalScope store).1 (context.globalScope store).2
  let s := start.define (Tree.nodeDefinitions (.text content place :: nodes))
  have whole : ((Rendering.renderDocument env.unobserved deeper
      ⟨.text content place :: nodes, none⟩ start ()).1.1).map Rendered.text = .ok text := h
  have first := Rendering.renderNodes_text env deeper content place nodes s
  rw [Rendering.renderDocument_of_none, Rendering.bind_run] at whole
  generalize Rendering.renderNodes env.unobserved deeper (.text content place :: nodes) s () = out
    at whole first
  obtain ⟨⟨r, t⟩, ⟨⟩⟩ := out
  cases r with
  | error e => cases whole
  | ok r =>
      cases whole
      generalize (Rendering.renderNodes env.unobserved deeper nodes s ()).1.1 = r' at first
      cases r' with
      | error e => cases first
      | ok r' =>
          cases first
          exact ⟨r'.text, Rendered.text_absorbLeave _⟩

theorem expression_ofSegments {source : String} (hs : source.toList.head? ≠ some '$') (limit : Nat)
    (segments : List Markup.Segment) : (ofSegments limit source segments).expression = none := by
  have none : Markup.wholeExpression? source limit = none := if_pos (by simp [hs])
  rw [ofSegments, none, Option.map_none]

/-- Where all tokens are text, what they say is printed. -/
theorem exists_compile_of_texts {ts : List Token} {next : Lexer.Mode}
    (reads : Reads .text source.toList ts next []) (texts : ∀ t ∈ ts, t.isText) (hn : ts ≠ [])
    (hs : source.toList.head? ≠ some '$') (options : Options) :
    ∃ d, compile options source = .ok d ∧ ∀ env context store,
      (d.render env context store).result =
        .ok (String.join (ts.filterMap Token.literalText?)) := by
  obtain ⟨lexemes, tokens, rfl⟩ := reads.tokenize
  have checked : Nesting.check source options.maxNesting lexemes = .ok () := by
    rw [Nesting.check_eq_ok_iff, Nesting.deepest_of_flat]
    · exact Nat.zero_le _
    · intro t ht
      have text := texts t ht
      cases t <;> first | rfl | cases text
  obtain ⟨body, _, _, found, -, -⟩ :=
    (Markup.Grammar.template_gives_texts texts).given (c := ⟨0, 0, lexemes⟩) rfl
  have parsed := Markup.parseSegments_of_success checked found
  obtain ⟨fits, shaped⟩ := (Markup.parseSegments_round_trip source options.maxNesting).1 _ _ parsed
  have filled : lexemes ≠ [] := by simpa using hn
  have fits : Markup.Fits (Markup.layoutBody body) (lexemes ++ []) := by simpa using fits
  obtain ⟨more, span, others, rfl, ended⟩ := Markup.exists_leading_text shaped filled
    (fun l hl => texts l.1 (List.mem_map_of_mem hl)) fits
  obtain ⟨rfl, behind⟩ := ended nofun
  obtain rfl : others = [] := by
    cases others with
    | nil => rfl
    | cons s others =>
        obtain ⟨_, _, part⟩ := s.layout_eq_part
        rw [Markup.layoutBody, part] at behind
        exact absurd rfl behind.part_ne_nil
  let text : Markup.Segment := .text (Lexeme.literalText lexemes ++ "") span
  have plain : ∀ s ∈ [text], s.Plain := List.forall_mem_singleton.2
    ⟨.text _ _, .text, List.forall_mem_singleton.2 trivial⟩
  refine ⟨ofSegments options.maxNesting source (Markup.gobble options.gobbling [text]), ?_,
    fun env context store => ?_⟩
  · simp only [compile, segments, tokens, parsed]
    rfl
  · rw [Markup.gobble_of_inline _ fun s hs => (plain s hs).inline, List.filterMap_map]
    rw [run_of_gives (P := fun _ => True) (expression_ofSegments hs _ _) trivial
      (.segments plain (List.forall_mem_singleton.2 (.inl rfl)))]
    change Except.ok (String.ofList ([text].flatMap _)) = .ok (Lexeme.literalText lexemes)
    simp only [text, List.flatMap_singleton, Markup.Segment.echo, String.ofList_toList,
      String.append_empty]

end Document

namespace Lexer

/-- What the backslashes and the word stand for does not end with a blank. -/
theorem exists_last_of_slashedText {n : Nat} (hn : 1 ≤ n) (k : Keyword) :
    ∃ cs c, slashedText n k = cs ++ [c] ∧ (Markup.Item.char c).isSpacing = false := by
  unfold slashedText
  split
  · obtain ⟨cs, c, word, hc⟩ : ∃ cs c, '#' :: k.word.toList = cs ++ [c] ∧
        (Markup.Item.char c).isSpacing = false := by
      refine ⟨('#' :: k.word.toList).dropLast, ('#' :: k.word.toList).getLast (by simp),
        (List.dropLast_append_getLast _).symm, ?_⟩
      cases k <;> rfl
    exact ⟨List.replicate (n / 2) '\\' ++ cs, c, by rw [word, List.append_assoc], hc⟩
  · obtain ⟨more, rfl⟩ : ∃ more, n = more + 1 := ⟨n - 1, by omega⟩
    exact ⟨List.replicate more '\\', '\\', List.replicate_succ', rfl⟩

/-- The first token is the text; a directive behind it is told by the number of backslashes. -/
theorem exists_slashedTokens (n : Nat) (k : Keyword) : ∃ t tail, slashedTokens n k = t :: tail ∧
    t.isText ∧ t.literalText? = some (String.ofList (slashedText n k)) ∧
    (n % 2 = 1 → tail = [] ∧ afterSlashed n k = .text) ∧ (n % 2 = 0 → tail = [.directive k]) := by
  unfold slashedTokens afterSlashed
  split
  next odd => exact ⟨_, _, rfl, rfl, rfl, fun _ => ⟨rfl, rfl⟩, fun even => by omega⟩
  next even => exact ⟨_, _, rfl, rfl, rfl, fun odd => absurd odd even, fun _ => rfl⟩

end Lexer

open Lexer (EndsName slashedText slashedTokens afterSlashed)

section Slashes

variable {n : Nat} {before rest : List Char}

/-- Text, backslashes and the word, as they are read: texts that say what stands for them, and the
directive if it is one. -/
theorem exists_reads_slashes (hn : 1 ≤ n) (k : Keyword) (hr : EndsName rest) (hash : '#' ∉ before)
    (dollar : '$' ∉ before) (last : before.getLast? ≠ some '\\') :
    ∃ front tail,
      Reads .text (before ++ (List.replicate n '\\' ++ '#' :: (k.word.toList ++ rest)))
        (front ++ tail) (afterSlashed n k) rest ∧
      front ≠ [] ∧ (∀ t ∈ front, t.isText) ∧
      String.join (front.filterMap Token.literalText?) =
        String.ofList (before ++ slashedText n k) ∧
      (n % 2 = 1 → tail = [] ∧ afterSlashed n k = .text) ∧ (n % 2 = 0 → tail = [.directive k]) := by
  have literal : Lexer.Literal before
      (List.replicate n '\\' ++ '#' :: (k.word.toList ++ rest)) := by
    refine ⟨hash, dollar, .inr ⟨?_, last⟩⟩
    obtain ⟨more, rfl⟩ : ∃ more, n = more + 1 := ⟨n - 1, by omega⟩
    rfl
  obtain ⟨ts, first, texts, said⟩ := Lexer.reads_literal literal
  obtain ⟨t, tail, tokens, ht, content, odd, even⟩ := Lexer.exists_slashedTokens n k
  have text : Lexer.Mode.text.ReadsText := trivial
  have second := Lexer.reads_slashes text hn k hr
  refine ⟨ts ++ [t], tail, ?_, by simp, ?_, ?_, odd, even⟩
  · rw [List.append_assoc, List.singleton_append, ← tokens]
    exact first.trans second
  · exact List.forall_mem_append.2 ⟨texts, List.forall_mem_singleton.2 ht⟩
  · rw [List.filterMap_append, String.join_append, said, List.filterMap_cons_some content]
    simp

theorem head?_slashes (hn : 1 ≤ n) (dollar : '$' ∉ before) (more : List Char) :
    (String.ofList (before ++ (List.replicate n '\\' ++ more))).toList.head? ≠ some '$' := by
  rw [String.toList_ofList]
  cases before with
  | nil =>
      obtain ⟨less, rfl⟩ : ∃ less, n = less + 1 := ⟨n - 1, by omega⟩
      simp [List.replicate_succ]
  | cons c before =>
      rintro ⟨⟩
      exact dollar (List.mem_cons_self ..)

namespace Document

variable {options : Options} {d : Document}

/-- The first node is a text that begins with what stands for the backslashes and the word. It is
nothing else if the word is a directive, and then the second node is that directive's. -/
theorem compile_slashes (hn : 1 ≤ n) {k : Keyword} (hr : EndsName rest) (hash : '#' ∉ before)
    (dollar : '$' ∉ before) (last : before.getLast? ≠ some '\\')
    (hd : compile options (String.ofList
      (before ++ (List.replicate n '\\' ++ '#' :: (k.word.toList ++ rest)))) = .ok d) :
    ∃ more place nodes,
      d.nodes = .text (String.ofList (before ++ slashedText n k ++ more)) place :: nodes ∧
      (n % 2 = 0 →
        more = [] ∧ ∃ node behind, nodes = node :: behind ∧ node.keyword? = some k) := by
  obtain ⟨front, tail, reads, some, texts, said, -, even⟩ :=
    exists_reads_slashes hn k hr hash dollar last
  obtain ⟨cs, c, split, hc⟩ := Lexer.exists_last_of_slashedText hn k
  have ends : before ++ slashedText n k = (before ++ cs) ++ [c] := by
    rw [List.append_assoc, ← split]
  rw [← String.toList_ofList (l := before ++ _)] at reads
  obtain ⟨more, place, nodes, found, directive⟩ :=
    compile_leading_text hd reads some texts (said.trans (by rw [ends])) hc
  refine ⟨more, place, nodes, ?_, fun number => directive k (even number)⟩
  rw [found, ends, List.append_assoc (before ++ cs), List.singleton_append]

/-- An odd number of backslashes: all is text, in which half of them are left. -/
theorem exists_compile_of_odd_slashes (odd : n % 2 = 1) {k : Keyword} (hr : EndsName rest)
    (hash : '#' ∉ before) (dollar : '$' ∉ before) (last : before.getLast? ≠ some '\\')
    (hash' : '#' ∉ rest) (dollar' : '$' ∉ rest) (options : Options) :
    ∃ d, compile options (String.ofList
        (before ++ (List.replicate n '\\' ++ '#' :: (k.word.toList ++ rest)))) = .ok d ∧
      ∀ env context store, (d.render env context store).result =
        .ok (String.ofList (before ++ slashedText n k ++ rest)) := by
  have hn : 1 ≤ n := by omega
  obtain ⟨front, tail, reads, some, texts, said, number, -⟩ :=
    exists_reads_slashes hn k hr hash dollar last
  obtain ⟨rfl, after⟩ := number odd
  have literal : Lexer.Literal rest [] := ⟨hash', dollar', .inl rfl⟩
  obtain ⟨us, behind, texts', said'⟩ := Lexer.reads_literal literal
  rw [List.append_nil, ← String.toList_ofList (l := before ++ _)] at reads
  rw [List.append_nil, ← after] at behind
  obtain ⟨d, hd, rendered⟩ := exists_compile_of_texts (reads.trans behind)
    (List.forall_mem_append.2 ⟨texts, texts'⟩) (by simp [some]) (head?_slashes hn dollar _) options
  refine ⟨d, hd, fun env context store => ?_⟩
  rw [rendered, List.filterMap_append, String.join_append, said, said', ← String.ofList_append]

/-- An even number of them: they are all text, and the word is a directive. -/
theorem compile_of_even_slashes (even : n % 2 = 0) (hn : 1 ≤ n) {k : Keyword} (hr : EndsName rest)
    (hash : '#' ∉ before) (dollar : '$' ∉ before) (last : before.getLast? ≠ some '\\')
    (hd : compile options (String.ofList
      (before ++ (List.replicate n '\\' ++ '#' :: (k.word.toList ++ rest)))) = .ok d) :
    ∃ place node behind,
      d.nodes = .text (String.ofList (before ++ List.replicate n '\\')) place :: node :: behind ∧
      node.keyword? = some k := by
  obtain ⟨more, place, nodes, found, directive⟩ := compile_slashes hn hr hash dollar last hd
  obtain ⟨rfl, node, behind, rfl, word⟩ := directive even
  have all : slashedText n k = List.replicate n '\\' := if_neg (by omega)
  refine ⟨place, node, behind, ?_, word⟩
  rw [found, all, List.append_nil]

end Document

end Slashes

/-- Backslashes directly in front of a directive word. An odd number `n` of them makes the word
text, and leaves `n / 2` in front of it. Where `n` is even the word is a directive, and all of them
are text. -/
theorem render_backslashes (n : Nat) (hn : 1 ≤ n) (k : Keyword) (rest : List Char)
    (hr : EndsName rest) :
    let run := List.replicate n '\\' ++ '#' :: (k.word.toList ++ rest)
    (∀ mode : Lexer.Mode, mode.ReadsText →
      Reads mode run (slashedTokens n k) (afterSlashed n k) rest) ∧
    ∀ before : List Char, '#' ∉ before → '$' ∉ before → before.getLast? ≠ some '\\' → ∀ options,
      let source := String.ofList (before ++ run)
      let printed := before ++ slashedText n k
      (∀ d, Document.compile options source = .ok d →
        d.expression = none ∧
        (∃ more place nodes, d.nodes = .text (String.ofList (printed ++ more)) place :: nodes ∧
          (n % 2 = 0 →
            more = [] ∧ ∃ node behind, nodes = node :: behind ∧ node.keyword? = some k)) ∧
        ∀ env context store text, (d.render env context store).result = .ok text →
          ∃ more, text = String.ofList (printed ++ more)) ∧
      (n % 2 = 1 → '#' ∉ rest → '$' ∉ rest → ∃ d, Document.compile options source = .ok d ∧
        ∀ env context store,
          (d.render env context store).result = .ok (String.ofList (printed ++ rest))) := by
  intro run
  refine ⟨fun mode hm => Lexer.reads_slashes hm hn k hr, fun before hash dollar last options => ?_⟩
  intro source printed
  refine ⟨fun d hd => ?_, fun odd hash' dollar' =>
    Document.exists_compile_of_odd_slashes odd hr hash dollar last hash' dollar' options⟩
  have node : ∃ more place nodes, d.nodes = .text (String.ofList (printed ++ more)) place :: nodes ∧
      (n % 2 = 0 →
        more = [] ∧ ∃ node behind, nodes = node :: behind ∧ node.keyword? = some k) := by
    rcases Nat.mod_two_eq_zero_or_one n with even | odd
    · obtain ⟨place, node, behind, found, word⟩ :=
        Document.compile_of_even_slashes even hn hr hash dollar last hd
      have all : slashedText n k = List.replicate n '\\' := if_neg (by omega)
      refine ⟨[], place, node :: behind, ?_, fun _ => ⟨rfl, node, behind, rfl, word⟩⟩
      rw [found, ← all, List.append_nil]
    · obtain ⟨more, place, nodes, found, -⟩ := Document.compile_slashes hn hr hash dollar last hd
      exact ⟨more, place, nodes, found, fun even => by omega⟩
  have none : d.expression = none := by
    obtain ⟨_, _, -, -, rfl⟩ := Document.compile_eq_ok hd
    exact Document.expression_ofSegments (head?_slashes hn dollar _) _ _
  refine ⟨none, node, fun env context store text rendered => ?_⟩
  obtain ⟨more, place, nodes, found, -⟩ := node
  obtain ⟨behind, rfl⟩ := Document.render_leading_text found none env context store rendered
  refine ⟨more ++ behind.toList, ?_⟩
  rw [← String.toList_inj]
  simp [printed]

/-- Two backslashes in front of a directive, and three in front of a word that is none any more. -/
theorem render_backslashes_two_three :
    (∃ d place node behind, Document.compile .standard "a\\\\#stop" = .ok d ∧
      d.nodes = .text "a\\\\" place :: node :: behind ∧ node.keyword? = some .stop) ∧
    ∃ d, Document.compile .standard "a\\\\\\#if b" = .ok d ∧
      ∀ env context store, (d.render env context store).result = .ok "a\\#if b" := by
  have compiled :
      ((Document.compile .standard "a\\\\#stop").map fun _ => ()).toOption = some () := by
    decide +kernel
  obtain ⟨d, hd, -⟩ := Document.exists_of_measure _ compiled
  have two := (render_backslashes 2 (by decide) .stop [] nofun).2 ['a'] (by decide) (by decide)
    (by decide) .standard
  have three := (render_backslashes 3 (by decide) .ifThen [' ', 'b'] (by rintro _ ⟨⟩; rfl)).2 ['a']
    (by decide) (by decide) (by decide) .standard
  obtain ⟨more, place, nodes, found, directive⟩ := (two.1 d hd).2.1
  obtain ⟨rfl, node, behind, rfl, word⟩ := directive rfl
  exact ⟨⟨d, place, node, behind, hd, found, word⟩, three.2 rfl (by decide) (by decide)⟩

/-- An even run is not halved: two backslashes in front of a directive are printed as two. -/
theorem render_keeps_even_backslashes :
    let env : Environment := ⟨.standard, .none, .none⟩
    let printed := (Document.compile .standard "\\\\#stop").map fun d =>
      (d.render env .empty .empty).result.toOption
    printed.toOption = some (some "\\\\") ∧
      printed.toOption ≠ some (some (String.ofList (List.replicate (2 / 2) '\\'))) := by
  decide +kernel

end Template
