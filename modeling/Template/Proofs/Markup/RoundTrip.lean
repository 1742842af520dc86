import Template.Proofs.Markup.SegmentComplete

/-!
Parsing and writing undo each other. What is parsed writes its tokens again, and what is written is
parsed again, as long as it is not nested too deeply. Markup forgets one thing that is not blank:
whether the variable that is assigned has a quiet mark.
-/

namespace Template.Markup

open Grammar

variable {source : String} {lexemes : List Lexeme} {limit : Nat} {body : List Segment}

theorem parseSegments_eq_ok (h : parseSegments source lexemes limit = .ok body) :
    ∃ next missed, template ⟨0, 0, lexemes⟩ = .success body next missed := by
  unfold parseSegments Parser.parse at h
  cases hn : Nesting.check source limit lexemes with
  | error e => rw [hn] at h; cases h
  | ok =>
      rw [hn] at h
      cases ht : template ⟨0, 0, lexemes⟩ with
      | success a next missed =>
          rw [ht] at h
          cases h
          exact ⟨next, missed, rfl⟩
      | failure e => rw [ht] at h; cases h

theorem parseSegments_of_success (hn : Nesting.check source limit lexemes = .ok ()) {next : Cursor}
    {missed : Option Failure} (h : template ⟨0, 0, lexemes⟩ = .success body next missed) :
    parseSegments source lexemes limit = .ok body := by
  simp only [parseSegments, Parser.parse]
  rw [hn, h]
  rfl

/-- The tokens of markup are parsed to the markup, wherever they are. -/
theorem exists_parseSegments (hb : BodyShaped body) (ht : lexemes.map Prod.fst = bodyTokens body)
    (hn : Nesting.check source limit lexemes = .ok ()) :
    ∃ found, parseSegments source lexemes limit = .ok found ∧
      unplacedBody found = unplacedBody body := by
  have tokens : (Cursor.mk 0 0 lexemes).tokens = bodyTokens body := ht
  obtain ⟨found, next, missed, h, -, he⟩ := (template_gives hb).given tokens
  exact ⟨found, parseSegments_of_success hn h, he⟩

theorem parseSegments_round_trip (source : String) (limit : Nat) :
    (∀ lexemes body, parseSegments source lexemes limit = .ok body →
      Fits (layoutBody body) lexemes ∧ BodyShaped body) ∧
    ∀ lexemes body, BodyShaped body → lexemes.map Prod.fst = bodyTokens body →
      Nesting.check source limit lexemes = .ok () →
      ∃ found, parseSegments source lexemes limit = .ok found ∧
        unplacedBody found = unplacedBody body := by
  refine ⟨fun lexemes body h => ?_, fun lexemes body hb ht hn => ?_⟩
  · obtain ⟨next, missed, h⟩ := parseSegments_eq_ok h
    exact template_takes h
  · have tokens : (Cursor.mk 0 0 lexemes).tokens = bodyTokens body := ht
    obtain ⟨found, next, missed, h, -, he⟩ := (template_gives hb).given tokens
    exact ⟨found, parseSegments_of_success hn h, he⟩

/-- A macro call with two arguments, and text behind it. -/
theorem parseSegments_round_trip_call :
    let lexemes : List Lexeme :=
      [(.macroCall "m", ⟨0, 2⟩), (.symbol .openParen, ⟨2, 3⟩), (.number "1", ⟨3, 4⟩),
        (.symbol .comma, ⟨4, 5⟩), (.symbol .minus, ⟨6, 7⟩), (.number "2", ⟨7, 8⟩),
        (.symbol .closeParen, ⟨8, 9⟩), (.text "x", ⟨9, 10⟩)]
    let body : List Segment :=
      [.macroCall "m" (some [.primary (.literal (.number "1") default),
        .unary [.negate] (.primary (.literal (.number "2") default)) default]) default,
        .text "x" default]
    tokenize "#m(1, -2)x" = .ok lexemes ∧
      ∃ found, parseSegments "#m(1, -2)x" lexemes 64 = .ok found ∧
        unplacedBody found = unplacedBody body ∧ Fits (layoutBody found) lexemes := by
  intro lexemes body
  have shaped : BodyShaped body := by
    refine ⟨List.forall_mem_cons.2 ⟨.macroCall ?_, by simp [Segment.Shaped.text]⟩, ?_⟩
    · intro _ ht
      cases ht
      refine List.forall_mem_cons.2 ⟨.primary .literal, List.forall_mem_cons.2 ⟨?_, nofun⟩⟩
      exact .unary (List.cons_ne_nil _ _) (Nat.le_refl _) (.primary .literal)
    · simp [body, Segment.MayPrecede, Segment.isText]
  obtain ⟨found, h, he⟩ := (parseSegments_round_trip "#m(1, -2)x" 64).2 lexemes body shaped rfl
    (by cbv)
  exact ⟨by decide +kernel, found, h, he,
    ((parseSegments_round_trip "#m(1, -2)x" 64).1 lexemes found h).1⟩

/-- The tokens of a template cannot be told from its markup, not even where there is no text to cut
into pieces and no comma to leave out: an assignment forgets the quiet mark of its variable. -/
theorem tokens_not_spelled : ¬∃ write : List Segment → List Token, ∀ source lexemes body,
    tokenize source = .ok lexemes → parseSegments source lexemes 64 = .ok body →
      (∀ l ∈ lexemes, l.1.isText = false ∧ l.1 ≠ .symbol .comma) →
      write body = lexemes.map Prod.fst := by
  rintro ⟨write, h⟩
  let lexemes (quiet : Bool) (start : Nat) : List Lexeme :=
    [(.directive .assign, ⟨0, 4⟩), (.symbol .openParen, ⟨4, 5⟩),
      (.reference "x" quiet, ⟨start, 8⟩), (.symbol .assign, ⟨9, 10⟩), (.number "1", ⟨11, 12⟩),
      (.symbol .closeParen, ⟨12, 13⟩)]
  let body : List Segment :=
    [.assign "x" [] (.primary (.literal (.number "1") ⟨11, 12⟩)) ⟨0, 13⟩]
  have marked : write body = (lexemes true 5).map Prod.fst :=
    h "#set($!x = 1)" (lexemes true 5) body (by decide +kernel) (by cbv) (by decide)
  have plain : write body = (lexemes false 6).map Prod.fst :=
    h "#set( $x = 1)" (lexemes false 6) body (by decide +kernel) (by cbv) (by decide)
  have same : (lexemes true 5).map Prod.fst = (lexemes false 6).map Prod.fst :=
    marked.symm.trans plain
  exact absurd same (by decide)

end Template.Markup
