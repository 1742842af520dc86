import Template.Proofs.Markup.SegmentForetold
import Template.Proofs.Token.Nesting

/-!
Syntax errors tell the truth. An error stands at a token or at the end of the input. If it expects the
end, then the tokens in front are a template; and each token that it expects could stand there: what is
wrong then, if anything, is only what follows.
-/

namespace Template.Markup

open Grammar

/-- The error reports the token with the number `k`, or the end of the input if there is none. -/
structure Reports (source : String) (tokens : List Lexeme) (k : Nat) (error : SyntaxError) :
    Prop where
  fault : error.fault = .unexpected
  found : error.found = tokens[k]?.map Prod.fst
  span : error.span =
    (tokens[k]?.map Prod.snd).getD ⟨source.utf8ByteSize, source.utf8ByteSize⟩
  position : error.position = (LineTable.ofSource source).position error.span.start

/-- The tokens parse wherever they may be nested as deep as they are. -/
def Parses (tokens : List Lexeme) : Prop :=
  ∀ source limit, Nesting.check source limit tokens = .ok () →
    ∃ body, parseSegments source tokens limit = .ok body

/-- Wherever the tokens may be nested as deep as they are, they parse or fail behind the last one. -/
def ParsesSoFar (tokens : List Lexeme) : Prop :=
  ∀ source limit, Nesting.check source limit tokens = .ok () →
    ∀ error, parseSegments source tokens limit = .error error →
      Reports source tokens tokens.length error

variable {source : String} {tokens : List Lexeme} {limit k : Nat}

theorem Failure.reports_toError (source : String) (tokens : List Lexeme) (f : Failure) :
    Reports source tokens f.index (f.toError source tokens) :=
  ⟨rfl, rfl, rfl, rfl⟩

theorem Failure.mem_expected_toError {f : Failure} {spelling : String} :
    spelling ∈ (f.toError source tokens).expected ↔ ∃ w ∈ f.expected, w.describe = spelling := by
  simp [Failure.toError, Failure.sortedTexts]

theorem parseSegments_eq (hn : Nesting.check source limit tokens = .ok ()) :
    parseSegments source tokens limit = match template ⟨0, 0, tokens⟩ with
      | .success body _ _ => .ok body
      | .failure f => .error (f.toError source tokens) := by
  simp only [parseSegments, Parser.parse]
  rw [hn]
  cases template ⟨0, 0, tokens⟩ <;> rfl

/-- The failure of a template whose segments end in front of a token. -/
def unended (next : Cursor) (missed : Option Failure) : Failure :=
  (Failure.merge (some ⟨next.index, [.endOfInput], .nobody⟩) missed).getD
    ⟨next.index, [.endOfInput], .nobody⟩

/-- What segments a token list starts with, if any, can always be told. -/
theorem exists_bodyWithin (tokens : List Lexeme) : ∃ body next missed,
    bodyWithin (tokens.length + 1) ⟨0, 0, tokens⟩ = .success body next missed := by
  cases hb : bodyWithin (tokens.length + 1) ⟨0, 0, tokens⟩ with
  | success body next missed => exact ⟨body, next, missed, rfl⟩
  | failure e => exact absurd hb (Parser.many_ne_failure _ _ e)

section Run

variable {body : List Segment} {next : Cursor} {missed : Option Failure}
  (hb : bodyWithin (tokens.length + 1) ⟨0, 0, tokens⟩ = .success body next missed)

include hb

theorem template_of_ended (hr : next.rest = []) :
    ∃ missed', template ⟨0, 0, tokens⟩ = .success body next missed' := by
  have tail : (do Parser.endOfInput; return body : Parser (List Segment)) next =
      .success body next none := by
    change Parser.bind Parser.endOfInput (fun _ => Parser.pure body) next = _
    simp only [Parser.bind, Parser.endOfInput, hr, Parser.pure, Failure.merge]
  refine ⟨Failure.merge missed none, ?_⟩
  change Parser.bind _ _ _ = _
  simp only [Parser.bind, hb, tail]

theorem template_of_unended (hr : next.rest ≠ []) :
    template ⟨0, 0, tokens⟩ = .failure (unended next missed) := by
  have tail : (do Parser.endOfInput; return body : Parser (List Segment)) next =
      .failure ⟨next.index, [.endOfInput], .nobody⟩ := by
    obtain ⟨l, rest, hr⟩ := List.exists_cons_of_ne_nil hr
    change Parser.bind Parser.endOfInput (fun _ => Parser.pure body) next = _
    simp only [Parser.bind, Parser.endOfInput, hr]
  change Parser.bind _ _ _ = _
  simp only [Parser.bind, hb, tail, unended]

theorem lt_index_unended : k < (unended next missed).index ↔
    (bodyWithin (tokens.length + 1) ⟨0, 0, tokens⟩).Past k := by
  rw [hb, Outcome.past_success]
  exact Failure.lt_index_failed

end Run

/-- No attempt gets past the end of the input. -/
theorem not_past_length (tokens : List Lexeme) :
    ¬(bodyWithin (tokens.length + 1) ⟨0, 0, tokens⟩).Past tokens.length := by
  obtain ⟨body, next, missed, hb⟩ := exists_bodyWithin tokens
  obtain ⟨ahead, given⟩ := (bodyWithin_forward _).success hb
  rw [hb, Outcome.past_success]
  rintro (h | ⟨e, he, h⟩)
  · have := ahead.total
    simp only at this
    omega
  · have := (given e he).stop
    simp only at this
    omega

/-- Tokens that are got past the last one parse so far. -/
theorem parsesSoFar_of_past (hk : tokens.length = k + 1)
    (h : (bodyWithin (tokens.length + 1) ⟨0, 0, tokens⟩).Past k) : ParsesSoFar tokens := by
  intro source limit hn error he
  obtain ⟨body, next, missed, hb⟩ := exists_bodyWithin tokens
  rw [parseSegments_eq hn] at he
  by_cases hr : next.rest = []
  · obtain ⟨_, ht⟩ := template_of_ended hb hr
    rw [ht] at he
    cases he
  · rw [template_of_unended hb hr] at he
    cases he
    have least := (lt_index_unended hb).2 h
    have most := mt (lt_index_unended hb).1 (not_past_length tokens)
    have last : (unended next missed).index = tokens.length := by omega
    exact last ▸ Failure.reports_toError source tokens _

/-- Tokens whose segments take them all parse. -/
theorem parses_of_ended {body : List Segment} {next : Cursor} {missed : Option Failure}
    (hb : bodyWithin (tokens.length + 1) ⟨0, 0, tokens⟩ = .success body next missed)
    (hr : next.rest = []) : Parses tokens := by
  intro source limit hn
  obtain ⟨_, ht⟩ := template_of_ended hb hr
  exact ⟨body, by rw [parseSegments_eq hn, ht]⟩

section Place

variable {body : List Segment} {next : Cursor} {missed : Option Failure}
  (hb : bodyWithin (tokens.length + 1) ⟨0, 0, tokens⟩ = .success body next missed)
  (hk : k ≤ tokens.length) (stuck : ¬(bodyWithin (tokens.length + 1) ⟨0, 0, tokens⟩).Past k)

include hk stuck

/-- The same tokens up to the place, and there what may be expected. -/
theorem agree_asked (w : Expectation) (span : Span) :
    Parser.Agree k w (tokens.drop k) (w.asked span)
      (bodyWithin (tokens.length + 1) ⟨0, 0, tokens⟩)
      (bodyWithin ((tokens.take k ++ w.asked span).length + 1)
        ⟨0, 0, tokens.take k ++ w.asked span⟩) := by
  have front : (tokens.take k).length = k := List.length_take_of_le hk
  have forks : Cursor.Forks k (tokens.drop k) (w.asked span) ⟨0, 0, tokens⟩
      ⟨0, 0, tokens.take k ++ w.asked span⟩ :=
    ⟨rfl, tokens.take k, (List.take_append_drop k tokens).symm, rfl, by simp only [front]; omega⟩
  have deep : k + 1 ≤ (tokens.take k ++ w.asked span).length + 1 := by
    rw [List.length_append, front]
    omega
  exact (bodyWithin_foretells (Nat.succ_le_succ hk) deep).agree forks (by simp only; omega) stuck

include hb

/-- What a failure given up at the place expects can follow the tokens in front. -/
theorem parsesSoFar_of_expected {t : Token} {e : Failure} (he : e ∈ missed) (hi : e.index = k)
    (ht : .token t ∈ e.expected) (span : Span) : ParsesSoFar (tokens.take k ++ [(t, span)]) := by
  have front : (tokens.take k ++ [(t, span)]).length = k + 1 := by
    rw [List.length_append, List.length_take_of_le hk, List.length_singleton]
  obtain ⟨body', next', missed', hb'⟩ := exists_bodyWithin (tokens.take k ++ [(t, span)])
  have agree := agree_asked hk stuck (.token t) span
  simp only [Expectation.asked] at agree
  refine parsesSoFar_of_past front ?_
  rw [hb, hb'] at agree
  rw [hb']
  cases agree with
  | past h => exact h
  | success _ denied => exact absurd ht (denied e he hi)

/-- If the segments end at the place, the tokens in front parse. -/
theorem parses_of_end (hi : next.index = k) : Parses (tokens.take k) := by
  have front : (tokens.take k).length = k := List.length_take_of_le hk
  obtain ⟨body', next', missed', hb'⟩ := exists_bodyWithin (tokens.take k)
  have agree := agree_asked hk stuck .endOfInput default
  simp only [Expectation.asked, List.append_nil] at agree
  have never := not_past_length (tokens.take k)
  rw [hb, hb'] at agree
  rw [hb', front] at never
  cases agree with
  | past h => exact absurd h never
  | success forks _ =>
      have total := ((bodyWithin_forward _).ahead hb').total
      have := forks.index
      simp only [front] at total
      exact parses_of_ended hb' (List.length_eq_zero_iff.1 (by omega))

end Place

/-- An error of the grammar reports a place. If it expects the end of the input there, the tokens in
front of the place parse. Everything else that it expects is the spelling of a token which could
follow them. -/
theorem parseSegments_expected {error : SyntaxError}
    (hn : Nesting.check source limit tokens = .ok ())
    (he : parseSegments source tokens limit = .error error) :
    ∃ k ≤ tokens.length, Reports source tokens k error ∧ ∀ spelling ∈ error.expected,
      (spelling = "end of input" → Parses (tokens.take k)) ∧
      (spelling ≠ "end of input" → (∃ t : Token, t.isFixed ∧ t.describe = spelling) ∧
        ∀ t : Token, t.isFixed → t.describe = spelling → ∀ span,
          ParsesSoFar (tokens.take k ++ [(t, span)])) := by
  obtain ⟨body, next, missed, hb⟩ := exists_bodyWithin tokens
  rw [parseSegments_eq hn] at he
  by_cases hr : next.rest = []
  · obtain ⟨_, ht⟩ := template_of_ended hb hr
    rw [ht] at he
    cases he
  rw [template_of_unended hb hr] at he
  cases he
  generalize hk : (unended next missed).index = k
  have stuck : ¬(bodyWithin (tokens.length + 1) ⟨0, 0, tokens⟩).Past k :=
    mt (lt_index_unended hb).2 (by omega)
  have most : k ≤ tokens.length := by
    have := mt (lt_index_unended hb).1 (not_past_length tokens)
    omega
  refine ⟨k, most, hk ▸ Failure.reports_toError source tokens _, fun spelling hs => ?_⟩
  obtain ⟨w, hw, rfl⟩ := Failure.mem_expected_toError.1 hs
  rcases Failure.mem_expected_failed hw with ⟨hw, hi⟩ | ⟨e, he, hw, hi⟩
  · cases List.mem_singleton.1 hw
    exact ⟨fun _ => parses_of_end hb most stuck (hi.trans hk), fun other => absurd rfl other⟩
  · obtain ⟨t, rfl, ht⟩ := (((bodyWithin_forward _).success hb).2 e he).fixed w hw
    refine ⟨fun ended => absurd ended (Token.describe_ne_endOfInput ht), fun _ => ⟨⟨t, ht, rfl⟩, ?_⟩⟩
    intro u hu same span
    cases Token.eq_of_describe_eq hu ht same
    exact parsesSoFar_of_expected hb most stuck he (hi.trans hk) hw span

/-- The end of a block that never began. What is expected in its place are, among others, the end of
the input, an assignment and the dot of a property: the reference in front is a template, and each of
the two may stand behind it. -/
theorem parseSegments_expected_strayEnd :
    let name : Lexeme := (.reference "a" false, ⟨0, 2⟩)
    let tokens := [name, (.directive .close, ⟨2, 6⟩)]
    tokenize "$a#end" = .ok tokens ∧ ∃ error, parseSegments "$a#end" tokens 64 = .error error ∧
      Reports "$a#end" tokens 1 error ∧
      "end of input" ∈ error.expected ∧ "#set" ∈ error.expected ∧ "." ∈ error.expected ∧
      Parses [name] ∧ ∀ span, ParsesSoFar [name, (.directive .assign, span)] ∧
        ParsesSoFar [name, (.symbol .dot, span)] := by
  intro name tokens
  let signs : List Token := [.symbol .dot, .symbol .openParen, .symbol .openBracket]
  let words : List Token :=
    [Keyword.ifThen, .assign, .forEach, .define, .evaluate, .parse, .embed, .leave, .stop].map
      .directive
  have hn : Nesting.check "$a#end" 64 tokens = .ok () :=
    (Nesting.check_eq_ok_iff _ _ _).2 (by decide)
  have ht : template ⟨0, 0, tokens⟩ =
      .failure ⟨1, .endOfInput :: (signs ++ words).map .token, .several⟩ := by cbv
  have he := parseSegments_eq hn
  rw [ht] at he
  obtain ⟨k, hk, reports, expected⟩ := parseSegments_expected hn he
  have second : k = 1 := by
    rcases k with _ | _ | _ | k
    · cases reports.found
    · rfl
    · cases reports.found
    · exact absurd hk (by simp [tokens])
  subst second
  set error := Failure.toError "$a#end" tokens
    ⟨1, .endOfInput :: (signs ++ words).map .token, .several⟩
  have ending : "end of input" ∈ error.expected :=
    Failure.mem_expected_toError.2 ⟨.endOfInput, List.mem_cons_self, rfl⟩
  have entry (t : Token) (ht : t ∈ signs ++ words) : t.describe ∈ error.expected :=
    Failure.mem_expected_toError.2 ⟨.token t, List.mem_cons_of_mem _ (List.mem_map_of_mem ht), rfl⟩
  have assign := entry (.directive .assign) (by decide)
  have dot := entry (.symbol .dot) (by decide)
  refine ⟨by decide +kernel, _, he, reports, ending, assign, dot, (expected _ ending).1 rfl,
    fun span => ⟨?_, ?_⟩⟩
  · exact ((expected _ assign).2 (by decide)).2 _ rfl rfl span
  · exact ((expected _ dot).2 (by decide)).2 _ rfl rfl span

end Template.Markup
