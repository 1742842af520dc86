import Template.Markup.SegmentGrammar

/-!
Markup written out again: the tokens of every part in order, each part with the span that it claims.
A layout leaves open what markup does not record, which is where commas that may be missing stand,
how a text is cut into tokens, and whether the variable of an assignment or a loop has a quiet mark.
-/

namespace Template

/-- What a token of literal text stands for. -/
def Token.literalText? : Token → Option String
  | .text content => some content
  | .newline => some "\n"
  | .escaped content => some content
  | _ => none

/-- The text that a run of tokens of literal text stands for. -/
def Lexeme.literalText (ls : List Lexeme) : String :=
  String.join (ls.filterMap fun l => l.1.literalText?)

def BinaryOp.token : BinaryOp → Token
  | .disj => .symbol .disj
  | .conj => .symbol .conj
  | .equal => .symbol .equal
  | .notEqual => .symbol .notEqual
  | .less => .symbol .less
  | .lessEqual => .symbol .lessEqual
  | .greater => .symbol .greater
  | .greaterEqual => .symbol .greaterEqual
  | .add => .symbol .plus
  | .subtract => .symbol .minus
  | .multiply => .symbol .star
  | .divide => .symbol .slash
  | .modulo => .symbol .percent

def UnaryOp.token : UnaryOp → Token
  | .not => .symbol .bang
  | .negate => .symbol .minus
  | .plus => .symbol .plus

/-- The span from the first token to the last. -/
def Span.Covers (span : Span) (ls : List Lexeme) : Prop :=
  ∃ first last, ls.head? = some first ∧ ls.getLast? = some last ∧
    span = ⟨first.2.start, last.2.stop⟩

namespace Markup

inductive Layout where
  | token (t : Token)
  /-- A variable, with or without a quiet mark. -/
  | target (name : String)
  /-- A run of literal text. -/
  | run (content : String)
  /-- A comma that may be missing. It is written if nothing else is said. -/
  | comma (written : Bool)
  /-- A part with a span of its own. -/
  | part (span : Span) (inside : List Layout)

namespace Layout

mutual

/-- The tokens, the way they are written if nothing else is said. -/
def tokens : Layout → List Token
  | token t => [t]
  | target name => [.reference name false]
  | run content => [.text content]
  | comma true => [.symbol .comma]
  | comma false => []
  | part _ inside => allTokens inside

def allTokens : List Layout → List Token
  | [] => []
  | l :: ls => l.tokens ++ allTokens ls

end

/-- What stands behind an item: further ones, each behind a comma, and `last`. -/
def behind (comma : Layout) (last : List Layout) : List (List Layout) → List Layout
  | [] => last
  | item :: items => comma :: item ++ behind comma last items

/-- Items with commas between them and `last` behind them; nothing if there are none. -/
def row (comma : Layout) (last : List Layout) : List (List Layout) → List Layout
  | [] => []
  | item :: items => item ++ behind comma last items

/-- Items with commas between them, and perhaps one behind the last. -/
def separated : List (List Layout) → List Layout := row (.token (.symbol .comma)) [.comma false]

/-- Items with commas between them, and none behind the last. -/
def listed : List (List Layout) → List Layout := row (.token (.symbol .comma)) []

/-- Items with commas that may be missing. -/
def spaced : List (List Layout) → List Layout := row (.comma true) [.comma false]

end Layout

/-- The tokens fit the layout, and every part covers its own. -/
inductive Fits : List Layout → List Lexeme → Prop where
  | nil : Fits [] []
  | token {t : Token} {span : Span} {more : List Layout} {ls : List Lexeme} (h : Fits more ls) :
      Fits (.token t :: more) ((t, span) :: ls)
  | target {name : String} {quiet : Bool} {span : Span} {more : List Layout} {ls : List Lexeme}
      (h : Fits more ls) : Fits (.target name :: more) ((.reference name quiet, span) :: ls)
  | run {pieces : List Lexeme} {more : List Layout} {ls : List Lexeme} (hn : pieces ≠ [])
      (ht : ∀ l ∈ pieces, l.1.isText) (h : Fits more ls) :
      Fits (.run (Lexeme.literalText pieces) :: more) (pieces ++ ls)
  | comma {written : Bool} {span : Span} {more : List Layout} {ls : List Lexeme}
      (h : Fits more ls) : Fits (.comma written :: more) ((.symbol .comma, span) :: ls)
  | noComma {written : Bool} {more : List Layout} {ls : List Lexeme} (h : Fits more ls) :
      Fits (.comma written :: more) ls
  | part {span : Span} {inside more : List Layout} {ls ls' : List Lexeme} (hi : Fits inside ls)
      (hs : span.Covers ls) (h : Fits more ls') : Fits (.part span inside :: more) (ls ++ ls')

namespace Literal

def token : Literal → Token
  | str raw => .str raw
  | number raw => .number raw
  | bool true => .reserved .yes
  | bool false => .reserved .no
  | null => .reserved .null

end Literal

namespace MapKey

def token : MapKey → Token
  | str raw => .str raw
  | ident name => .ident name

end MapKey

def Layout.symbol (s : Symbol) : Layout := .token (.symbol s)

def Layout.keyword (k : Keyword) : Layout := .token (.directive k)

mutual

def Expr.layout : Expr → Layout
  | .ternary condition thenCase elseCase span =>
    .part span [condition.layout, .symbol .question, thenCase.layout, .symbol .colon,
      elseCase.layout]
  | .chain first rest span => .part span (first.layout :: layoutRest rest)
  | .unary operators operand span =>
    .part span (operators.map (fun op => .token op.token) ++ [operand.layout])
  | .applied primary suffixes span => .part span (primary.layout :: layoutSuffixes suffixes)
  | .primary primary => primary.layout

def layoutRest : List (BinaryOp × Expr) → List Layout
  | [] => []
  | (op, e) :: rest => .token op.token :: e.layout :: layoutRest rest

def layoutSuffixes : List Suffix → List Layout
  | [] => []
  | s :: ss => s.layout :: layoutSuffixes ss

def layoutItems : List Expr → List (List Layout)
  | [] => []
  | e :: es => [e.layout] :: layoutItems es

def layoutEntries : List (MapKey × Expr) → List (List Layout)
  | [] => []
  | (key, e) :: rest => [.token key.token, .symbol .colon, e.layout] :: layoutEntries rest

def Primary.layout : Primary → Layout
  | .literal value span => .part span [.token value.token]
  | .reference name quiet span => .part span [.token (.reference name quiet)]
  | .formal inner quiet span =>
    .part span [.token (.formal quiet), inner.layoutInBraces, .symbol .closeBrace]
  | .group inner span => .part span [.symbol .openParen, inner.layout, .symbol .closeParen]
  | .list items span =>
    .part span (.symbol .openBracket :: Layout.separated (layoutItems items) ++
      [.symbol .closeBracket])
  | .range first last span =>
    .part span [.symbol .openBracket, first.layout, .symbol .dots, last.layout,
      .symbol .closeBracket]
  | .map entries span =>
    .part span (.symbol .openBrace :: Layout.separated (layoutEntries entries) ++
      [.symbol .closeBrace])

/-- In braces the name that a reference begins with stands for itself. -/
def Expr.layoutInBraces : Expr → Layout
  | .applied (.reference name _ place) suffixes span =>
    .part span (.part place [.token (.ident name)] :: layoutSuffixes suffixes)
  | .primary (.reference name _ place) => .part place [.token (.ident name)]
  | _ => .part default []

def Suffix.layout : Suffix → Layout
  | .property name span => .part span [.symbol .dot, .token (.ident name)]
  | .call arguments span =>
    .part span (.symbol .openParen :: Layout.separated (layoutItems arguments) ++
      [.symbol .closeParen])
  | .index key span => .part span [.symbol .openBracket, key.layout, .symbol .closeBracket]

end

mutual

def Segment.layout : Segment → Layout
  | .text content span => .part span [.run content]
  | .unparsed body span => .part span [.token (.unparsed body)]
  | .reference e _ span => .part span [e.layout]
  | .formal inner quiet span =>
    .part span [.token (.formal quiet), inner.layoutInBraces, .symbol .closeBrace]
  | .conditional first rest otherwise close span =>
    .part span (first.layout .ifThen ++ layoutArms rest ++ layoutFallback otherwise ++
      [.part close [.keyword .close]])
  | .assign name path value span =>
    .part span ([.keyword .assign, .symbol .openParen, .target name] ++
      path.flatMap (fun step => [.symbol .dot, .token (.ident step)]) ++
      [.symbol .assign, value.layout, .symbol .closeParen])
  | .loop header item iterable body otherwise close span =>
    .part span (.part header [.keyword .forEach, .symbol .openParen, .target item,
      .token (.reserved .inside), iterable.layout, .symbol .closeParen] ::
        layoutBody body ++ layoutFallback otherwise ++ [.part close [.keyword .close]])
  | .leave span => .part span [.keyword .leave]
  | .stop span => .part span [.keyword .stop]
  | .define header name parameters body close span =>
    .part span (.part header ([.keyword .define, .symbol .openParen, .token (.ident name),
      .comma false] ++
        parameters.flatMap (fun p => [.token (.reference p false), .comma false]) ++
        [.symbol .closeParen]) :: layoutBody body ++ [.part close [.keyword .close]])
  | .macroCall name none span => .part span [.token (.macroCall name)]
  | .macroCall name (some arguments) span =>
    .part span (.token (.macroCall name) :: .symbol .openParen ::
      Layout.spaced (layoutItems arguments) ++ [.symbol .closeParen])
  | .evaluate argument span =>
    .part span [.keyword .evaluate, .symbol .openParen, argument.layout, .symbol .closeParen]
  | .parse argument span =>
    .part span [.keyword .parse, .symbol .openParen, argument.layout, .symbol .closeParen]
  | .embed arguments span =>
    .part span (.keyword .embed :: .symbol .openParen :: Layout.listed (layoutItems arguments) ++
      [.symbol .closeParen])

def Arm.layout : Arm → Keyword → List Layout
  | .mk header condition body, word =>
    .part header [.keyword word, .symbol .openParen, condition.layout, .symbol .closeParen] ::
      layoutBody body

def layoutArms : List Arm → List Layout
  | [] => []
  | a :: as => a.layout .elseIf ++ layoutArms as

def layoutFallback : Option Fallback → List Layout
  | none => []
  | some (.mk header body) => .part header [.keyword .otherwise] :: layoutBody body

def layoutBody : List Segment → List Layout
  | [] => []
  | s :: ss => s.layout :: layoutBody ss

end

namespace Layout

@[simp] theorem tokens_symbol (s : Symbol) : (symbol s).tokens = [.symbol s] := rfl

@[simp] theorem tokens_keyword (k : Keyword) : (keyword k).tokens = [.directive k] := rfl

theorem allTokens_append (a b : List Layout) :
    allTokens (a ++ b) = allTokens a ++ allTokens b := by
  induction a with
  | nil => rfl
  | cons l ls ih => simp [allTokens, ih]

end Layout

theorem layoutItems_eq (es : List Expr) : layoutItems es = es.map fun e => [e.layout] := by
  induction es with
  | nil => rfl
  | cons e es ih => simp [layoutItems, ih]

theorem layoutEntries_eq (entries : List (MapKey × Expr)) :
    layoutEntries entries =
      entries.map fun p => [.token p.1.token, .symbol .colon, p.2.layout] := by
  induction entries with
  | nil => rfl
  | cons p entries ih => simp [layoutEntries, ih]

theorem layoutRest_eq (rest : List (BinaryOp × Expr)) :
    layoutRest rest = rest.flatMap fun p => [.token p.1.token, p.2.layout] := by
  induction rest with
  | nil => rfl
  | cons p rest ih => simp [layoutRest, ih]

theorem layoutSuffixes_eq (suffixes : List Suffix) :
    layoutSuffixes suffixes = suffixes.flatMap fun s => [s.layout] := by
  induction suffixes with
  | nil => rfl
  | cons s ss ih => simp [layoutSuffixes, ih]

theorem layoutArms_eq (arms : List Arm) : layoutArms arms = arms.flatMap (·.layout .elseIf) := by
  induction arms with
  | nil => rfl
  | cons a arms ih => simp [layoutArms, ih]

theorem layoutBody_eq (body : List Segment) :
    layoutBody body = body.flatMap fun s => [s.layout] := by
  induction body with
  | nil => rfl
  | cons s body ih => simp [layoutBody, ih]

theorem Fits.append {a b : List Layout} {ls ls' : List Lexeme} (ha : Fits a ls) (hb : Fits b ls') :
    Fits (a ++ b) (ls ++ ls') := by
  induction ha with
  | nil => exact hb
  | token _ ih => exact .token ih
  | target _ ih => exact .target ih
  | run hn ht _ ih => exact (List.append_assoc ..) ▸ .run hn ht ih
  | comma _ ih => exact .comma ih
  | noComma _ ih => exact .noComma ih
  | part hi hs _ _ ih => exact (List.append_assoc ..) ▸ .part hi hs ih

theorem Fits.split {a b : List Layout} {ls : List Lexeme} (h : Fits (a ++ b) ls) :
    ∃ la lb, ls = la ++ lb ∧ Fits a la ∧ Fits b lb := by
  induction a generalizing ls with
  | nil => exact ⟨[], ls, rfl, .nil, h⟩
  | cons l a ih =>
      cases h with
      | token h =>
          obtain ⟨la, lb, rfl, ha, hb⟩ := ih h
          exact ⟨_ :: la, lb, rfl, .token ha, hb⟩
      | target h =>
          obtain ⟨la, lb, rfl, ha, hb⟩ := ih h
          exact ⟨_ :: la, lb, rfl, .target ha, hb⟩
      | run hn ht h =>
          obtain ⟨la, lb, rfl, ha, hb⟩ := ih h
          exact ⟨_ ++ la, lb, (List.append_assoc ..).symm, .run hn ht ha, hb⟩
      | comma h =>
          obtain ⟨la, lb, rfl, ha, hb⟩ := ih h
          exact ⟨_ :: la, lb, rfl, .comma ha, hb⟩
      | noComma h =>
          obtain ⟨la, lb, rfl, ha, hb⟩ := ih h
          exact ⟨la, lb, rfl, .noComma ha, hb⟩
      | part hi hs h =>
          obtain ⟨la, lb, rfl, ha, hb⟩ := ih h
          exact ⟨_ ++ la, lb, (List.append_assoc ..).symm, .part hi hs ha, hb⟩

private theorem Fits.behind_spaced {es : List Expr} {ls : List Lexeme}
    (h : Fits (.comma true :: es.flatMap fun e => [e.layout, .comma true]) ls) :
    Fits (Layout.behind (.comma true) [.comma false] (layoutItems es)) ls := by
  induction es generalizing ls with
  | nil =>
      cases h with
      | comma h => exact .comma h
      | noComma h => exact .noComma h
  | cons e es ih =>
      obtain ⟨la, lb, rfl, ha, hb⟩ := Fits.split (a := [.comma true, e.layout]) h
      exact ha.append (ih hb)

/-- It does not matter behind which of the items a comma is written. -/
theorem Fits.spaced {es : List Expr} {ls : List Lexeme}
    (h : Fits (es.flatMap fun e => [e.layout, .comma true]) ls) :
    Fits (Layout.spaced (layoutItems es)) ls := by
  cases es with
  | nil => exact h
  | cons e es =>
      obtain ⟨la, lb, rfl, ha, hb⟩ := Fits.split (a := [e.layout]) h
      exact ha.append hb.behind_spaced

theorem Fits.only {span : Span} {inside : List Layout} {ls : List Lexeme} (h : Fits inside ls)
    (hs : span.Covers ls) : Fits [.part span inside] ls := by
  simpa only [List.append_nil] using Fits.part h hs .nil

theorem Fits.token_ne_nil {t : Token} {more : List Layout} {ls : List Lexeme}
    (h : Fits (.token t :: more) ls) : ls ≠ [] := by
  cases h
  simp

theorem Fits.part_ne_nil {span : Span} {inside more : List Layout} {ls : List Lexeme}
    (h : Fits (.part span inside :: more) ls) : ls ≠ [] := by
  cases h with
  | part _ hs _ =>
      obtain ⟨_, _, hf, -⟩ := hs
      rintro he
      rw [(List.append_eq_nil_iff.1 he).1] at hf
      cases hf

theorem Primary.layout_eq_part (p : Primary) : ∃ span inside, p.layout = .part span inside := by
  cases p <;> exact ⟨_, _, rfl⟩

theorem Expr.layout_eq_part (e : Expr) : ∃ span inside, e.layout = .part span inside := by
  cases e with
  | primary p => exact p.layout_eq_part
  | _ => exact ⟨_, _, rfl⟩

theorem Fits.expr_ne_nil {e : Expr} {more : List Layout} {ls : List Lexeme}
    (h : Fits (e.layout :: more) ls) : ls ≠ [] := by
  obtain ⟨span, inside, he⟩ := e.layout_eq_part
  exact (he ▸ h).part_ne_nil

end Markup

end Template
