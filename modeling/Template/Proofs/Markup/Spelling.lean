import Template.Proofs.Markup.Gives
import Template.Proofs.Markup.Layout

/-!
The tokens that markup is written with if nothing else is said: no comma behind the last item, and
commas between the arguments of a macro.
-/

namespace Template.Markup

open Layout

def Expr.tokens (e : Expr) : List Token := e.layout.tokens

def Expr.tokensInBraces (e : Expr) : List Token := e.layoutInBraces.tokens

def Primary.tokens (p : Primary) : List Token := p.layout.tokens

def Suffix.tokens (s : Suffix) : List Token := s.layout.tokens

def entryTokens (p : MapKey × Expr) : List Token :=
  p.1.token :: .symbol .colon :: p.2.tokens

namespace Layout

theorem allTokens_flatMap {α : Type} (xs : List α) (L : α → List Layout) :
    allTokens (xs.flatMap L) = xs.flatMap fun x => allTokens (L x) := by
  induction xs with
  | nil => rfl
  | cons x xs ih => simp [allTokens_append, ih]

theorem allTokens_behind {α : Type} (xs : List α) (L : α → List Layout) {comma : Layout}
    {last : List Layout} (hc : comma.tokens = [.symbol .comma]) (hl : allTokens last = []) :
    allTokens (behind comma last (xs.map L)) =
      xs.flatMap fun x => .symbol .comma :: allTokens (L x) := by
  induction xs with
  | nil => exact hl
  | cons x xs ih => simp [behind, allTokens, allTokens_append, hc, ih]

theorem allTokens_row {α : Type} (xs : List α) (L : α → List Layout) {comma : Layout}
    {last : List Layout} (hc : comma.tokens = [.symbol .comma]) (hl : allTokens last = []) :
    allTokens (row comma last (xs.map L)) = commaRow (fun x => allTokens (L x)) xs := by
  cases xs with
  | nil => rfl
  | cons x xs =>
      rw [List.map_cons, row, allTokens_append, allTokens_behind xs L hc hl]
      rfl

theorem allTokens_items {comma : Layout} {last : List Layout} (es : List Expr)
    (hc : comma.tokens = [.symbol .comma]) (hl : allTokens last = []) :
    allTokens (row comma last (layoutItems es)) = commaRow Expr.tokens es := by
  rw [layoutItems_eq, allTokens_row _ _ hc hl]
  congr 1
  funext e
  exact List.append_nil _

theorem allTokens_separated (es : List Expr) :
    allTokens (separated (layoutItems es)) = commaRow Expr.tokens es := allTokens_items es rfl rfl

theorem allTokens_listed (es : List Expr) :
    allTokens (listed (layoutItems es)) = commaRow Expr.tokens es := allTokens_items es rfl rfl

theorem allTokens_spaced (es : List Expr) :
    allTokens (spaced (layoutItems es)) = commaRow Expr.tokens es := allTokens_items es rfl rfl

theorem allTokens_entries (entries : List (MapKey × Expr)) :
    allTokens (separated (layoutEntries entries)) = commaRow entryTokens entries := by
  rw [layoutEntries_eq, separated, allTokens_row _ _ rfl rfl]
  congr 1
  funext p
  simp [allTokens, Layout.tokens, entryTokens, Expr.tokens]

end Layout

namespace Expr

theorem tokens_ternary (condition thenCase elseCase : Expr) (span : Span) :
    (ternary condition thenCase elseCase span).tokens =
      condition.tokens ++ Token.symbol .question :: (thenCase.tokens ++
        Token.symbol .colon :: elseCase.tokens) := by
  simp [tokens, layout, Layout.tokens, allTokens]

theorem tokens_chain (first : Expr) (rest : List (BinaryOp × Expr)) (span : Span) :
    (chain first rest span).tokens =
      first.tokens ++ rest.flatMap fun p => p.1.token :: p.2.tokens := by
  simp [tokens, layout, Layout.tokens, allTokens, layoutRest_eq, allTokens_flatMap]

theorem tokens_unary (operators : List UnaryOp) (operand : Expr) (span : Span) :
    (unary operators operand span).tokens = operators.flatMap (fun op => [op.token]) ++
      operand.tokens := by
  simp [tokens, layout, Layout.tokens, allTokens, allTokens_append, List.map_eq_flatMap,
    allTokens_flatMap]

theorem tokens_applied (p : Primary) (suffixes : List Suffix) (span : Span) :
    (applied p suffixes span).tokens = p.tokens ++ suffixes.flatMap Suffix.tokens := by
  simp [tokens, Primary.tokens, layout, Layout.tokens, allTokens, layoutSuffixes_eq,
    allTokens_flatMap]
  rfl

theorem tokens_primary (p : Primary) : (primary p).tokens = p.tokens := rfl

end Expr

namespace Primary

theorem tokens_reference (name : String) (quiet : Bool) (span : Span) :
    (reference name quiet span).tokens = [.reference name quiet] := rfl

theorem tokens_formal (inner : Expr) (quiet : Bool) (span : Span) :
    (formal inner quiet span).tokens =
      Token.formal quiet :: (inner.tokensInBraces ++ [Token.symbol .closeBrace]) := rfl

theorem tokens_group (inner : Expr) (span : Span) :
    (group inner span).tokens =
      Token.symbol .openParen :: (inner.tokens ++ [Token.symbol .closeParen]) := rfl

theorem tokens_list (items : List Expr) (span : Span) :
    (list items span).tokens =
      Token.symbol .openBracket :: (commaRow Expr.tokens items ++ [Token.symbol .closeBracket]) := by
  simp [tokens, layout, Layout.tokens, allTokens, allTokens_append, allTokens_separated]

theorem tokens_range (first last : Expr) (span : Span) :
    (range first last span).tokens =
      Token.symbol .openBracket :: (first.tokens ++ Token.symbol .dots :: (last.tokens ++
        [Token.symbol .closeBracket])) := by
  simp [tokens, layout, Layout.tokens, allTokens, Expr.tokens]

theorem tokens_map (entries : List (MapKey × Expr)) (span : Span) :
    (map entries span).tokens =
      Token.symbol .openBrace :: (commaRow entryTokens entries ++ [Token.symbol .closeBrace]) := by
  simp [tokens, layout, Layout.tokens, allTokens, allTokens_append, allTokens_entries]

end Primary

namespace Suffix

theorem tokens_property (name : String) (span : Span) :
    (property name span).tokens = [.symbol .dot, .ident name] := rfl

theorem tokens_call (arguments : List Expr) (span : Span) :
    (call arguments span).tokens =
      Token.symbol .openParen :: (commaRow Expr.tokens arguments ++ [Token.symbol .closeParen]) := by
  simp [tokens, layout, Layout.tokens, allTokens, allTokens_append, allTokens_separated]

theorem tokens_index (key : Expr) (span : Span) :
    (index key span).tokens =
      Token.symbol .openBracket :: (key.tokens ++ [Token.symbol .closeBracket]) := rfl

end Suffix

def Segment.tokens (s : Segment) : List Token := s.layout.tokens

def bodyTokens (body : List Segment) : List Token := body.flatMap Segment.tokens

def Arm.tokens (word : Keyword) : Arm → List Token
  | .mk _ condition body =>
    Token.directive word :: Token.symbol .openParen ::
      (condition.tokens ++ Token.symbol .closeParen :: bodyTokens body)

def fallbackTokens : Option Fallback → List Token
  | none => []
  | some (.mk _ body) => Token.directive .otherwise :: bodyTokens body

namespace Layout

theorem allTokens_body (body : List Segment) : allTokens (layoutBody body) = bodyTokens body := by
  rw [layoutBody_eq, allTokens_flatMap]
  congr 1
  funext s
  exact List.append_nil _

theorem allTokens_arm (word : Keyword) (a : Arm) : allTokens (a.layout word) = a.tokens word := by
  obtain ⟨header, condition, body⟩ := a
  simp [Arm.layout, Arm.tokens, allTokens, Layout.tokens, allTokens_body, Expr.tokens]

theorem allTokens_fallback (otherwise : Option Fallback) :
    allTokens (layoutFallback otherwise) = fallbackTokens otherwise := by
  rcases otherwise with _ | ⟨header, body⟩
  · rfl
  · simp [layoutFallback, fallbackTokens, allTokens, Layout.tokens, allTokens_body]

end Layout

namespace Segment

theorem tokens_reference (e : Expr) (quiet : Bool) (span : Span) :
    (reference e quiet span).tokens = e.tokens := List.append_nil _

theorem tokens_formal (inner : Expr) (quiet : Bool) (span : Span) :
    (formal inner quiet span).tokens =
      Token.formal quiet :: (inner.tokensInBraces ++ [Token.symbol .closeBrace]) := rfl

theorem tokens_conditional (first : Arm) (rest : List Arm) (otherwise : Option Fallback)
    (close span : Span) :
    (conditional first rest otherwise close span).tokens =
      first.tokens .ifThen ++ (rest.flatMap (Arm.tokens .elseIf) ++
        (fallbackTokens otherwise ++ [Token.directive .close])) := by
  simp [tokens, layout, Layout.tokens, allTokens, allTokens_append, allTokens_arm, layoutArms_eq,
    allTokens_flatMap, allTokens_fallback]

theorem tokens_assign (name : String) (path : List String) (value : Expr) (span : Span) :
    (assign name path value span).tokens =
      Token.directive .assign :: Token.symbol .openParen :: Token.reference name false ::
        (path.flatMap (fun step => [Token.symbol .dot, Token.ident step]) ++
          Token.symbol .assign :: (value.tokens ++ [Token.symbol .closeParen])) := by
  simp [tokens, layout, Layout.tokens, allTokens, allTokens_append, allTokens_flatMap, Expr.tokens]

theorem tokens_loop (header : Span) (item : String) (iterable : Expr) (body : List Segment)
    (otherwise : Option Fallback) (close span : Span) :
    (loop header item iterable body otherwise close span).tokens =
      Token.directive .forEach :: Token.symbol .openParen :: Token.reference item false ::
        Token.reserved .inside :: (iterable.tokens ++ Token.symbol .closeParen :: (bodyTokens body ++
          (fallbackTokens otherwise ++ [Token.directive .close]))) := by
  simp [tokens, layout, Layout.tokens, allTokens, allTokens_append, allTokens_body,
    allTokens_fallback, Expr.tokens]

theorem tokens_define (header : Span) (name : String) (parameters : List String)
    (body : List Segment) (close span : Span) :
    (define header name parameters body close span).tokens =
      Token.directive .define :: Token.symbol .openParen :: Token.ident name ::
        (parameters.flatMap (fun p => [Token.reference p false]) ++ Token.symbol .closeParen ::
          (bodyTokens body ++ [Token.directive .close])) := by
  simp [tokens, layout, Layout.tokens, allTokens, allTokens_append, allTokens_flatMap,
    allTokens_body]

theorem tokens_macroCall (name : String) (arguments : List Expr) (span : Span) :
    (macroCall name (some arguments) span).tokens =
      Token.macroCall name :: Token.symbol .openParen ::
        (commaRow Expr.tokens arguments ++ [Token.symbol .closeParen]) := by
  simp [tokens, layout, Layout.tokens, allTokens, allTokens_append, allTokens_spaced]

theorem tokens_evaluate (argument : Expr) (span : Span) :
    (evaluate argument span).tokens =
      Token.directive .evaluate :: Token.symbol .openParen ::
        (argument.tokens ++ [Token.symbol .closeParen]) :=
  rfl

theorem tokens_parse (argument : Expr) (span : Span) :
    (parse argument span).tokens =
      Token.directive .parse :: Token.symbol .openParen ::
        (argument.tokens ++ [Token.symbol .closeParen]) :=
  rfl

theorem tokens_embed (arguments : List Expr) (span : Span) :
    (embed arguments span).tokens =
      Token.directive .embed :: Token.symbol .openParen ::
        (commaRow Expr.tokens arguments ++ [Token.symbol .closeParen]) := by
  simp [tokens, layout, Layout.tokens, allTokens, allTokens_append, allTokens_listed]

end Segment

end Template.Markup
