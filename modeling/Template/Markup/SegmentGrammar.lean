import Template.Markup.ExprGrammar
import Template.Token.Lexer
import Template.Token.Nesting

/-!
The grammar of templates: text, references and directives. A body ends where no segment starts,
which is at the words that close or continue a block.
-/

namespace Template.Markup.Grammar

open Template.Markup.Parser

def text : Parser Segment := do
  let (pieces, span) ← spanned <| manyOne <| select fun
    | .text content => some content
    | .newline => some "\n"
    | .escaped content => some content
    | _ => none
  return .text (String.join pieces) span

def unparsed : Parser Segment := do
  let (body, span) ← spanned <| select fun
    | .unparsed body => some body
    | _ => none
  return .unparsed body span

def isQuiet : Primary → Bool
  | .reference _ quiet _ => quiet
  | _ => false

def referenceSegment : Parser Segment := do
  let ((primary, suffixes), span) ← spanned do
    let primary ← reference
    return (primary, ← many (suffix expression))
  return .reference (withSuffixes primary suffixes span) (isQuiet primary) span

def formalSegment : Parser Segment :=
  labelled .formalReference do
    let ((quiet, inner), span) ← formal expression
    return .formal inner quiet span

def close : Parser Span :=
  labelled .close do
    return (← spanned (keyword .close)).2

def fallback (body : Parser (List Segment)) : Parser Fallback := do
  let (_, header) ← spanned (keyword .otherwise)
  return .mk header (← body)

def arm (word : Keyword) (body : Parser (List Segment)) : Parser Arm := do
  let (condition, header) ← spanned do
    keyword word
    parenthesized expression
  return .mk header condition (← body)

def conditional (body : Parser (List Segment)) : Parser Segment :=
  labelled .ifDirective do
    let ((first, rest, otherwise, closeSpan), span) ← spanned do
      let first ← arm .ifThen body
      let rest ← many (arm .elseIf body)
      let otherwise ← optional (fallback body)
      return (first, rest, otherwise, ← close)
    return .conditional first rest otherwise closeSpan span

def variableName : Parser String :=
  labelled .variableName <| select fun
    | .reference name _ => some name
    | _ => none

def pathStep : Parser String := do
  symbol .dot
  identifier

def assign : Parser Segment :=
  labelled .setDirective do
    let ((name, path, value), span) ← spanned do
      keyword .assign
      parenthesized do
        let name ← variableName
        let path ← many pathStep
        symbol .assign
        return (name, path, ← expression)
    return .assign name path value span

def loop (body : Parser (List Segment)) : Parser Segment :=
  labelled .foreachDirective do
    let ((header, variableName, iterable, inner, otherwise, closeSpan), span) ← spanned do
      let ((variableName, iterable), header) ← spanned do
        keyword .forEach
        parenthesized do
          let variableName ← variableName
          token (.reserved .inside)
          return (variableName, ← expression)
      let inner ← body
      let otherwise ← optional (fallback body)
      return (header, variableName, iterable, inner, otherwise, ← close)
    return .loop header variableName iterable inner otherwise closeSpan span

def optionalComma : Parser Unit := do
  let _ ← optional (symbol .comma)

def parameter : Parser String := do
  let name ← labelled .parameter <| select fun
    | .reference name false => some name
    | _ => none
  optionalComma
  return name

def define (body : Parser (List Segment)) : Parser Segment :=
  labelled .definition do
    let ((header, name, parameters, inner, closeSpan), span) ← spanned do
      let ((name, parameters), header) ← spanned do
        keyword .define
        parenthesized do
          let name ← labelled .definitionName identifier
          optionalComma
          return (name, ← many parameter)
      let inner ← body
      return (header, name, parameters, inner, ← close)
    return .define header name parameters inner closeSpan span

def callArgument : Parser Expr := do
  let argument ← expression
  optionalComma
  return argument

def invocation : Parser Segment :=
  labelled .invocation do
    let ((name, arguments), span) ← spanned do
      let name ← select fun
        | .macroCall name => some name
        | _ => none
      return (name, ← optional (parenthesized (many callArgument)))
    return .macroCall name arguments span

def evaluate : Parser Segment :=
  labelled .evaluateDirective do
    let (argument, span) ← spanned do
      keyword .evaluate
      parenthesized expression
    return .evaluate argument span

def parse : Parser Segment :=
  labelled .parseDirective do
    let (argument, span) ← spanned do
      keyword .parse
      parenthesized expression
    return .parse argument span

def embed : Parser Segment :=
  labelled .includeDirective do
    let (arguments, span) ← spanned do
      keyword .embed
      parenthesized (itemsOne false (symbol .comma) expression)
    return .embed arguments span

def leave : Parser Segment := do
  return .leave (← spanned (keyword .leave)).2

def stop : Parser Segment := do
  return .stop (← spanned (keyword .stop)).2

def segment (body : Parser (List Segment)) : Parser Segment :=
  choice
    [text, unparsed, referenceSegment, formalSegment, conditional body, assign, loop body,
      define body, invocation, evaluate, parse, embed, leave, stop]

/-- Bodies whose blocks are nested at most `depth` deep. -/
def bodyWithin : Nat → Parser (List Segment)
  | 0, c => fail c
  | depth + 1, c => many (segment fun c' => bodyWithin depth c') c

/-- A whole template. -/
def template : Parser (List Segment) := fun c =>
  (do
    let segments ← bodyWithin (c.rest.length + 1)
    endOfInput
    return segments : Parser (List Segment)) c

end Template.Markup.Grammar

namespace Template.Markup

/-- The segments of a token list that is nested at most `limit` levels deep. -/
def parseSegments (source : String) (tokens : List Lexeme) (limit : Nat) :
    Except SyntaxError (List Segment) := do
  Nesting.check source limit tokens
  match Grammar.template.parse tokens with
  | .ok segments => return segments
  | .error f => throw (f.toError source tokens)

/-- The expression that the whole source is, if it has no blanks, starts with a reference and is
held together by an operator. -/
def wholeExpression? (source : String) (limit : Nat) : Option Expr :=
  if source.toList.head? != some '$' || source.toList.any Text.isWhitespace then none
  else
    match tokenizeExpression source with
    | .error _ => none
    | .ok tokens =>
      match Nesting.check source limit tokens with
      | .error _ => none
      | .ok () =>
        let whole : Parser Expr := do
          let e ← Grammar.expression
          Parser.endOfInput
          return e
        match whole.parse tokens with
        | .error _ => none
        | .ok e => if e.isOperation then some e else none

end Template.Markup
