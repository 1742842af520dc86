import Template.Markup.SegmentGrammar
import Template.Number.Text
import Template.Tree.Basic

/-!
From markup to trees. Chains become left-nested operators, suffixes are wrapped around their
operand, brackets vanish, and a string in double quotes that holds references or directives becomes
a template of its own, with half the nesting allowed around it.
-/

namespace Template.Tree

/-- A doubled quote and a quote behind a backslash stand for the quote. -/
def unquote (quote : Char) : List Char → List Char
  | c :: d :: cs =>
    if (c = '\\' || c = quote) && d = quote then quote :: unquote quote cs
    else c :: unquote quote (d :: cs)
  | cs => cs

/-- The quote of a string literal and the text between its quotes. -/
def splitQuotes (raw : String) : Char × List Char :=
  match raw.toList with
  | [] => ('"', [])
  | quote :: rest => (quote, rest.dropLast)

/-- Does the text hold anything that could be interpolated? -/
def mayInterpolate (body : List Char) : Bool := body.any fun c => c == '$' || c == '#'

/-- What is known while a tree is built. -/
structure Builder where
  source : List Char
  lines : LineTable
  /-- Where the text that is parsed starts in the source. -/
  offset : Nat
  /-- The nodes of the text of a string literal that starts at the given place, if it is a
  template with anything but text in it. -/
  template : List Char → Nat → Option (List Node)

namespace Builder

def region (b : Builder) (s : Span) : Region := b.lines.region (s.shift b.offset)

def sourceText (b : Builder) (s : Span) : String :=
  let s := s.shift b.offset
  String.ofList ((Text.slice? s.start s.stop b.source).getD [])

def number (raw : String) : Float := (Number.ofText? raw.toList).getD 0

def literal (b : Builder) (value : Markup.Literal) (s : Span) : Expr :=
  match value with
  | .null => .literal .null (b.region s)
  | .bool v => .literal (.bool v) (b.region s)
  | .number raw => .literal (.number (number raw)) (b.region s)
  | .str raw =>
    let (quote, body) := splitQuotes raw
    let nodes :=
      if quote == '"' && mayInterpolate body then b.template body (b.offset + s.start + 1)
      else none
    match nodes with
    | some nodes => .interpolated nodes (b.region s)
    | none => .literal (.text (String.ofList (unquote quote body))) (b.region s)

def mapKey : Markup.MapKey → String
  | .ident name => name
  | .str raw =>
    let (quote, body) := splitQuotes raw
    String.ofList (unquote quote body)

/-- Operators in front of an operand; the last stands next to it. -/
def unaries (place : Region) (operand : Expr) : List UnaryOp → Expr
  | [] => operand
  | op :: ops => .unary op (unaries place operand ops) place

mutual

def expr (b : Builder) : Markup.Expr → Expr
  | .ternary condition thenCase elseCase s =>
    .ternary (expr b condition) (expr b thenCase) (expr b elseCase) (b.region s)
  | .chain first rest _ => operands b (expr b first) rest
  | .unary operators operand s => unaries (b.region s) (expr b operand) operators
  | .applied p ss _ => suffixes b (primary b p) ss
  | .primary p => primary b p

/-- The operands of a chain, folded from the left. -/
def operands (b : Builder) (left : Expr) : List (BinaryOp × Markup.Expr) → Expr
  | [] => left
  | (op, operand) :: rest =>
    let right := expr b operand
    operands b (.binary op left right (left.place.cover right.place)) rest

def primary (b : Builder) : Markup.Primary → Expr
  | .literal value s => literal b value s
  | .reference name quiet s => .reference name quiet (b.region s)
  | .formal inner _ _ | .group inner _ => expr b inner
  | .list elements s => .list (exprs b elements) (b.region s)
  | .range first last s => .range (expr b first) (expr b last) (b.region s)
  | .map pairs s => .map (entries b pairs) (b.region s)

def exprs (b : Builder) : List Markup.Expr → List Expr
  | [] => []
  | e :: es => expr b e :: exprs b es

def entries (b : Builder) : List (Markup.MapKey × Markup.Expr) → List (String × Expr)
  | [] => []
  | (key, e) :: rest => (mapKey key, expr b e) :: entries b rest

/-- Suffixes, the first nearest to the object. -/
def suffixes (b : Builder) (object : Expr) : List Markup.Suffix → Expr
  | [] => object
  | s :: rest => suffixes b (suffix b object s) rest

def suffix (b : Builder) (object : Expr) : Markup.Suffix → Expr
  | .property name s => .member object name (object.place.cover (b.region s))
  | .call arguments s => .call object (exprs b arguments) (object.place.cover (b.region s))
  | .index key s => .index object (expr b key) (object.place.cover (b.region s))

end

def textNode (b : Builder) (content : String) (s : Span) : List Node :=
  if content.isEmpty then [] else [.text content (b.region s)]

mutual

/-- The node of a segment. Empty text leaves none. -/
def segment (b : Builder) : Markup.Segment → List Node
  | .text content s | .unparsed content s => textNode b content s
  | .reference e quiet s | .formal e quiet s =>
    [.interpolation (expr b e) quiet (b.sourceText s) (b.region s)]
  | .conditional first rest otherwise _ s =>
    [.conditional (arm b first :: arms b rest) (fallback b otherwise) (b.region s)]
  | .assign name path value s => [.assign name path (expr b value) (b.region s)]
  | .loop _ item iterable body otherwise _ s =>
    [.loop item (expr b iterable) (segments b body) (fallback b otherwise) (b.region s)]
  | .leave s => [.leave (b.region s)]
  | .stop s => [.stop (b.region s)]
  | .define _ name parameters body _ s => [.define name parameters (segments b body) (b.region s)]
  | .macroCall name arguments s =>
    [.macroCall name (exprs b (arguments.getD [])) (b.sourceText s) (b.region s)]
  | .evaluate argument s => [.evaluate (expr b argument) (b.region s)]
  | .parse argument s => [.parse (expr b argument) (b.region s)]
  | .embed arguments s => [.embed (exprs b arguments) (b.region s)]

def arm (b : Builder) : Markup.Arm → Branch
  | .mk _ condition body => .mk (expr b condition) (segments b body)

def arms (b : Builder) : List Markup.Arm → List Branch
  | [] => []
  | a :: rest => arm b a :: arms b rest

def fallback (b : Builder) : Option Markup.Fallback → Option (List Node)
  | none => none
  | some (.mk _ body) => some (segments b body)

def segments (b : Builder) : List Markup.Segment → List Node
  | [] => []
  | s :: rest => segment b s ++ segments b rest

end

end Builder

/-- Text at the top of a string's template stands in quotes. -/
def unquoteText : Node → Node
  | .text content place => .text (String.ofList (unquote '"' content.toList)) place
  | node => node

/-- The template in a string literal, for strings nested at most `levels` deep inside strings. -/
def stringTemplate (source : List Char) (lines : LineTable) :
    (levels limit : Nat) → List Char → Nat → Option (List Node)
  | 0, _, _, _ => none
  | levels + 1, limit, body, offset =>
    let text := String.ofList body
    match tokenize text with
    | .error _ => none
    | .ok tokens =>
      match Markup.parseSegments text tokens limit with
      | .error _ => none
      | .ok segments =>
        let b : Builder :=
          { source, lines, offset
            template := fun body offset =>
              stringTemplate source lines levels (limit / 2) body offset }
        let nodes := (b.segments segments).map unquoteText
        if nodes.all Node.isText then none else some nodes

/-- How deep strings can be nested. Each halves the nesting that is allowed, and where none is
allowed there are no brackets to hold a string. -/
def stringLevels (limit : Nat) : Nat := Nat.log2 limit + 2

/-- A builder for a whole source with the given nesting limit. -/
def builder (source : String) (limit : Nat) : Builder :=
  let chars := source.toList
  let lines := LineTable.ofChars chars
  { source := chars, lines, offset := 0
    template := fun body offset =>
      stringTemplate chars lines (stringLevels limit) (limit / 2) body offset }

end Template.Tree
