import Template.Options
import Template.Token.Lexer
import Template.Tree.OfMarkup

/-!
From a source to a document.
-/

namespace Template

/-- Why a source is no template. -/
inductive SourceError where
  | lexical (error : LexError)
  | syntactic (error : SyntaxError)
deriving Repr

namespace SourceError

def message : SourceError → String
  | lexical e => "lexical error: " ++ e.message
  | syntactic e => "syntax error: " ++ e.describe

end SourceError

namespace Document

/-- The segments of a source, with the blanks that the options say. -/
def segments (options : Options) (source : String) : Except SourceError (List Markup.Segment) :=
  match tokenize source with
  | .error e => .error (.lexical e)
  | .ok tokens =>
    match Markup.parseSegments source tokens options.maxNesting with
    | .error e => .error (.syntactic e)
    | .ok segments => .ok (Markup.gobble options.gobbling segments)

def ofSegments (limit : Nat) (source : String) (segments : List Markup.Segment) : Document :=
  let b := Tree.builder source limit
  { nodes := b.segments segments
    expression := (Markup.wholeExpression? source limit).map b.expr }

def compile (options : Options) (source : String) : Except SourceError Document :=
  (segments options source).map (ofSegments options.maxNesting source)

end Document

end Template
