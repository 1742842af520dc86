import Template.Source.LineTable
import Template.Token.Basic

/-!
Syntax errors. A source that does not fit the grammar is reported at the furthest token that any
attempt reached, with everything that would have been accepted there.
-/

namespace Template

/-- The parts of the grammar that an error can name. -/
inductive Rule where
  | identifier | reference | expression | mapKey | formalReference | close
  | ifDirective | variableName | setDirective | foreachDirective
  | parameter | definitionName | definition | invocation
  | evaluateDirective | parseDirective | includeDirective
  | nesting
deriving DecidableEq, Repr

namespace Rule

def name : Rule → String
  | identifier => "identifier"
  | reference => "reference"
  | expression => "expression"
  | mapKey => "map key"
  | formalReference => "formal reference"
  | close => "#end"
  | ifDirective => "if directive"
  | variableName => "variable"
  | setDirective => "set directive"
  | foreachDirective => "foreach directive"
  | parameter => "macro parameter"
  | definitionName => "macro name"
  | definition => "macro definition"
  | invocation => "macro invocation"
  | evaluateDirective => "evaluate directive"
  | parseDirective => "parse directive"
  | includeDirective => "include directive"
  | nesting => "nesting"

end Rule

/-- What would have been accepted at a place. -/
inductive Expectation where
  | token (t : Token)
  | endOfInput
deriving DecidableEq, Repr

namespace Expectation

def describe : Expectation → String
  | token t => t.describe
  | endOfInput => "end of input"

end Expectation

inductive SyntaxFault where
  /-- No rule accepts the token, or the end of the input. -/
  | unexpected
  | nestingTooDeep (limit : Nat)
deriving DecidableEq, Repr

structure SyntaxError where
  fault : SyntaxFault
  rule : Option Rule
  /-- Spellings in ascending order, without repetition. -/
  expected : List String
  found : Option Token
  position : Position
  span : Span
deriving Repr

namespace SyntaxError

def foundText (e : SyntaxError) : Option String := e.found.map Token.describe

def message (e : SyntaxError) : String :=
  match e.fault with
  | .unexpected => "unexpected " ++ e.foundText.getD "end of input"
  | .nestingTooDeep limit => s!"nesting deeper than {limit} levels"

def ruleText (e : SyntaxError) : String :=
  match e.rule with
  | some r => " in " ++ r.name
  | none => ""

def expectedText (e : SyntaxError) : String :=
  match e.expected with
  | [] => ""
  | texts => " (expected " ++ ", ".intercalate texts ++ ")"

/-- The whole error in one line. -/
def describe (e : SyntaxError) : String :=
  e.message ++ e.ruleText ++ " at " ++ e.position.toString ++ e.expectedText

end SyntaxError

end Template
