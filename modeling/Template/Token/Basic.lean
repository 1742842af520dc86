import Template.Source.Span
import Template.Text.Quoted

/-!
Tokens of template source: literal text, directives, references, and the words and symbols of the
code between brackets.
-/

namespace Template

/-- The words that name directives. -/
inductive Keyword where
  | ifThen | elseIf | otherwise | close | assign | forEach | leave | stop
  | define | evaluate | parse | embed
deriving DecidableEq, Repr

namespace Keyword

def word : Keyword → String
  | ifThen => "if"
  | elseIf => "elseif"
  | otherwise => "else"
  | close => "end"
  | assign => "set"
  | forEach => "foreach"
  | leave => "break"
  | stop => "stop"
  | define => "macro"
  | evaluate => "evaluate"
  | parse => "parse"
  | embed => "include"

/-- All keywords, a longer one before the one it begins with. -/
def all : List Keyword :=
  [ifThen, elseIf, otherwise, close, assign, forEach, leave, stop, define, evaluate, parse, embed]

def ofWord? (name : List Char) : Option Keyword :=
  all.find? fun k => k.word.toList == name

/-- Is the keyword followed by a parenthesis? -/
def takesArguments : Keyword → Bool
  | otherwise | close | leave | stop => false
  | _ => true

end Keyword

/-- Operators and punctuation. -/
inductive Symbol where
  | plus | minus | star | slash | percent
  | equal | notEqual | less | lessEqual | greater | greaterEqual
  | conj | disj | bang | assign | question | colon | dots | dot | comma
  | openParen | closeParen | openBracket | closeBracket | openBrace | closeBrace
deriving DecidableEq, Repr

namespace Symbol

def text : Symbol → String
  | plus => "+"
  | minus => "-"
  | star => "*"
  | slash => "/"
  | percent => "%"
  | equal => "=="
  | notEqual => "!="
  | less => "<"
  | lessEqual => "<="
  | greater => ">"
  | greaterEqual => ">="
  | conj => "&&"
  | disj => "||"
  | bang => "!"
  | assign => "="
  | question => "?"
  | colon => ":"
  | dots => ".."
  | dot => "."
  | comma => ","
  | openParen => "("
  | closeParen => ")"
  | openBracket => "["
  | closeBracket => "]"
  | openBrace => "\x7b"
  | closeBrace => "\x7d"

/-- The operators that are also written as words. -/
def ofWord? : String → Option Symbol
  | "and" => some conj
  | "or" => some disj
  | "not" => some bang
  | "eq" => some equal
  | "ne" => some notEqual
  | "lt" => some less
  | "le" => some lessEqual
  | "gt" => some greater
  | "ge" => some greaterEqual
  | _ => none

end Symbol

/-- Words with a meaning of their own inside code. -/
inductive ReservedWord where
  | yes | no | null | inside
deriving DecidableEq, Repr

namespace ReservedWord

def word : ReservedWord → String
  | yes => "true"
  | no => "false"
  | null => "null"
  | inside => "in"

def ofWord? : String → Option ReservedWord
  | "true" => some yes
  | "false" => some no
  | "null" => some null
  | "in" => some inside
  | _ => none

end ReservedWord

inductive Token where
  /-- A run of literal text. -/
  | text (content : String)
  | newline
  /-- The body of an unparsed block, without its delimiters. -/
  | unparsed (body : String)
  /-- An escaped directive, reduced to the text it stands for. -/
  | escaped (content : String)
  | directive (keyword : Keyword)
  | macroCall (name : String)
  | reference (name : String) (quiet : Bool)
  /-- The opening of a reference in braces. -/
  | formal (quiet : Bool)
  | ident (name : String)
  /-- A string literal with its quotes. -/
  | str (raw : String)
  | number (raw : String)
  | reserved (word : ReservedWord)
  | symbol (s : Symbol)
deriving DecidableEq, Repr

/-- A token and the bytes it covers. -/
abbrev Lexeme := Token × Span

namespace Token

/-- The spelling of a token in messages. -/
def describe : Token → String
  | text content => "text " ++ Text.quoted content
  | newline => "newline"
  | unparsed _ => "#[[...]]#"
  | escaped content => "\\" ++ content
  | directive k => "#" ++ k.word
  | macroCall name => "#" ++ name
  | reference name false => "$" ++ name
  | reference name true => "$!" ++ name
  | formal false => "$\x7b"
  | formal true => "$!\x7b"
  | ident name => name
  | str raw => raw
  | number raw => raw
  | reserved w => w.word
  | symbol s => s.text

/-- Literal text, line breaks included. -/
def isText : Token → Bool
  | text _ | newline | escaped _ => true
  | _ => false

/-- Tokens that begin with a directive word. -/
def isDirective : Token → Bool
  | directive _ | macroCall _ => true
  | _ => false

/-- Tokens that open a level of nesting. -/
def opens : Token → Bool
  | directive .ifThen | directive .forEach | directive .define => true
  | formal _ => true
  | symbol .openParen | symbol .openBracket | symbol .openBrace => true
  | _ => false

/-- Tokens that close a level of nesting. -/
def closes : Token → Bool
  | directive .close => true
  | symbol .closeParen | symbol .closeBracket | symbol .closeBrace => true
  | _ => false

end Token

end Template
