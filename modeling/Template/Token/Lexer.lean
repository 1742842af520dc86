import Template.Source.Bytes
import Template.Text.Blank
import Template.Token.Basic

/-!
The lexer. It is a machine that is in one of a few modes: free text, code between brackets, and
the places between the two, where one look at the next characters decides. Each step takes at
least one character, so the machine stops; what a step takes becomes a token or is skipped.
-/

namespace Template

inductive LexFault where
  | unterminatedString
  | unterminatedComment
  | unterminatedUnparsed
  | unexpected (c : Char)
deriving DecidableEq, Repr

/-- What went wrong, and at which byte. -/
structure LexError where
  fault : LexFault
  offset : Nat
deriving DecidableEq, Repr

namespace LexError

def message (e : LexError) : String :=
  match e.fault with
  | .unterminatedString => s!"unterminated string literal starting at byte {e.offset}"
  | .unterminatedComment => s!"unterminated block comment starting at byte {e.offset}"
  | .unterminatedUnparsed => s!"unterminated unparsed block starting at byte {e.offset}"
  | .unexpected c => s!"unexpected character {Text.quotedChar c} at byte {e.offset}"

end LexError

namespace Lexer

inductive Mode where
  | text
  /-- Behind a directive word: blanks and a parenthesis may follow. -/
  | arguments
  /-- Where a parenthesis opens code only if it follows at once. -/
  | call
  /-- Behind a reference: properties, calls and indexes may follow. -/
  | tail
  /-- Behind the dot of a property. -/
  | property
  /-- Behind the name of a property. -/
  | method
  /-- Inside `depth` open brackets, in the tail of a reference or not. -/
  | code (depth : Nat) (inTail : Bool)
  /-- Code from the start of the source to its end. -/
  | expression
deriving DecidableEq, Repr

/-- What a step does with the next characters. It takes one character and `more` behind it. -/
inductive Step where
  | emit (token : Token) (more : Nat) (next : Mode)
  | skip (more : Nat) (next : Mode)
  | fail (fault : LexFault)

def isNameStart (c : Char) : Bool := c.isAlpha || c == '_'

def isNameChar (c : Char) : Bool := c.isAlphanum || c == '_'

/-- The name at the front of the characters; empty if none starts there. -/
def nameAt : List Char → List Char
  | [] => []
  | c :: cs => if isNameStart c then c :: cs.takeWhile isNameChar else []

/-- How many characters stand before the first place where `needle` starts. -/
def find? (needle : List Char) : List Char → Option Nat
  | [] => if needle.isEmpty then some 0 else none
  | c :: cs =>
    if needle.isPrefixOf (c :: cs) then some 0 else (find? needle cs).map (· + 1)

/-- The token of a word that follows `#`. -/
def hashWord (name : List Char) : Token :=
  match Keyword.ofWord? name with
  | some k => .directive k
  | none => .macroCall (String.ofList name)

/-- The mode behind such a token. -/
def afterHashWord : Token → Mode
  | .directive k => if k.takesArguments then .arguments else .text
  | _ => .call

def hashWordStep (name : List Char) (more : Nat) : Step :=
  let token := hashWord name
  .emit token more (afterHashWord token)

def hashStep : List Char → Step
  | '#' :: cs =>
    let line := cs.takeWhile (· != '\n')
    .skip (1 + (cs.take (line.length + 1)).length) .text
  | '*' :: cs =>
    match find? ['*', '#'] cs with
    | some n => .skip (n + 3) .text
    | none => .fail .unterminatedComment
  | '[' :: '[' :: cs =>
    match find? [']', ']', '#'] cs with
    | some n => .emit (.unparsed (String.ofList (cs.take n))) (n + 5) .text
    | none => .fail .unterminatedUnparsed
  | '\x7b' :: cs =>
    match nameAt cs with
    | [] => .emit (.text "#") 0 .text
    | name =>
      match cs.drop name.length with
      | '\x7d' :: _ => hashWordStep name (name.length + 2)
      | _ => .fail (.unexpected '#')
  | cs =>
    match nameAt cs with
    | [] => .emit (.text "#") 0 .text
    | name => hashWordStep name name.length

/-- References look the same in text and in code. The result is the token and the number of
characters behind the dollar sign. -/
def reference? : List Char → Option (Token × Nat)
  | '!' :: '\x7b' :: _ => some (.formal true, 2)
  | '!' :: cs =>
    match nameAt cs with
    | [] => none
    | name => some (.reference (String.ofList name) true, name.length + 1)
  | '\x7b' :: _ => some (.formal false, 1)
  | cs =>
    match nameAt cs with
    | [] => none
    | name => some (.reference (String.ofList name) false, name.length)

def dollarStep (cs : List Char) : Step :=
  match reference? cs with
  | some (.formal quiet, n) => .emit (.formal quiet) n (.code 1 false)
  | some (token, n) => .emit token n .tail
  | none => .emit (.text "$") 0 .text

/-- The number of characters of a directive word, with or without braces, behind a `#`. -/
def directiveWord? (cs : List Char) : Option Nat :=
  match cs with
  | '\x7b' :: rest =>
    (Keyword.all.find? fun k => (k.word.toList ++ ['\x7d']).isPrefixOf rest).map
      fun k => k.word.length + 2
  | _ => (Keyword.all.find? fun k => k.word.toList.isPrefixOf cs).map fun k => k.word.length

/-- How many of `slashes` backslashes are taken together: as many pairs as there are, one at least.
The last pair of a longer run stands alone where nothing follows it. -/
def pairedSlashes (atEnd : Bool) (slashes : Nat) : Nat :=
  let whole := slashes - slashes % 2
  if atEnd && slashes == whole && 2 < slashes then whole - 2 else whole

/-- A run of backslashes, `more` behind the first, and what follows it. An odd run before a
directive word escapes the directive, and every pair of the rest stands for one backslash. Any
other run is text. -/
def slashStep (more : Nat) (rest : List Char) : Step :=
  let escape : Option Nat :=
    match rest with
    | '#' :: cs => if more % 2 == 0 then directiveWord? cs else none
    | _ => none
  match escape with
  | some n =>
    let content := List.replicate (more / 2) '\\' ++ rest.take (n + 1)
    .emit (.escaped (String.ofList content)) (more + n + 1) .text
  | none =>
    if more == 0 then .emit (.text "\\") 0 .text
    else
      let taken := pairedSlashes rest.isEmpty (more + 1)
      .emit (.text (String.ofList (List.replicate taken '\\'))) (taken - 1) .text

def isPlain (c : Char) : Bool := c != '#' && c != '$' && c != '\\' && c != '\n'

def textStep (c : Char) (cs : List Char) : Step :=
  if c == '#' then hashStep cs
  else if c == '$' then dollarStep cs
  else if c == '\\' then
    let more := (cs.takeWhile (· == '\\')).length
    slashStep more (cs.drop more)
  else if c == '\n' then .emit .newline 0 .text
  else
    let run := cs.takeWhile isPlain
    .emit (.text (String.ofList (c :: run))) run.length .text

/-- The number of characters up to the quote that closes a string literal. A backslash hides the
next character, and a doubled quote stands for one. -/
def stringLength? (quote : Char) : List Char → Option Nat
  | [] => none
  | [c] => if c = quote then some 1 else none
  | c :: d :: cs =>
    if c = '\\' then (stringLength? quote cs).map (· + 2)
    else if c = quote then
      if d = quote then (stringLength? quote cs).map (· + 2) else some 1
    else (stringLength? quote (d :: cs)).map (· + 1)

/-- The length of a fraction: a point and at least one digit. -/
def fractionLength : List Char → Nat
  | '.' :: cs =>
    let digits := (cs.takeWhile Char.isDigit).length
    if digits = 0 then 0 else digits + 1
  | _ => 0

/-- The length of an exponent: a letter, perhaps a sign, and at least one digit. -/
def exponentLength : List Char → Nat
  | c :: cs =>
    if c == 'e' || c == 'E' then
      let sign :=
        match cs with
        | s :: _ => if s == '+' || s == '-' then 1 else 0
        | [] => 0
      let digits := ((cs.drop sign).takeWhile Char.isDigit).length
      if digits = 0 then 0 else 1 + sign + digits
    else 0
  | [] => 0

/-- The length of what follows the first digit of a number. -/
def numberLength (cs : List Char) : Nat :=
  let whole := (cs.takeWhile Char.isDigit).length
  let fraction := fractionLength (cs.drop whole)
  let exponent := exponentLength (cs.drop (whole + fraction))
  whole + fraction + exponent

def wordToken (name : List Char) : Token :=
  let word := String.ofList name
  match ReservedWord.ofWord? word with
  | some w => .reserved w
  | none =>
    match Symbol.ofWord? word with
    | some s => .symbol s
    | none => .ident word

/-- The symbol at the front, with the number of characters behind its first. -/
def symbol? (c : Char) (next : Option Char) : Option (Symbol × Nat) :=
  match c, next with
  | '&', some '&' => some (.conj, 1)
  | '|', some '|' => some (.disj, 1)
  | '!', some '=' => some (.notEqual, 1)
  | '!', _ => some (.bang, 0)
  | '=', some '=' => some (.equal, 1)
  | '=', _ => some (.assign, 0)
  | '<', some '=' => some (.lessEqual, 1)
  | '<', _ => some (.less, 0)
  | '>', some '=' => some (.greaterEqual, 1)
  | '>', _ => some (.greater, 0)
  | '.', some '.' => some (.dots, 1)
  | '.', _ => some (.dot, 0)
  | '+', _ => some (.plus, 0)
  | '-', _ => some (.minus, 0)
  | '*', _ => some (.star, 0)
  | '/', _ => some (.slash, 0)
  | '%', _ => some (.percent, 0)
  | '?', _ => some (.question, 0)
  | ':', _ => some (.colon, 0)
  | ',', _ => some (.comma, 0)
  | '(', _ => some (.openParen, 0)
  | ')', _ => some (.closeParen, 0)
  | '[', _ => some (.openBracket, 0)
  | ']', _ => some (.closeBracket, 0)
  | '\x7b', _ => some (.openBrace, 0)
  | '\x7d', _ => some (.closeBrace, 0)
  | _, _ => none

/-- The token that starts with `c` in code, with the number of characters behind `c`. -/
def codeToken (c : Char) (cs : List Char) : Except LexFault (Token × Nat) :=
  if c == '$' then
    match reference? cs with
    | some found => .ok found
    | none => .error (.unexpected '$')
  else if c == '"' || c == '\'' then
    match stringLength? c cs with
    | some n => .ok (.str (String.ofList (c :: cs.take n)), n)
    | none => .error .unterminatedString
  else if c.isDigit then
    let n := numberLength cs
    .ok (.number (String.ofList (c :: cs.take n)), n)
  else if isNameStart c then
    let more := cs.takeWhile isNameChar
    .ok (wordToken (c :: more), more.length)
  else
    match symbol? c cs.head? with
    | some (s, n) => .ok (.symbol s, n)
    | none => .error (.unexpected c)

/-- The mode behind a token of code at `depth` open brackets. -/
def afterCode (token : Token) (depth : Nat) (inTail : Bool) : Mode :=
  if token.opens then .code (depth + 1) inTail
  else if token.closes then
    if depth ≤ 1 then (if inTail then .tail else .text) else .code (depth - 1) inTail
  else .code depth inTail

def codeStep (c : Char) (cs : List Char) (next : Token → Mode) (same : Mode) : Step :=
  if Text.isCodeBlank c then .skip (cs.takeWhile Text.isCodeBlank).length same
  else
    match codeToken c cs with
    | .ok (token, n) => .emit token n (next token)
    | .error fault => .fail fault

/-- A directive ends code whose brackets are still open. -/
def startsDirective (cs : List Char) : Bool :=
  (Text.trimStart cs).head? == some '#'

def tailStep (c : Char) (cs : List Char) : Step :=
  if c == '.' && !(nameAt cs).isEmpty then .emit (.symbol .dot) 0 .property
  else if c == '[' then .emit (.symbol .openBracket) 0 (.code 1 true)
  else textStep c cs

/-- What the machine does in a mode with the characters `c :: cs`. -/
def step (mode : Mode) (c : Char) (cs : List Char) : Step :=
  match mode with
  | .text => textStep c cs
  | .arguments =>
    if c == '(' then .emit (.symbol .openParen) 0 (.code 1 false)
    else
      let blanks := cs.takeWhile Text.isBlank
      if Text.isBlank c && (cs.drop blanks.length).head? == some '(' then
        .skip blanks.length .call
      else textStep c cs
  | .call =>
    if c == '(' then .emit (.symbol .openParen) 0 (.code 1 false) else textStep c cs
  | .tail => tailStep c cs
  | .property =>
    match nameAt (c :: cs) with
    | [] => textStep c cs
    | name => .emit (.ident (String.ofList name)) (name.length - 1) .method
  | .method =>
    if c == '(' then .emit (.symbol .openParen) 0 (.code 1 true) else tailStep c cs
  | .code depth inTail =>
    if startsDirective (c :: cs) then textStep c cs
    else codeStep c cs (afterCode · depth inTail) mode
  | .expression => codeStep c cs (fun _ => .expression) mode

/-- Runs the machine from a mode on the characters that start at `offset`. -/
def run (mode : Mode) (offset : Nat) (cs : List Char) : Except LexError (List Lexeme) :=
  match cs with
  | [] => .ok []
  | c :: rest =>
    match step mode c rest with
    | .emit token more next =>
      let stop := offset + Text.byteLength (c :: rest.take more)
      match run next stop (rest.drop more) with
      | .ok lexemes => .ok ((token, ⟨offset, stop⟩) :: lexemes)
      | .error e => .error e
    | .skip more next =>
      run next (offset + Text.byteLength (c :: rest.take more)) (rest.drop more)
    | .fail fault => .error ⟨fault, offset⟩
termination_by cs.length
decreasing_by all_goals simp only [List.length_drop, List.length_cons]; omega

end Lexer

/-- The tokens of a template. -/
def tokenize (source : String) : Except LexError (List Lexeme) :=
  Lexer.run .text 0 source.toList

/-- The tokens of a source that is code from start to end. -/
def tokenizeExpression (source : String) : Except LexError (List Lexeme) :=
  Lexer.run .expression 0 source.toList

end Template
