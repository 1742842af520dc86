import Template.Markup.Error

/-!
Parsers over token lists, with ordered choice and unlimited look-ahead. A parser remembers the
failures of the attempts it gave up, so that the error in the end is the furthest failure of all;
failures at one token are merged.
-/

namespace Template.Markup

/-- A place in a token list. -/
structure Cursor where
  /-- How many tokens are behind. -/
  index : Nat
  /-- Where the token just behind stops. -/
  stop : Nat
  rest : List Lexeme

/-- The rule that a failure names. Failures of different rules at one place name none, until an
enclosing rule takes them over. -/
inductive Blame where
  | nobody
  | rule (r : Rule)
  | several
deriving DecidableEq, Repr

namespace Blame

def merge : Blame → Blame → Blame
  | nobody, b => b
  | a, nobody => a
  | rule a, rule b => if a = b then rule a else several
  | _, _ => several

/-- A rule takes over a failure that names no single rule. -/
def takenBy (r : Rule) : Blame → Blame
  | rule a => rule a
  | _ => rule r

def rule? : Blame → Option Rule
  | rule r => some r
  | _ => none

end Blame

/-- What was expected at the token with number `index`. -/
structure Failure where
  index : Nat
  expected : List Expectation
  blame : Blame
deriving Repr

namespace Failure

/-- The failure that got further; failures at one token are merged. -/
def furthest (a b : Failure) : Failure :=
  if a.index < b.index then b
  else if b.index < a.index then a
  else ⟨a.index, a.expected ++ b.expected.filter (!a.expected.contains ·), a.blame.merge b.blame⟩

def merge : Option Failure → Option Failure → Option Failure
  | none, b => b
  | a, none => a
  | some a, some b => some (a.furthest b)

def takenBy (r : Rule) (f : Failure) : Failure := { f with blame := f.blame.takenBy r }

end Failure

/-- A success carries the furthest failure among the attempts given up on the way. -/
inductive Outcome (α : Type) where
  | success (value : α) (next : Cursor) (missed : Option Failure)
  | failure (f : Failure)

def Parser (α : Type) : Type := Cursor → Outcome α

namespace Parser

variable {α β : Type}

protected def pure (value : α) : Parser α := fun c => .success value c none

protected def bind (p : Parser α) (f : α → Parser β) : Parser β := fun c =>
  match p c with
  | .failure e => .failure e
  | .success a next missed =>
    match f a next with
    | .failure e => .failure ((Failure.merge (some e) missed).getD e)
    | .success b last missed' => .success b last (Failure.merge missed missed')

instance : Monad Parser where
  pure := Parser.pure
  bind := Parser.bind

def fail : Parser α := fun c => .failure ⟨c.index, [], .nobody⟩

/-- A token for which `f` has a value. The failure expects nothing by name. -/
def select (f : Token → Option α) : Parser α := fun c =>
  match c.rest with
  | [] => .failure ⟨c.index, [], .nobody⟩
  | (t, span) :: rest =>
    match f t with
    | some value => .success value ⟨c.index + 1, span.stop, rest⟩ none
    | none => .failure ⟨c.index, [], .nobody⟩

/-- Exactly the token `t`. -/
def token (t : Token) : Parser Unit := fun c =>
  match c.rest with
  | [] => .failure ⟨c.index, [.token t], .nobody⟩
  | (t', span) :: rest =>
    if t' = t then .success () ⟨c.index + 1, span.stop, rest⟩ none
    else .failure ⟨c.index, [.token t], .nobody⟩

def symbol (s : Symbol) : Parser Unit := token (.symbol s)

def keyword (k : Keyword) : Parser Unit := token (.directive k)

def endOfInput : Parser Unit := fun c =>
  match c.rest with
  | [] => .success () c none
  | _ :: _ => .failure ⟨c.index, [.endOfInput], .nobody⟩

/-- The result with the span from the first token taken to the last. -/
def spanned (p : Parser α) : Parser (α × Span) := fun c =>
  match p c with
  | .failure e => .failure e
  | .success a next missed =>
    let start := match c.rest with
      | (_, span) :: _ => span.start
      | [] => next.stop
    .success (a, ⟨start, next.stop⟩) next missed

/-- Failures inside are blamed on the rule, unless an inner rule has taken them. -/
def labelled (r : Rule) (p : Parser α) : Parser α := fun c =>
  match p c with
  | .failure e => .failure (e.takenBy r)
  | .success a next missed => .success a next (missed.map (Failure.takenBy r))

/-- The first parser that succeeds. -/
def orElse (p q : Parser α) : Parser α := fun c =>
  match p c with
  | .success a next missed => .success a next missed
  | .failure e =>
    match q c with
    | .success a next missed => .success a next missed
    | .failure e' => .failure (e.furthest e')

def choice : List (Parser α) → Parser α
  | [] => fail
  | [p] => p
  | p :: ps => orElse p (choice ps)

def optional (p : Parser α) : Parser (Option α) := fun c =>
  match p c with
  | .success a next missed => .success (some a) next missed
  | .failure e => .success none c (some e)

/-- As often as the parser succeeds and takes something. -/
def many (p : Parser α) : Parser (List α) := fun c =>
  match p c with
  | .failure e => .success [] c (some e)
  | .success a next missed =>
    if next.rest.length < c.rest.length then
      match many p next with
      | .success as last missed' => .success (a :: as) last (Failure.merge missed missed')
      | .failure e => .failure e
    else .success [] c missed
termination_by c => c.rest.length

def manyOne (p : Parser α) : Parser (List α) := do
  let first ← p
  return first :: (← many p)

/-- Further items, each behind a separator. A separator without an item behind it is taken only
if `trailing` allows it. -/
def moreItems (trailing : Bool) (separator : Parser Unit) (item : Parser α) :
    Parser (List α) := fun c =>
  match separator c with
  | .failure e => .success [] c (some e)
  | .success _ behind missed =>
    match item behind with
    | .failure e => .success [] (if trailing then behind else c) (Failure.merge missed (some e))
    | .success a next missed' =>
      if next.rest.length < c.rest.length then
        match moreItems trailing separator item next with
        | .success as last missed'' =>
          .success (a :: as) last (Failure.merge (Failure.merge missed missed') missed'')
        | .failure e => .failure e
      else .success [] c missed
termination_by c => c.rest.length

/-- One or more items between separators. -/
def itemsOne (trailing : Bool) (separator : Parser Unit) (item : Parser α) :
    Parser (List α) := do
  let first ← item
  return first :: (← moreItems trailing separator item)

/-- Items between separators. -/
def items (trailing : Bool) (separator : Parser Unit) (item : Parser α) : Parser (List α) :=
  fun c =>
    match item c with
    | .failure e => .success [] c (some e)
    | .success a next missed =>
      match moreItems trailing separator item next with
      | .failure e => .failure e
      | .success as last missed' => .success (a :: as) last (Failure.merge missed missed')

/-- Something between two symbols. -/
def between (opener closer : Symbol) (p : Parser α) : Parser α := do
  symbol opener
  let a ← p
  symbol closer
  return a

def parenthesized (p : Parser α) : Parser α := between .openParen .closeParen p

/-- Runs a parser on a whole token list. -/
def parse (p : Parser α) (tokens : List Lexeme) : Except Failure α :=
  match p ⟨0, 0, tokens⟩ with
  | .success a _ _ => .ok a
  | .failure e => .error e

end Parser

namespace Failure

def sortedTexts (texts : List String) : List String :=
  (texts.mergeSort (fun a b => !(b < a))).eraseDups

/-- The failure as an error about the source that the tokens come from. -/
def toError (source : String) (tokens : List Lexeme) (f : Failure) : SyntaxError :=
  let place := tokens[f.index]?
  let stop := source.utf8ByteSize
  let span := (place.map Prod.snd).getD ⟨stop, stop⟩
  { fault := .unexpected
    rule := f.blame.rule?
    expected := sortedTexts (f.expected.map Expectation.describe)
    found := place.map Prod.fst
    position := (LineTable.ofSource source).position span.start
    span }

end Failure

end Template.Markup
