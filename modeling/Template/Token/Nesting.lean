import Template.Markup.Error

/-!
The nesting of a token list. Every block up to its end, every bracket up to its closer and every
question mark inside the innermost open bracket is one level.
-/

namespace Template

/-- The open levels while a token list is read. -/
structure Nesting where
  /-- Question marks since the innermost opener. -/
  innermost : Nat
  /-- Question marks of the levels around it, nearest first. -/
  around : List Nat
  /-- Question marks of all open levels together. -/
  questions : Nat
deriving DecidableEq, Repr

namespace Nesting

def start : Nesting := ⟨0, [], 0⟩

def depth (n : Nesting) : Nat := n.around.length + n.questions

/-- A closer ends the innermost level, whatever opened it; at the top it does nothing. -/
def leave (n : Nesting) : Nesting :=
  match n.around with
  | [] => n
  | outer :: rest => ⟨outer, rest, n.questions - n.innermost⟩

def enter (n : Nesting) : Nesting := ⟨0, n.innermost :: n.around, n.questions⟩

def question (n : Nesting) : Nesting := ⟨n.innermost + 1, n.around, n.questions + 1⟩

def next (n : Nesting) (t : Token) : Nesting :=
  if t.opens then n.enter
  else if t = .symbol .question then n.question
  else if t.closes then n.leave
  else n

/-- Does the token make the nesting deeper? -/
def deepens (t : Token) : Bool := t.opens || t = .symbol .question

/-- The first token that takes the nesting over the limit. -/
def firstTooDeep? (limit : Nat) : Nesting → List Lexeme → Option Lexeme
  | _, [] => none
  | n, (t, span) :: rest =>
    let n' := n.next t
    if deepens t && limit < n'.depth then some (t, span) else firstTooDeep? limit n' rest

/-- Refuses a token list that is nested deeper than `limit` levels. -/
def check (source : String) (limit : Nat) (tokens : List Lexeme) : Except SyntaxError Unit :=
  match firstTooDeep? limit start tokens with
  | none => .ok ()
  | some (t, span) =>
    .error
      { fault := .nestingTooDeep limit
        rule := some .nesting
        expected := []
        found := some t
        position := (LineTable.ofSource source).position span.start
        span }

end Nesting

end Template
