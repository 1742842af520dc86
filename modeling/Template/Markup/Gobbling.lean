import Template.Markup.Basic
import Template.Source.Bytes
import Template.Text.Blank
import Template.Text.Case
import Template.Text.Quoted

/-!
Gobbling: lines that hold nothing but directives lose their blanks and their line break. A first walk
over the document numbers its texts and cuts them into pieces, in one list with the marks of the
directives. Each line of this list tells on its own which pieces it loses. A second walk counts the
texts in the same order, and takes the bytes of these pieces out of them.
-/

namespace Template

/-- Which directive lines lose their blanks. -/
inductive Gobbling where
  | none
  /-- Lines with one mark lose what follows the mark. -/
  | bc
  /-- Lines with one mark lose all their blanks. -/
  | lines
  /-- Like `lines`, and lines made of several block marks as well. -/
  | structured
deriving DecidableEq, Repr

namespace Gobbling

def name : Gobbling → String
  | none => "none"
  | bc => "bc"
  | lines => "lines"
  | structured => "structured"

def all : List Gobbling := [none, bc, lines, structured]

/-- The mode of that name; blanks around it and the case of its letters do not matter. -/
def ofName? (text : String) : Option Gobbling :=
  let word := Text.asciiLower (Text.trim text.toList)
  all.find? fun mode => mode.name.toList == word

/-- The mode of that name, or `lines` if there is none. -/
def ofName (text : String) : Gobbling := (ofName? text).getD lines

def unknownMessage (text : String) : String := "unknown space gobbling mode " ++ Text.quoted text

end Gobbling

namespace Markup

/-- What a piece of a text is made of. -/
inductive PieceKind where
  | blank
  | newline
  | word
deriving DecidableEq, Repr

def PieceKind.ofChar (c : Char) : PieceKind :=
  if c = '\n' then newline
  else if c = ' ' || c = '\t' || c = '\r' then blank
  else word

inductive MarkKind where
  /-- A word that opens, continues or closes a block. -/
  | block
  /-- Any other directive. -/
  | line
deriving DecidableEq, Repr

/-- What a line of the document is made of. -/
inductive Atom where
  /-- A run of bytes in the text of that number. -/
  | piece (text : Nat) (bytes : Span) (kind : PieceKind)
  | mark (kind : MarkKind)
  /-- A reference or an unparsed block. -/
  | content
deriving DecidableEq, Repr

namespace Atom

def isNewline : Atom → Bool
  | piece _ _ .newline => true
  | _ => false

def isMark : Atom → Bool
  | mark _ => true
  | _ => false

def mark? : Atom → Option MarkKind
  | mark kind => some kind
  | _ => none

/-- The number of a text and its bytes. -/
def bytes? : Atom → Option (Nat × Span)
  | piece text bytes _ => some (text, bytes)
  | _ => none

/-- Marks, blanks and line breaks: all that a directive line may hold. -/
def isSpacing : Atom → Bool
  | piece _ _ kind => kind != .word
  | mark _ => true
  | content => false

end Atom

/-- The pieces of the characters from offset `at_` on. There is an open piece, which is `kind` and
starts at `start`. Newlines do not join. -/
def piecesFrom (text : Nat) (kind : PieceKind) (start at_ : Nat) : List Char → List Atom
  | [] => [.piece text ⟨start, at_⟩ kind]
  | c :: cs =>
    let next := PieceKind.ofChar c
    if kind = next && next != .newline then piecesFrom text kind start (at_ + c.utf8Size) cs
    else .piece text ⟨start, at_⟩ kind :: piecesFrom text next at_ (at_ + c.utf8Size) cs

/-- The longest runs of blanks and of words in a text, and its newlines. -/
def pieces (text : Nat) : List Char → List Atom
  | [] => []
  | c :: cs => piecesFrom text (.ofChar c) 0 c.utf8Size cs

mutual

/-- The atoms of a segment in document order, where `n` texts stand before it, and the number of
texts up to its end. -/
def Segment.atoms (n : Nat) : Segment → List Atom × Nat
  | .text content _ => (pieces n content.toList, n + 1)
  | .unparsed .. | .reference .. | .formal .. => ([.content], n)
  | .conditional first rest otherwise _ _ =>
    let (first, n) := Arm.atoms n first
    let (rest, n) := armAtoms n rest
    let (otherwise, n) := fallbackAtoms n otherwise
    (first ++ rest ++ otherwise ++ [.mark .block], n)
  | .loop _ _ _ body otherwise _ _ =>
    let (body, n) := segmentAtoms n body
    let (otherwise, n) := fallbackAtoms n otherwise
    (.mark .block :: body ++ otherwise ++ [.mark .block], n)
  | .define _ _ _ body _ _ =>
    let (body, n) := segmentAtoms n body
    (.mark .block :: body ++ [.mark .block], n)
  | .assign .. | .leave .. | .stop .. | .macroCall .. | .evaluate .. | .parse .. | .embed .. =>
    ([.mark .line], n)

def Arm.atoms (n : Nat) : Arm → List Atom × Nat
  | .mk _ _ body =>
    let (body, n) := segmentAtoms n body
    (.mark .block :: body, n)

def armAtoms (n : Nat) : List Arm → List Atom × Nat
  | [] => ([], n)
  | arm :: arms =>
    let (arm, n) := Arm.atoms n arm
    let (arms, n) := armAtoms n arms
    (arm ++ arms, n)

def fallbackAtoms (n : Nat) : Option Fallback → List Atom × Nat
  | none => ([], n)
  | some (.mk _ body) =>
    let (body, n) := segmentAtoms n body
    (.mark .block :: body, n)

def segmentAtoms (n : Nat) : List Segment → List Atom × Nat
  | [] => ([], n)
  | segment :: segments =>
    let (segment, n) := Segment.atoms n segment
    let (segments, n) := segmentAtoms n segments
    (segment ++ segments, n)

end

/-- The parts that are cut off behind every element that ends one. -/
def cutAfter {α : Type} (ends : α → Bool) : List α → List (List α)
  | [] => []
  | x :: xs =>
    if ends x then [x] :: cutAfter ends xs
    else
      match cutAfter ends xs with
      | [] => [[x]]
      | part :: parts => (x :: part) :: parts

/-- Does a line with these marks lose its blanks, if there is nothing else in it? -/
def isEligible (mode : Gobbling) (marks : List MarkKind) : Bool :=
  match mode with
  | .none => false
  | .bc | .lines => marks.length == 1
  | .structured => marks.length == 1 || marks.all (· == .block)

/-- The place behind the last mark of the line, which is the first place if there is none. -/
def afterLastMark (line : List Atom) : Nat := line.length - line.reverse.findIdx Atom.isMark

/-- The bytes that a line loses, each with the number of its text. -/
def suppressed (mode : Gobbling) (line : List Atom) : List (Nat × Span) :=
  let marks := line.filterMap Atom.mark?
  if marks.isEmpty || !line.all Atom.isSpacing || !isEligible mode marks then []
  else
    let first := if mode = .bc then afterLastMark line else 0
    (line.drop first).filterMap Atom.bytes?

/-- Notes that a text of that number loses the bytes, if there is such a text. -/
def cut? (cuts : List (List Span)) (bytes : Nat × Span) : Option (List (List Span)) :=
  if bytes.1 < cuts.length then some (cuts.modify bytes.1 (· ++ [bytes.2])) else none

/-- The text from a byte on without these ranges. They have to ascend without overlapping, and to
begin and end between characters. -/
def removeRanges? (start : Nat) (text : List Char) : List Span → Option (List Char)
  | [] => Text.dropBytes? start text
  | range :: ranges => do
    let front ← Text.slice? start range.start text
    let behind ← removeRanges? range.stop text ranges
    return front ++ behind

mutual

/-- Takes the cuts out of the texts of a segment, where `n` texts stand before it, and counts the
texts up to its end. -/
def Segment.edit? (cuts : List (List Span)) (n : Nat) : Segment → Option (Segment × Nat)
  | .text content span =>
    match cuts[n]? with
    | some (range :: ranges) => do
      let kept ← removeRanges? 0 content.toList (range :: ranges)
      return (.text (String.ofList kept) span, n + 1)
    | _ => some (.text content span, n + 1)
  | .conditional first rest otherwise close span => do
    let (first, n) ← Arm.edit? cuts n first
    let (rest, n) ← editArms? cuts n rest
    let (otherwise, n) ← editFallback? cuts n otherwise
    return (.conditional first rest otherwise close span, n)
  | .loop header item iterable body otherwise close span => do
    let (body, n) ← editSegments? cuts n body
    let (otherwise, n) ← editFallback? cuts n otherwise
    return (.loop header item iterable body otherwise close span, n)
  | .define header name parameters body close span => do
    let (body, n) ← editSegments? cuts n body
    return (.define header name parameters body close span, n)
  | other => some (other, n)

def Arm.edit? (cuts : List (List Span)) (n : Nat) : Arm → Option (Arm × Nat)
  | .mk header condition body => do
    let (body, n) ← editSegments? cuts n body
    return (.mk header condition body, n)

def editArms? (cuts : List (List Span)) (n : Nat) : List Arm → Option (List Arm × Nat)
  | [] => some ([], n)
  | arm :: arms => do
    let (arm, n) ← Arm.edit? cuts n arm
    let (arms, n) ← editArms? cuts n arms
    return (arm :: arms, n)

def editFallback? (cuts : List (List Span)) (n : Nat) :
    Option Fallback → Option (Option Fallback × Nat)
  | none => some (none, n)
  | some (.mk header body) => do
    let (body, n) ← editSegments? cuts n body
    return (some (.mk header body), n)

def editSegments? (cuts : List (List Span)) (n : Nat) :
    List Segment → Option (List Segment × Nat)
  | [] => some ([], n)
  | segment :: segments => do
    let (segment, n) ← Segment.edit? cuts n segment
    let (segments, n) ← editSegments? cuts n segments
    return (segment :: segments, n)

end

/-- Removes the blanks of directive lines, if every cut falls between characters of the text that it
is meant for. -/
def gobble? (mode : Gobbling) (segments : List Segment) : Option (List Segment) :=
  match mode with
  | .none => some segments
  | _ => do
    let (atoms, count) := segmentAtoms 0 segments
    let ranges := (cutAfter Atom.isNewline atoms).flatMap (suppressed mode)
    let cuts ← ranges.foldlM cut? (List.replicate count [])
    let (segments, _) ← editSegments? cuts 0 segments
    return segments

/-- Removes the blanks of directive lines. -/
def gobble (mode : Gobbling) (segments : List Segment) : List Segment :=
  (gobble? mode segments).getD segments

end Markup

end Template
