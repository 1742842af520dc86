import Template.Markup.Gobbling

/-!
Gobbling by characters. The document is read as one list of characters and marks, cut into lines; each
line decides on its own which of its characters are kept, and the verdicts are followed in document
order.
-/

namespace Template.Markup

/-- What a line of the document is made of. -/
inductive Item where
  | char (c : Char)
  /-- A word that opens, continues or closes a block. -/
  | blockMark
  /-- Any other directive. -/
  | lineMark
  /-- A reference or an unparsed block. -/
  | content
deriving DecidableEq, Repr

namespace Item

def isMark : Item → Bool
  | blockMark | lineMark => true
  | _ => false

def isNewline : Item → Bool
  | char c => c == '\n'
  | _ => false

/-- Marks, blanks and line breaks: all that a directive line may hold. -/
def isSpacing : Item → Bool
  | char c => c == ' ' || c == '\t' || c == '\r' || c == '\n'
  | blockMark | lineMark => true
  | content => false

end Item

mutual

/-- The characters and marks of a segment, in document order. -/
def Segment.items : Segment → List Item
  | .text content _ => content.toList.map Item.char
  | .unparsed .. | .reference .. | .formal .. => [.content]
  | .conditional first rest otherwise _ _ =>
    Arm.items first ++ armItems rest ++ fallbackItems otherwise ++ [.blockMark]
  | .loop _ _ _ body otherwise _ _ =>
    .blockMark :: segmentItems body ++ fallbackItems otherwise ++ [.blockMark]
  | .define _ _ _ body _ _ => .blockMark :: segmentItems body ++ [.blockMark]
  | .assign .. | .leave .. | .stop .. | .macroCall .. | .evaluate .. | .parse .. | .embed .. =>
    [.lineMark]

def Arm.items : Arm → List Item
  | .mk _ _ body => .blockMark :: segmentItems body

def armItems : List Arm → List Item
  | [] => []
  | arm :: arms => Arm.items arm ++ armItems arms

def fallbackItems : Option Fallback → List Item
  | none => []
  | some (.mk _ body) => .blockMark :: segmentItems body

def segmentItems : List Segment → List Item
  | [] => []
  | segment :: segments => Segment.items segment ++ segmentItems segments

end

/-- Is this a line whose blanks the mode removes? -/
def isGobbled (mode : Gobbling) (line : List Item) : Bool :=
  let marks := line.filter Item.isMark
  line.all Item.isSpacing && !marks.isEmpty &&
    match mode with
    | .none => false
    | .bc | .lines => marks.length == 1
    | .structured => marks.length == 1 || marks.all (· == .blockMark)

/-- For each character of the line: is it kept? -/
def keptInLine (mode : Gobbling) (line : List Item) : List Bool :=
  if isGobbled mode line then
    match mode with
    | .bc => keptBeforeMark line
    | _ => line.filterMap fun
      | .char _ => some false
      | _ => none
  else
    line.filterMap fun
      | .char _ => some true
      | _ => none
where
  /-- The characters up to the mark are kept. -/
  keptBeforeMark : List Item → List Bool
    | [] => []
    | .char _ :: items => items.any Item.isMark :: keptBeforeMark items
    | _ :: items => keptBeforeMark items

/-- For each character of the document: is it kept? -/
def keptChars (mode : Gobbling) (items : List Item) : List Bool :=
  (cutAfter Item.isNewline items).flatMap (keptInLine mode)

/-- The characters that are kept, and the verdicts that belong to later text. -/
def keepChars : List Char → List Bool → List Char × List Bool
  | [], kept => ([], kept)
  | cs, [] => (cs, [])
  | c :: cs, keep :: kept =>
    let (cs', kept') := keepChars cs kept
    (if keep then c :: cs' else cs', kept')

mutual

/-- Removes the characters of a segment that are not kept. The verdicts are taken in document
order; those left over belong to the segments behind. -/
def Segment.keep (segment : Segment) (kept : List Bool) : Segment × List Bool :=
  match segment with
  | .text content span =>
    let (cs, kept) := keepChars content.toList kept
    (.text (String.ofList cs) span, kept)
  | .conditional first rest otherwise close span =>
    let (first, kept) := Arm.keep first kept
    let (rest, kept) := keepArms rest kept
    let (otherwise, kept) := keepFallback otherwise kept
    (.conditional first rest otherwise close span, kept)
  | .loop header item iterable body otherwise close span =>
    let (body, kept) := keepSegments body kept
    let (otherwise, kept) := keepFallback otherwise kept
    (.loop header item iterable body otherwise close span, kept)
  | .define header name parameters body close span =>
    let (body, kept) := keepSegments body kept
    (.define header name parameters body close span, kept)
  | other => (other, kept)

def Arm.keep (arm : Arm) (kept : List Bool) : Arm × List Bool :=
  match arm with
  | .mk header condition body =>
    let (body, kept) := keepSegments body kept
    (.mk header condition body, kept)

def keepArms (arms : List Arm) (kept : List Bool) : List Arm × List Bool :=
  match arms with
  | [] => ([], kept)
  | arm :: arms =>
    let (arm, kept) := Arm.keep arm kept
    let (arms, kept) := keepArms arms kept
    (arm :: arms, kept)

def keepFallback (fallback : Option Fallback) (kept : List Bool) : Option Fallback × List Bool :=
  match fallback with
  | none => (none, kept)
  | some (.mk header body) =>
    let (body, kept) := keepSegments body kept
    (some (.mk header body), kept)

def keepSegments (segments : List Segment) (kept : List Bool) : List Segment × List Bool :=
  match segments with
  | [] => ([], kept)
  | segment :: segments =>
    let (segment, kept) := Segment.keep segment kept
    let (segments, kept) := keepSegments segments kept
    (segment :: segments, kept)

end

/-- Gobbling, told by its verdicts on the characters. -/
def gobbleChars (mode : Gobbling) (segments : List Segment) : List Segment :=
  match mode with
  | .none => segments
  | _ => (keepSegments segments (keptChars mode (segmentItems segments))).1

end Template.Markup
