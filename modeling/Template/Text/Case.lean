import Template.Text.CaseShifts
import Template.Text.Category

/-!
Capital and small forms of text. A form may be longer than the character it belongs to, and the
small form of the Greek sigma depends on its place in the word.
-/

namespace Template.Text

def upperChar (c : Char) : List Char :=
  match upperExpansions.lookup c.toNat with
  | some codes => codes.map Char.ofNat
  | none => [(CodeShift.image? upperShifts c).getD c]

/-- The small form of a character by itself. The dotted capital `i` keeps its dot as a mark. -/
def lowerChar (c : Char) : List Char :=
  if c.toNat == 0x130 then ['i', Char.ofNat 0x307]
  else [(CodeShift.image? lowerShifts c).getD c]

/-- The representative of a character under simple case folding. -/
def foldChar (c : Char) : Char :=
  match CodeShift.image? foldShifts c with
  | some d => d
  | none => (CodeShift.image? lowerShifts c).getD c

/-- Small forms that are no small letters. -/
def otherLowercaseRanges : List CodeRange :=
  [⟨0xaa, 0xaa, 1⟩, ⟨0xba, 0xba, 1⟩, ⟨0x2b0, 0x2b8, 1⟩, ⟨0x2c0, 0x2c1, 1⟩, ⟨0x2e0, 0x2e4, 1⟩,
    ⟨0x345, 0x345, 1⟩, ⟨0x37a, 0x37a, 1⟩, ⟨0x10fc, 0x10fc, 1⟩, ⟨0x1d2c, 0x1d6a, 1⟩,
    ⟨0x1d78, 0x1d78, 1⟩, ⟨0x1d9b, 0x1dbf, 1⟩, ⟨0x2071, 0x2071, 1⟩, ⟨0x207f, 0x207f, 1⟩,
    ⟨0x2090, 0x209c, 1⟩, ⟨0x2170, 0x217f, 1⟩, ⟨0x24d0, 0x24e9, 1⟩, ⟨0x2c7c, 0x2c7d, 1⟩,
    ⟨0xa69c, 0xa69d, 1⟩, ⟨0xa770, 0xa770, 1⟩, ⟨0xa7f2, 0xa7f4, 1⟩, ⟨0xa7f8, 0xa7f9, 1⟩,
    ⟨0xab5c, 0xab5f, 1⟩, ⟨0xab69, 0xab69, 1⟩, ⟨0x10780, 0x10780, 1⟩, ⟨0x10783, 0x10785, 1⟩,
    ⟨0x10787, 0x107b0, 1⟩, ⟨0x107b2, 0x107ba, 1⟩, ⟨0x1e030, 0x1e06d, 1⟩]

/-- Capital forms that are no capital letters. -/
def otherUppercaseRanges : List CodeRange :=
  [⟨0x2160, 0x216f, 1⟩, ⟨0x24b6, 0x24cf, 1⟩, ⟨0x1f130, 0x1f149, 1⟩, ⟨0x1f150, 0x1f169, 1⟩,
    ⟨0x1f170, 0x1f189, 1⟩]

def isLowercase (c : Char) : Bool :=
  CodeRange.hold Category.lowercaseLetterRanges c || CodeRange.hold otherLowercaseRanges c

def isUppercase (c : Char) : Bool :=
  CodeRange.hold Category.uppercaseLetterRanges c || CodeRange.hold otherUppercaseRanges c

def isCased (c : Char) : Bool :=
  isLowercase c || isUppercase c || CodeRange.hold Category.titlecaseLetterRanges c

/-- Apostrophes, full stops, colons and middle dots, which may stand inside a word. -/
def midWordRanges : List CodeRange :=
  [⟨0x27, 0x27, 1⟩, ⟨0x2e, 0x2e, 1⟩, ⟨0x3a, 0x3a, 1⟩, ⟨0xb7, 0xb7, 1⟩, ⟨0x387, 0x387, 1⟩,
    ⟨0x55f, 0x55f, 1⟩, ⟨0x5f4, 0x5f4, 1⟩, ⟨0x2018, 0x2019, 1⟩, ⟨0x2024, 0x2024, 1⟩,
    ⟨0x2027, 0x2027, 1⟩, ⟨0xfe13, 0xfe13, 1⟩, ⟨0xfe52, 0xfe52, 1⟩, ⟨0xfe55, 0xfe55, 1⟩,
    ⟨0xff07, 0xff07, 1⟩, ⟨0xff0e, 0xff0e, 1⟩, ⟨0xff1a, 0xff1a, 1⟩]

/-- Characters that are passed over when looking for a cased neighbour. -/
def isCaseIgnorable (c : Char) : Bool :=
  inCategory [.nonspacingMark, .enclosingMark, .format, .modifierLetter, .modifierSymbol] c ||
    CodeRange.hold midWordRanges c

/-- Is the first character that is not passed over a cased one? -/
def meetsCased (cs : List Char) : Bool :=
  match cs.dropWhile isCaseIgnorable with
  | [] => false
  | c :: _ => isCased c

def upper (cs : List Char) : List Char := cs.flatMap upperChar

/-- The small form of `cs` after the characters `before`, the nearest first. A capital sigma that
ends a word becomes the final form. -/
def lowerAfter (before : List Char) : List Char → List Char
  | [] => []
  | c :: cs =>
    let image :=
      if c.toNat == 0x3a3 then
        [if meetsCased before && !meetsCased cs then Char.ofNat 0x3c2 else Char.ofNat 0x3c3]
      else lowerChar c
    image ++ lowerAfter (c :: before) cs

def lower (cs : List Char) : List Char := lowerAfter [] cs

/-- The small form of the letters `A` to `Z`; nothing else changes. -/
def asciiLower (cs : List Char) : List Char :=
  cs.map fun c => if 'A' ≤ c && c ≤ 'Z' then Char.ofNat (c.toNat + 32) else c

end Template.Text
