import Template.Text.CategoryRanges

/-!
The general category of a character, and the classes of characters made from categories: what
prints as itself, and what joins the character before it.
-/

namespace Template

inductive Category where
  | uppercaseLetter | lowercaseLetter | titlecaseLetter | modifierLetter | otherLetter
  | nonspacingMark | spacingMark | enclosingMark
  | decimalNumber | letterNumber | otherNumber
  | connectorPunctuation | dashPunctuation | openPunctuation | closePunctuation
  | initialPunctuation | finalPunctuation | otherPunctuation
  | mathSymbol | currencySymbol | modifierSymbol | otherSymbol
  | spaceSeparator | lineSeparator | paragraphSeparator
  | control | format | privateUse | unassigned
deriving DecidableEq, Repr

namespace Category

def ranges : Category → List CodeRange
  | uppercaseLetter => uppercaseLetterRanges
  | lowercaseLetter => lowercaseLetterRanges
  | titlecaseLetter => titlecaseLetterRanges
  | modifierLetter => modifierLetterRanges
  | otherLetter => otherLetterRanges
  | nonspacingMark => nonspacingMarkRanges
  | spacingMark => spacingMarkRanges
  | enclosingMark => enclosingMarkRanges
  | decimalNumber => decimalNumberRanges
  | letterNumber => letterNumberRanges
  | otherNumber => otherNumberRanges
  | connectorPunctuation => connectorPunctuationRanges
  | dashPunctuation => dashPunctuationRanges
  | openPunctuation => openPunctuationRanges
  | closePunctuation => closePunctuationRanges
  | initialPunctuation => initialPunctuationRanges
  | finalPunctuation => finalPunctuationRanges
  | otherPunctuation => otherPunctuationRanges
  | mathSymbol => mathSymbolRanges
  | currencySymbol => currencySymbolRanges
  | modifierSymbol => modifierSymbolRanges
  | otherSymbol => otherSymbolRanges
  | spaceSeparator => spaceSeparatorRanges
  | lineSeparator => lineSeparatorRanges
  | paragraphSeparator => paragraphSeparatorRanges
  | control => controlRanges
  | format => formatRanges
  | privateUse => privateUseRanges
  | unassigned => []

def letters : List Category :=
  [lowercaseLetter, uppercaseLetter, titlecaseLetter, modifierLetter, otherLetter]

def marks : List Category := [nonspacingMark, spacingMark, enclosingMark]

def numbers : List Category := [decimalNumber, letterNumber, otherNumber]

def punctuation : List Category :=
  [connectorPunctuation, dashPunctuation, openPunctuation, closePunctuation,
    initialPunctuation, finalPunctuation, otherPunctuation]

def symbols : List Category := [mathSymbol, currencySymbol, modifierSymbol, otherSymbol]

def separators : List Category := [spaceSeparator, lineSeparator, paragraphSeparator]

/-- The categories that hold at least one character. -/
def assigned : List Category :=
  letters ++ numbers ++ punctuation ++ symbols ++ separators ++ marks ++
    [control, format, privateUse]

def other : List Category := [control, format, privateUse, unassigned]

/-- The category whose ranges hold the character. -/
def ofChar (c : Char) : Category :=
  (assigned.find? fun g => CodeRange.hold g.ranges c).getD unassigned

end Category

namespace Text

def inCategory (categories : List Category) (c : Char) : Bool :=
  categories.contains (Category.ofChar c)

/-- Vowel signs, joiners and letters that still attach to the character before them. -/
def otherGraphemeExtendRanges : List CodeRange :=
  [⟨0x9be, 0x9be, 1⟩, ⟨0x9d7, 0x9d7, 1⟩, ⟨0xb3e, 0xb3e, 1⟩, ⟨0xb57, 0xb57, 1⟩, ⟨0xbbe, 0xbbe, 1⟩,
    ⟨0xbd7, 0xbd7, 1⟩, ⟨0xcc0, 0xcc0, 1⟩, ⟨0xcc2, 0xcc2, 1⟩, ⟨0xcc7, 0xcc8, 1⟩, ⟨0xcca, 0xccb, 1⟩,
    ⟨0xcd5, 0xcd6, 1⟩, ⟨0xd3e, 0xd3e, 1⟩, ⟨0xd57, 0xd57, 1⟩, ⟨0xdcf, 0xdcf, 1⟩, ⟨0xddf, 0xddf, 1⟩,
    ⟨0x1715, 0x1715, 1⟩, ⟨0x1734, 0x1734, 1⟩, ⟨0x1b35, 0x1b35, 1⟩, ⟨0x1b3b, 0x1b3b, 1⟩,
    ⟨0x1b3d, 0x1b3d, 1⟩, ⟨0x1b43, 0x1b44, 1⟩, ⟨0x1baa, 0x1baa, 1⟩, ⟨0x1bf2, 0x1bf3, 1⟩,
    ⟨0x200c, 0x200c, 1⟩, ⟨0x302e, 0x302f, 1⟩, ⟨0xa953, 0xa953, 1⟩, ⟨0xa9c0, 0xa9c0, 1⟩,
    ⟨0xff9e, 0xff9f, 1⟩, ⟨0x111c0, 0x111c0, 1⟩, ⟨0x11235, 0x11235, 1⟩, ⟨0x1133e, 0x1133e, 1⟩,
    ⟨0x1134d, 0x1134d, 1⟩, ⟨0x11357, 0x11357, 1⟩, ⟨0x113b8, 0x113b8, 1⟩, ⟨0x113c2, 0x113c2, 1⟩,
    ⟨0x113c5, 0x113c5, 1⟩, ⟨0x113c7, 0x113c9, 1⟩, ⟨0x113cf, 0x113cf, 1⟩, ⟨0x114b0, 0x114b0, 1⟩,
    ⟨0x114bd, 0x114bd, 1⟩, ⟨0x115af, 0x115af, 1⟩, ⟨0x116b6, 0x116b6, 1⟩, ⟨0x11930, 0x11930, 1⟩,
    ⟨0x1193d, 0x1193d, 1⟩, ⟨0x11f41, 0x11f41, 1⟩, ⟨0x16ff0, 0x16ff1, 1⟩, ⟨0x1d165, 0x1d166, 1⟩,
    ⟨0x1d16d, 0x1d172, 1⟩, ⟨0xe0020, 0xe007f, 1⟩]

/-- Does the character attach to the one before it? -/
def extendsGrapheme (c : Char) : Bool :=
  inCategory [.nonspacingMark, .enclosingMark] c || CodeRange.hold otherGraphemeExtendRanges c

/-- Characters with a glyph of their own, and the blank. -/
def isPrintable (c : Char) : Bool :=
  c == ' ' || !inCategory (Category.other ++ Category.separators) c

end Text

end Template
