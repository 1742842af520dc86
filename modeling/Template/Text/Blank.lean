import Template.Text.Ranges

/-!
White space. Three sets matter: the blanks of one line, the blanks that code skips, and all
characters that count as white space in text.
-/

namespace Template.Text

def whitespaceRanges : List CodeRange :=
  [⟨0x9, 0xd, 1⟩, ⟨0x20, 0x20, 1⟩, ⟨0x85, 0x85, 1⟩, ⟨0xa0, 0xa0, 1⟩, ⟨0x1680, 0x1680, 1⟩,
    ⟨0x2000, 0x200a, 1⟩, ⟨0x2028, 0x2029, 1⟩, ⟨0x202f, 0x202f, 1⟩, ⟨0x205f, 0x205f, 1⟩,
    ⟨0x3000, 0x3000, 1⟩]

def isWhitespace (c : Char) : Bool := CodeRange.hold whitespaceRanges c

/-- Blanks that may stand between a directive and its parenthesis. -/
def isBlank (c : Char) : Bool := c == ' ' || c == '\t'

/-- Blanks and line breaks, which mean nothing inside code. -/
def isCodeBlank (c : Char) : Bool := c == ' ' || c == '\t' || c == '\r' || c == '\n'

def trimStart (cs : List Char) : List Char := cs.dropWhile isWhitespace

def trim (cs : List Char) : List Char := (trimStart (trimStart cs).reverse).reverse

end Template.Text
