import Template.Text.Blank

/-!
Readers take characters from the front of a text, or fail.
-/

namespace Template.Toml

abbrev Reader := StateT (List Char) Option

namespace Reader

def atEnd : Reader Bool := do
  return (← get).isEmpty

def take : Reader Char := do
  match ← get with
  | [] => failure
  | c :: cs =>
    set cs
    return c

/-- Takes the text if it comes next, and tells whether it did. -/
def accept (text : List Char) : Reader Bool := do
  let cs ← get
  if text.isPrefixOf cs then
    set (cs.drop text.length)
    return true
  else return false

def acceptChar (c : Char) : Reader Bool := accept [c]

def expectChar (c : Char) : Reader Unit := do
  if ← acceptChar c then return () else failure

def takeWhile (p : Char → Bool) : Reader (List Char) := do
  let cs ← get
  let taken := cs.takeWhile p
  set (cs.drop taken.length)
  return taken

def remaining : Reader Nat := do
  return (← get).length

def blanks : Reader Unit := do
  let _ ← takeWhile Text.isBlank

def acceptNewline : Reader Bool := do
  if ← acceptChar '\n' then return true
  else accept ['\r', '\n']

/-- The characters of comments and literal texts: no control characters but the tab. -/
def isPlain (c : Char) : Bool := c == '\t' || (32 ≤ c.toNat && c.toNat != 127)

def comment : Reader Unit := do
  if ← acceptChar '#' then
    let _ ← takeWhile isPlain

/-- Blanks, a comment, and the end of the line or of the text. -/
def endOfLine : Reader Unit := do
  blanks
  comment
  if ← atEnd then return ()
  else if ← acceptNewline then return ()
  else failure

/-- Blanks and line ends, on at most `fuel` lines. -/
def emptyLines : (fuel : Nat) → Reader Unit
  | 0 => return ()
  | fuel + 1 => do
    blanks
    if ← acceptNewline then emptyLines fuel else return ()

/-- Blanks, comments and line ends, on at most `fuel` lines. -/
def blankLines : (fuel : Nat) → Reader Unit
  | 0 => return ()
  | fuel + 1 => do
    blanks
    comment
    if ← acceptNewline then blankLines fuel else return ()

def blankSpace : Reader Unit := do blankLines ((← remaining) + 1)

end Reader

end Template.Toml
