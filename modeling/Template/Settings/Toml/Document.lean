import Template.Settings.Toml.Scalar

/-!
A settings text: lines with keys and values, under headers of tables and of lists of tables. No
key is given twice and no table is opened twice, whichever way it is written.
-/

namespace Template.Toml

/-! ### Keys -/

def simpleKey : Reader String := do
  match (← get).head? with
  | some '"' => lineString '"'
  | some '\'' => lineString '\''
  | _ =>
    let name ← Reader.takeWhile SettingKey.isNameChar
    if name.isEmpty then failure else return String.ofList name

/-- Keys with dots between them: those in front, and the last. -/
def dottedKey : (fuel : Nat) → Reader (List String × String)
  | 0 => failure
  | fuel + 1 => do
    let name ← simpleKey
    Reader.blanks
    if ← Reader.acceptChar '.' then
      Reader.blanks
      let (front, last) ← dottedKey fuel
      return (name :: front, last)
    else return ([], name)

/-- Keys have fewer parts than this, and lists and tables in one another go less deep. -/
def depthBound : Nat := 80

def key : Reader (List String × String) := do
  let (front, last) ← dottedKey (← Reader.remaining)
  if front.length + 1 < depthBound then return (front, last) else failure

/-! ### What is there already -/

inductive Origin where
  | value
  /-- A table that a dotted key needs. -/
  | dotted
  /-- A table that a header below it needs. -/
  | implied
  | header
  | tables
deriving DecidableEq, Repr

/-- What is known under each path. The latest word counts. -/
abbrev Declared := List (List String × Origin)

/-- Goes down from a table; what is missing on the way is made. -/
def descend (dotted : Bool) (base : List String) : List String → Declared → Option Declared
  | [], known => some known
  | name :: names, known =>
    let path := base ++ [name]
    match known.lookup path with
    | none => descend dotted path names ((path, if dotted then .dotted else .implied) :: known)
    | some .value => none
    | some .header => if dotted then none else descend dotted path names known
    | some _ => descend dotted path names known

/-- Adds the value of a key to a table. -/
def addValue (base front : List String) (last : String) (known : Declared) : Option Declared := do
  let known ← descend true base front known
  let path := base ++ front ++ [last]
  if (!front.isEmpty && known.lookup (base ++ front) != some .dotted) || (known.lookup path).isSome
  then none
  else return (path, .value) :: known

/-- Opens a table. -/
def addTable (front : List String) (last : String) (known : Declared) : Option Declared := do
  let known ← descend false [] front known
  let path := front ++ [last]
  match known.lookup path with
  | none | some .implied => return (path, .header) :: known
  | some _ => none

/-- Opens the next table of a list of tables, in which nothing is known yet. -/
def addToTables (front : List String) (last : String) (known : Declared) : Option Declared := do
  let known ← descend false [] front known
  let path := front ++ [last]
  let fresh := known.filter fun (p, _) => !path.isPrefixOf p
  match known.lookup path with
  | none | some .tables => return (path, .tables) :: fresh
  | some _ => none

/-! ### Values -/

/-- Values with commas between them, up to the closing bracket. -/
def items {α : Type} (item : Reader α) : (fuel : Nat) → Reader Unit
  | 0 => failure
  | fuel + 1 => do
    Reader.blankSpace
    if ← Reader.acceptChar ']' then return ()
    else
      let _ ← item
      Reader.blankSpace
      if ← Reader.acceptChar ',' then items item fuel
      else Reader.expectChar ']'

/-- Keys and values with commas between them, up to the closing brace. -/
def pairs {α : Type} (item : Reader α) : (fuel : Nat) → Declared → Reader Unit
  | 0, _ => failure
  | fuel + 1, known => do
    Reader.blanks
    let (front, last) ← key
    Reader.expectChar '='
    Reader.blanks
    let _ ← item
    Reader.blanks
    match addValue [] front last known with
    | none => failure
    | some known =>
      if ← Reader.acceptChar ',' then pairs item fuel known
      else Reader.expectChar '\x7d'

def scalar : Reader Setting := do
  match (← get).head? with
  | some '"' => return .text (← string '"')
  | some '\'' => return .text (← string '\'')
  | _ => bare

/-- A value with lists and tables at most `depth` deep in one another. -/
def value : (depth : Nat) → Reader Setting
  | 0 => scalar
  | depth + 1 => do
    if ← Reader.acceptChar '[' then
      items (value depth) (← Reader.remaining)
      return .list
    else if ← Reader.acceptChar '\x7b' then
      Reader.blanks
      if ← Reader.acceptChar '\x7d' then return .table false
      else
        pairs (value depth) (← Reader.remaining) []
        return .table true
    else scalar

/-! ### Lines -/

/-- What the lines so far have given: the settings, all that is known, and the open table. -/
structure Progress where
  settings : Settings
  known : Declared
  table : List String

namespace Progress

def start : Progress := ⟨[], [], []⟩

/-- Notes what stands under a path. Whatever is more than a name long is in a table or list. -/
def note (path : List String) (setting : Setting) (p : Progress) : Progress :=
  match path with
  | [] => p
  | [name] =>
    if p.settings.contains name then p else { p with settings := p.settings.put name setting }
  | name :: _ =>
    if p.settings.get? name = some .list then p
    else { p with settings := p.settings.put name (.table true) }

end Progress

def pairLine (p : Progress) : Reader Progress := do
  let (front, last) ← key
  Reader.expectChar '='
  Reader.blanks
  let setting ← value (depthBound - 1)
  match addValue p.table front last p.known with
  | none => failure
  | some known => return { p.note (p.table ++ front ++ [last]) setting with known }

def headerLine (p : Progress) : Reader Progress := do
  Reader.blanks
  let (front, last) ← key
  Reader.expectChar ']'
  let path := front ++ [last]
  match addTable front last p.known with
  | none => failure
  | some known => return { p.note path (.table false) with known, table := path }

def tablesLine (p : Progress) : Reader Progress := do
  Reader.blanks
  let (front, last) ← key
  Reader.expectChar ']'
  Reader.expectChar ']'
  let path := front ++ [last]
  match addToTables front last p.known with
  | none => failure
  | some known => return { p.note path .list with known, table := path }

def line (p : Progress) : Reader Progress := do
  Reader.blanks
  match (← get).head? with
  | none | some '#' | some '\n' | some '\r' => return p
  | some '[' =>
    if ← Reader.accept ['[', '['] then tablesLine p
    else
      Reader.expectChar '['
      headerLine p
  | _ => pairLine p

def lines : (fuel : Nat) → Progress → Reader Settings
  | 0, p => return p.settings
  | fuel + 1, p => do
    if ← Reader.atEnd then return p.settings
    else
      let p ← line p
      Reader.endOfLine
      lines fuel p

/-- The settings that a text gives, by the keys of its outermost table. -/
def read? (text : String) : Option Settings :=
  let cs := match text.toList with
    | '\ufeff' :: cs => cs
    | cs => cs
  ((lines (cs.length + 1) .start).run cs).map Prod.fst

end Template.Toml
