import Template.Number.Text
import Template.Options
import Template.Text.Blank
import Template.Text.Case
import Template.Value.Entries

/-!
Settings by name, from which options are read. A scalar of one kind is accepted for another where
it has a meaning there: a text that spells a number, a number for its text, a word for yes or no.
-/

namespace Template

inductive Setting where
  | flag (value : Bool)
  | integer (value : Int)
  | real (value : Float)
  | text (value : String)
  | list
  /-- A table with or without entries. No option is one, so it does not matter which. -/
  | table (inhabited : Bool)
deriving DecidableEq

abbrev Settings := Entries Setting

namespace Setting

/-- Counts stay below this bound. -/
def countBound : Nat := Nat.pow 2 64

def isYes (word : List Char) : Bool := word ∈ ["true".toList, "on".toList, "yes".toList]

def isNo (word : List Char) : Bool := word ∈ ["false".toList, "off".toList, "no".toList]

/-- A flag, a number that is or is not zero, or a word for yes or no. -/
def flag? : Setting → Option Bool
  | flag b => some b
  | integer n => some (n != 0)
  | real x => some !(x == 0)
  | text t =>
    let word := Text.lower t.toList
    if isYes word || word = ['1'] then some true
    else if isNo word || word = ['0'] then some false
    else none
  | _ => none

/-- The whole number nearest to `m * 2 ^ q`; a half goes up. -/
def nearest (m : Nat) (q : Int) : Nat :=
  if 0 ≤ q then m <<< q.toNat else (m + Nat.pow 2 ((-q).toNat - 1)) >>> (-q).toNat

/-- The nearest count. -/
def countOfReal (x : Float) : Nat :=
  match Number.parts x with
  | .finite false m q => min (nearest m q) (countBound - 1)
  | .infinite false => countBound - 1
  | _ => 0

/-- Decimal digits, with or without a plus in front. -/
def readCount? (cs : List Char) : Option Nat :=
  let digits := match cs with
    | '+' :: rest => rest
    | cs => cs
  if digits.isEmpty || !digits.all Char.isDigit then none
  else
    let n := Number.digitsValue digits
    if n < countBound then some n else none

def count? : Setting → Option Nat
  | flag b => some (if b then 1 else 0)
  | integer n => if 0 ≤ n && n < countBound then some n.toNat else none
  | real x => some (countOfReal x)
  | text t =>
    let word := Text.lower t.toList
    if isYes word then some 1 else if isNo word then some 0 else readCount? t.toList
  | _ => none

def text? : Setting → Option String
  | flag b => some (if b then "true" else "false")
  | integer n => some (toString n)
  | real x => some (Number.exactText x)
  | text t => some t
  | _ => none

end Setting

/-- Why settings give no options. -/
inductive SettingsError where
  /-- A text that is not written in the notation of settings. -/
  | malformed (text : String)
  | missingFile (name : String)
  | invalidKey (key : String)
  | missingSetting (name : String)
  /-- A setting that has no meaning for the option of that name. -/
  | invalidSetting (name : String)
deriving DecidableEq, Repr

namespace Settings

/-- The settings that give the options. -/
def ofOptions (o : Options) : Settings :=
  [("space_gobbling", .text o.gobbling.name),
    ("max_loop_iterations", .integer o.maxPasses),
    ("max_macro_depth", .integer o.maxCallDepth),
    ("max_parse_depth", .integer o.maxParseDepth),
    ("max_nesting_depth", .integer o.maxNesting),
    ("encoding", .text o.encoding),
    ("allow_macro_replace", .flag o.allowRedefinition),
    ("tolerant_loader", .flag o.tolerant)]

def read {α : Type} (convert : Setting → Option α) (name : String) (s : Settings) :
    Except SettingsError α :=
  match s.get? name with
  | none => .error (.missingSetting name)
  | some setting =>
    match convert setting with
    | none => .error (.invalidSetting name)
    | some a => .ok a

/-- The options that the settings give. Settings of other names say nothing. -/
def options (s : Settings) : Except SettingsError Options := do
  let gobbling ← s.read Setting.text? "space_gobbling"
  let maxPasses ← s.read Setting.count? "max_loop_iterations"
  let maxCallDepth ← s.read Setting.count? "max_macro_depth"
  let maxParseDepth ← s.read Setting.count? "max_parse_depth"
  let maxNesting ← s.read Setting.count? "max_nesting_depth"
  let encoding ← s.read Setting.text? "encoding"
  let allowRedefinition ← s.read Setting.flag? "allow_macro_replace"
  let tolerant ← s.read Setting.flag? "tolerant_loader"
  return { gobbling := .ofName gobbling, maxPasses, maxCallDepth, maxParseDepth, maxNesting,
           encoding, allowRedefinition, tolerant }

/-- Puts a setting over what is there under its name, whose case does not matter. A table without
entries changes nothing. -/
def overlay (name : String) (setting : Setting) (s : Settings) : Settings :=
  let name := String.ofList (Text.lower name.toList)
  if setting = .table false && s.contains name then s else s.put name setting

end Settings

/-- A key names a setting, or a part of one. -/
structure SettingKey where
  name : String
  goesDeeper : Bool
deriving DecidableEq, Repr

namespace SettingKey

/-- The characters of a name without quotes. -/
def isNameChar (c : Char) : Bool := c.isAlphanum || c == '_' || c == '-'

/-- The characters of a name between the marks of a key. -/
def isStepChar (c : Char) : Bool := isNameChar c || c == ' '

/-- A whole number between brackets, within 64 bits, and what follows. -/
def afterSubscript? (cs : List Char) : Option (List Char) :=
  let cs := cs.dropWhile Text.isBlank
  let (negative, cs) := match cs with
    | '-' :: rest => (true, rest)
    | cs => (false, cs)
  let digits := cs.takeWhile Char.isDigit
  let n := Number.digitsValue digits
  if digits.isEmpty || !(if negative then n ≤ Nat.pow 2 63 else n < Nat.pow 2 63) then none
  else
    match (cs.drop digits.length).dropWhile Text.isBlank with
    | ']' :: rest => some rest
    | _ => none

/-- Are there only steps to properties and places, at most `fuel`? -/
def areSteps : (fuel : Nat) → List Char → Bool
  | _, [] => true
  | 0, _ => false
  | fuel + 1, '.' :: cs =>
    match cs.takeWhile isStepChar with
    | [] => false
    | name => areSteps fuel (cs.drop name.length)
  | fuel + 1, '[' :: cs =>
    match afterSubscript? cs with
    | none => false
    | some rest => areSteps fuel rest
  | _, _ => false

def ofText? (text : String) : Option SettingKey :=
  let cs := text.toList
  let name := cs.takeWhile isStepChar
  let steps := cs.drop name.length
  if name.isEmpty || !areSteps steps.length steps then none
  else some ⟨String.ofList name, !steps.isEmpty⟩

end SettingKey

namespace Settings

/-- Puts a setting where the key says. What has parts is no scalar any more. -/
def assign (key : SettingKey) (setting : Setting) (s : Settings) : Settings :=
  s.overlay key.name (if key.goesDeeper then .table true else setting)

end Settings

end Template
