import Template.Text.AgeTable
import Template.Text.BreakClass

/-!
The named classes of characters: classes in brackets and colons, and classes by a property, a
general category, a script or another fact about characters.
-/

namespace Template.Pattern

/-- The classes written in brackets and colons hold ASCII characters only. -/
def bracketClass? (name : String) : Option CharSet :=
  match name with
  | "alnum" => some (.ofTable "30-39 41-5a 61-7a")
  | "alpha" => some (.ofTable "41-5a 61-7a")
  | "ascii" => some (.ofTable "0-7f")
  | "blank" => some (.ofTable "9 20")
  | "cntrl" => some (.ofTable "0-1f 7f")
  | "digit" => some (.ofTable "30-39")
  | "graph" => some (.ofTable "21-7e")
  | "lower" => some (.ofTable "61-7a")
  | "print" => some (.ofTable "20-7e")
  | "punct" => some (.ofTable "21-2f 3a-40 5b-60 7b-7e")
  | "space" => some (.ofTable "9-d 20")
  | "upper" => some (.ofTable "41-5a")
  | "word" => some (.ofTable "30-39 41-5a 5f 61-7a")
  | "xdigit" => some (.ofTable "30-39 41-46 61-66")
  | _ => none

/-- Categories and groups of categories by their short and long names, in small letters and
without blanks, hyphens and low lines. -/
def categoriesByName : List (String × List Category) :=
  [("lu", [.uppercaseLetter]), ("uppercaseletter", [.uppercaseLetter]),
    ("ll", [.lowercaseLetter]), ("lowercaseletter", [.lowercaseLetter]),
    ("lt", [.titlecaseLetter]), ("titlecaseletter", [.titlecaseLetter]),
    ("lc", [.uppercaseLetter, .lowercaseLetter, .titlecaseLetter]),
    ("casedletter", [.uppercaseLetter, .lowercaseLetter, .titlecaseLetter]),
    ("lm", [.modifierLetter]), ("modifierletter", [.modifierLetter]),
    ("lo", [.otherLetter]), ("otherletter", [.otherLetter]),
    ("l", Category.letters), ("letter", Category.letters),
    ("mn", [.nonspacingMark]), ("nonspacingmark", [.nonspacingMark]),
    ("mc", [.spacingMark]), ("spacingmark", [.spacingMark]),
    ("me", [.enclosingMark]), ("enclosingmark", [.enclosingMark]),
    ("m", Category.marks), ("mark", Category.marks), ("combiningmark", Category.marks),
    ("nd", [.decimalNumber]), ("decimalnumber", [.decimalNumber]), ("digit", [.decimalNumber]),
    ("nl", [.letterNumber]), ("letternumber", [.letterNumber]),
    ("no", [.otherNumber]), ("othernumber", [.otherNumber]),
    ("n", Category.numbers), ("number", Category.numbers),
    ("pc", [.connectorPunctuation]), ("connectorpunctuation", [.connectorPunctuation]),
    ("pd", [.dashPunctuation]), ("dashpunctuation", [.dashPunctuation]),
    ("ps", [.openPunctuation]), ("openpunctuation", [.openPunctuation]),
    ("pe", [.closePunctuation]), ("closepunctuation", [.closePunctuation]),
    ("pi", [.initialPunctuation]), ("initialpunctuation", [.initialPunctuation]),
    ("pf", [.finalPunctuation]), ("finalpunctuation", [.finalPunctuation]),
    ("po", [.otherPunctuation]), ("otherpunctuation", [.otherPunctuation]),
    ("p", Category.punctuation), ("punctuation", Category.punctuation),
    ("punct", Category.punctuation),
    ("sm", [.mathSymbol]), ("mathsymbol", [.mathSymbol]),
    ("sc", [.currencySymbol]), ("currencysymbol", [.currencySymbol]),
    ("sk", [.modifierSymbol]), ("modifiersymbol", [.modifierSymbol]),
    ("so", [.otherSymbol]), ("othersymbol", [.otherSymbol]),
    ("s", Category.symbols), ("symbol", Category.symbols),
    ("zs", [.spaceSeparator]), ("spaceseparator", [.spaceSeparator]),
    ("zl", [.lineSeparator]), ("lineseparator", [.lineSeparator]),
    ("zp", [.paragraphSeparator]), ("paragraphseparator", [.paragraphSeparator]),
    ("z", Category.separators), ("separator", Category.separators),
    ("cc", [.control]), ("control", [.control]), ("cntrl", [.control]),
    ("cf", [.format]), ("format", [.format]),
    ("co", [.privateUse]), ("privateuse", [.privateUse]),
    ("cn", [.unassigned]), ("unassigned", [.unassigned]),
    ("c", Category.other), ("other", Category.other),
    ("assigned", Category.assigned)]

/-- The name as tables have it: in small letters, without blanks, hyphens and low lines, and without
an `is` in front. The one name that would be left too short keeps its `is`. -/
def plainName (name : List Char) : String :=
  let small := Text.asciiLower name
  let named := small.take 2 == ['i', 's']
  let kept := (if named then small.drop 2 else small).filter fun c =>
    c.toNat < 128 && c != ' ' && c != '-' && c != '_'
  String.ofList (if named && kept == ['c'] then ['i', 's', 'c'] else kept)

def categoryClass? (name : String) : Option CharSet :=
  match name with
  | "any" => some .all
  | "ascii" => some (.ofTable "0-7f")
  | _ => (categoriesByName.lookup name).map Property.categorySet

/-- A script by one of its names. Two scripts have an old code, too. -/
def script? (name : String) : Option Script :=
  Script.all.find? fun s => s.names.contains name ||
    (name == "qaac" && s.names.contains "copt") || (name == "qaai" && s.names.contains "zinh")

def scriptClass? (name : String) : Option CharSet :=
  (script? name).map fun s => .ofTable s.table

/-- The characters that are used in a script: those of its own that no other script shares, and the
shared ones. -/
def scriptExtensionsClass? (name : String) : Option CharSet :=
  (script? name).map fun s =>
    let shared (test : List String → Bool) : CharSet :=
      .ofRanges ((Script.shared.filter fun (codes, _) => test codes).flatMap fun (_, table) =>
        CodeRange.ofTable table)
    ((CharSet.ofTable s.table).diff (shared fun _ => true)).union
      (shared fun codes => s.names.any codes.contains)

/-- The characters that were assigned in a version or before it. -/
def ageClass? (name : String) : Option CharSet :=
  let named (version : String) : Bool :=
    name == version || name == String.ofList ('v' :: version.toList.filter (· != '.'))
  let before := Age.table.takeWhile fun (version, _) => !named version
  (Age.table[before.length]?).map fun last =>
    .ofRanges ((before ++ [last]).flatMap fun (_, table) => CodeRange.ofTable table)

/-- A class by one name: of a property, a category or a script. Some short names of categories are
those of properties that have no class, and mean the category. -/
def namedClass? (name : String) : Option CharSet :=
  let property := if ["cf", "sc", "lc"].contains name then none else Property.ofName? name
  match property with
  | some p => some p.set
  | none =>
    match categoryClass? name with
    | some s => some s
    | none => scriptClass? name

/-- A class by a kind of fact and its value. -/
def valueClass? (kind value : String) : Option CharSet :=
  match kind with
  | "gc" | "generalcategory" => categoryClass? value
  | "sc" | "script" => scriptClass? value
  | "scx" | "scriptextensions" => scriptExtensionsClass? value
  | "age" => ageClass? value
  | "gcb" | "graphemeclusterbreak" =>
    (BreakClass.ofName? BreakClass.grapheme value).map Property.set
  | "wb" | "wordbreak" => (BreakClass.ofName? BreakClass.word value).map Property.set
  | "sb" | "sentencebreak" => (BreakClass.ofName? BreakClass.sentence value).map Property.set
  | _ => none

/-- The text before and behind the first place where `sign` stands. -/
def cutAt? (sign : List Char) : List Char → Option (List Char × List Char)
  | [] => none
  | c :: cs =>
    if sign.isPrefixOf (c :: cs) then some ([], (c :: cs).drop sign.length)
    else (cutAt? sign cs).map fun (before, behind) => (c :: before, behind)

/-- The class that a name stands for, or a kind of fact with a value behind `!=`, `:` or `=`, and
whether the class is meant to be turned over. -/
def propertyClass? (text : List Char) : Option (CharSet × Bool) :=
  let ofValue (kind value : List Char) : Option CharSet :=
    valueClass? (plainName kind) (plainName value)
  match cutAt? ['!', '='] text with
  | some (kind, value) => (ofValue kind value).map (·, true)
  | none =>
    match cutAt? [':'] text, cutAt? ['='] text with
    | some (kind, value), _ | none, some (kind, value) => (ofValue kind value).map (·, false)
    | none, none => (namedClass? (plainName text)).map (·, false)

end Template.Pattern
