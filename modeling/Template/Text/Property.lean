import Template.Text.Blank
import Template.Text.Case
import Template.Text.CharSet
import Template.Text.PropertyTables

/-!
Properties of characters. A property is a rule that makes its set from a table, from general
categories or from other properties.
-/

namespace Template

/-- How a set of characters is made. -/
inductive Property where
  | table (ranges : String)
  | ranges (ranges : List CodeRange)
  | categories (all : List Category)
  | union (first second : Property)
  | diff (first second : Property)

namespace Property

/-- The characters in one of the categories. What is in no other category is unassigned. -/
def categorySet (all : List Category) : CharSet :=
  let held := CharSet.ofRanges (all.flatMap Category.ranges)
  if all.contains .unassigned then
    held.union (CharSet.ofRanges (Category.assigned.flatMap Category.ranges)).complement
  else held

def set : Property → CharSet
  | table text => CharSet.ofTable text
  | ranges rs => CharSet.ofRanges rs
  | categories all => categorySet all
  | union p q => p.set.union q.set
  | diff p q => p.set.diff q.set

def unions : List Property → Property
  | [] => ranges []
  | [p] => p
  | p :: ps => union p (unions ps)

def assigned : Property := categories Category.assigned

def whiteSpace : Property := ranges Text.whitespaceRanges

def lowercase : Property := union (categories [.lowercaseLetter]) (ranges Text.otherLowercaseRanges)

def uppercase : Property := union (categories [.uppercaseLetter]) (ranges Text.otherUppercaseRanges)

def cased : Property := unions [lowercase, uppercase, categories [.titlecaseLetter]]

def alphabetic : Property :=
  unions [lowercase, uppercase, categories (.letterNumber :: Category.letters),
    table otherAlphabeticTable]

def math : Property := union (categories [.mathSymbol]) (table otherMathTable)

def graphemeExtend : Property :=
  union (categories [.nonspacingMark, .enclosingMark]) (ranges Text.otherGraphemeExtendRanges)

/-- All that has a place of its own in a line. -/
def graphemeBase : Property :=
  diff (diff assigned (categories [.control, .format, .privateUse, .lineSeparator,
    .paragraphSeparator])) graphemeExtend

def caseIgnorable : Property :=
  union (categories [.nonspacingMark, .enclosingMark, .format, .modifierLetter, .modifierSymbol])
    (ranges Text.midWordRanges)

def joinControl : Property := table "200c-200d"

/-- Letters, marks, decimal digits, connecting punctuation and the two joiners. -/
def word : Property :=
  unions [alphabetic, joinControl,
    categories (.decimalNumber :: .connectorPunctuation :: Category.marks)]

def patternWhiteSpace : Property := table "9-d 20 85 200e-200f 2028-2029"

/-- What pattern languages keep for themselves cannot be part of a name. -/
def reserved : Property := union (table patternSyntaxTable) patternWhiteSpace

def otherIdStart : Property := table "1885-1886 2118 212e 309b-309c"

def otherIdContinue : Property := table "b7 387 1369-1371 19da 200c-200d 30fb ff65"

def idStart : Property :=
  diff (union (categories (.letterNumber :: Category.letters)) otherIdStart) reserved

def idContinue : Property :=
  diff (unions [idStart, otherIdContinue,
    categories [.nonspacingMark, .spacingMark, .decimalNumber, .connectorPunctuation]]) reserved

/-- Characters whose compatibility forms are no names, so that names stay names when they take that
form. -/
def unstableIdContinue : Property :=
  table "37a 309b-309c fc5e-fc63 fdfa-fdfb fe70-fe7e/2"

def xidStart : Property :=
  diff idStart (union unstableIdContinue (table "e33 eb3 ff9e-ff9f"))

def xidContinue : Property := diff idContinue unstableIdContinue

def mathStart : Property :=
  table "2202 2207 221e 1d6c1 1d6db 1d6fb 1d715 1d735 1d74f 1d76f 1d789 1d7a9 1d7c3"

def mathContinue : Property :=
  union mathStart (table "b2-b3 b9 2070 2074-207e 2080-208e")

def variationSelector : Property := table "180b-180d 180f fe00-fe0f e0100-e01ef"

def prependedConcatenationMark : Property := table "600-605 6dd 70f 890-891 8e2 110bd 110cd"

def otherDefaultIgnorable : Property :=
  table "34f 115f-1160 17b4-17b5 2065 3164 ffa0 fff0-fff8 e0000 e0002-e001f e0080-e00ff
    e01f0-e0fff"

/-- Characters that are not shown where they are not supported. -/
def defaultIgnorable : Property :=
  diff (unions [otherDefaultIgnorable, categories [.format], variationSelector])
    (unions [whiteSpace, table "fff9-fffb 13430-13440", prependedConcatenationMark])

/-- The last two code points of each plane, and thirty-two more. -/
def noncharacter : Property :=
  ranges (⟨0xfdd0, 0xfdef, 1⟩ :: (List.range 17).map fun n =>
    ⟨n * 0x10000 + 0xfffe, n * 0x10000 + 0xffff, 1⟩)

def emojiModifier : Property := table "1f3fb-1f3ff"

def regionalIndicator : Property := table "1f1e6-1f1ff"

def changesWhenLowercased : Property :=
  union (ranges (Text.lowerShifts.map (·.range))) (table "130")

def changesWhenUppercased : Property :=
  ranges (Text.upperShifts.map (·.range) ++ Text.upperExpansions.map fun (n, _) => ⟨n, n, 1⟩)

/-- Unlike the capital form, the form at the start of a word may be the character itself. -/
def changesWhenTitlecased : Property :=
  union (diff changesWhenUppercased
    (table "1c5-1cb/3 1f2 10d0-10fa 10fd-10ff 1f88-1f8f 1f98-1f9f 1fa8-1faf 1fbc-1fcc/10 1ffc"))
    (table "1c4-1ca/3 1f1")

/-- Unlike the small form, the folded form of a small letter may be another one. -/
def changesWhenCasefolded : Property :=
  union (diff changesWhenLowercased (table "13a0-13f5"))
    (table "b5 df 149 17f 345 3c2 3d0-3d1 3d5-3d6 3f0-3f1 3f5 587 13f8-13fd 1c80-1c88 1e9a-1e9b
      1f80-1f87 1f90-1f97 1fa0-1fa7 1fb2-1fb4 1fb7 1fc2-1fc4 1fc7 1ff2-1ff4 1ff7 ab70-abbf
      fb00-fb06 fb13-fb17")

def changesWhenCasemapped : Property :=
  unions [changesWhenLowercased, changesWhenUppercased, changesWhenTitlecased]

/-- The properties with their names in plain form. -/
def named : List (List String × Property) :=
  [(["alphabetic", "alpha"], alphabetic),
    (["asciihexdigit", "ahex"], table "30-39 41-46 61-66"),
    (["bidicontrol", "bidic"], table "61c 200e-200f 202a-202e 2066-2069"),
    (["bidimirrored", "bidim"], table bidiMirroredTable),
    (["caseignorable", "ci"], caseIgnorable),
    (["cased"], cased),
    (["changeswhencasefolded", "cwcf"], changesWhenCasefolded),
    (["changeswhencasemapped", "cwcm"], changesWhenCasemapped),
    (["changeswhenlowercased", "cwl"], changesWhenLowercased),
    (["changeswhentitlecased", "cwt"], changesWhenTitlecased),
    (["changeswhenuppercased", "cwu"], changesWhenUppercased),
    (["dash"], table dashTable),
    (["defaultignorablecodepoint", "di"], defaultIgnorable),
    (["deprecated", "dep"], table deprecatedTable),
    (["diacritic", "dia"], table diacriticTable),
    (["emoji"], table emojiTable),
    (["emojicomponent", "ecomp"],
      table "23 2a 30-39 200d 20e3 fe0f 1f1e6-1f1ff 1f3fb-1f3ff 1f9b0-1f9b3 e0020-e007f"),
    (["emojimodifier", "emod"], emojiModifier),
    (["emojimodifierbase", "ebase"], table emojiBaseTable),
    (["emojipresentation", "epres"], table emojiPresentationTable),
    (["extendedpictographic", "extpict"], table extendedPictographicTable),
    (["extender", "ext"], table extenderTable),
    (["graphemebase", "grbase"], graphemeBase),
    (["graphemeextend", "grext"], graphemeExtend),
    (["graphemelink", "grlink"], table graphemeLinkTable),
    (["hexdigit", "hex"], table "30-39 41-46 61-66 ff10-ff19 ff21-ff26 ff41-ff46"),
    (["hyphen"], table hyphenTable),
    (["idcompatmathcontinue"], mathContinue),
    (["idcompatmathstart"], mathStart),
    (["idcontinue", "idc"], idContinue),
    (["idstart", "ids"], idStart),
    (["ideographic", "ideo"], table ideographicTable),
    (["idsbinaryoperator", "idsb"], table "2ff0-2ff1 2ff4-2ffd 31ef"),
    (["idstrinaryoperator", "idst"], table "2ff2-2ff3"),
    (["idsunaryoperator", "idsu"], table "2ffe-2fff"),
    (["joincontrol", "joinc"], joinControl),
    (["logicalorderexception", "loe"], table logicalOrderExceptionTable),
    (["lowercase", "lower"], lowercase),
    (["math"], math),
    (["modifiercombiningmark", "mcm"],
      table "654-655 658 6dc 6e3 6e7-6e8 8ca-8cb 8cd-8cf 8d3 8f3"),
    (["noncharactercodepoint", "nchar"], noncharacter),
    (["otheralphabetic", "oalpha"], table otherAlphabeticTable),
    (["otherdefaultignorablecodepoint", "odi"], otherDefaultIgnorable),
    (["othergraphemeextend", "ogrext"], ranges Text.otherGraphemeExtendRanges),
    (["otheridcontinue", "oidc"], otherIdContinue),
    (["otheridstart", "oids"], otherIdStart),
    (["otherlowercase", "olower"], ranges Text.otherLowercaseRanges),
    (["othermath", "omath"], table otherMathTable),
    (["otheruppercase", "oupper"], ranges Text.otherUppercaseRanges),
    (["patternsyntax", "patsyn"], table patternSyntaxTable),
    (["patternwhitespace", "patws"], patternWhiteSpace),
    (["prependedconcatenationmark", "pcm"], prependedConcatenationMark),
    (["quotationmark", "qmark"], table quotationMarkTable),
    (["radical"], table "2e80-2e99 2e9b-2ef3 2f00-2fd5"),
    (["regionalindicator", "ri"], regionalIndicator),
    (["sentenceterminal", "sterm"], table sentenceTerminalTable),
    (["softdotted", "sd"], table softDottedTable),
    (["terminalpunctuation", "term"], table terminalPunctuationTable),
    (["unifiedideograph", "uideo"], table unifiedIdeographTable),
    (["uppercase", "upper"], uppercase),
    (["variationselector", "vs"], variationSelector),
    (["whitespace", "wspace", "space"], whiteSpace),
    (["xidcontinue", "xidc"], xidContinue),
    (["xidstart", "xids"], xidStart)]

def ofName? (name : String) : Option Property :=
  (named.find? fun (names, _) => names.contains name).map (·.2)

end Property

end Template
