import Template.Text.Property
import Template.Text.ScriptTables

/-!
The classes of characters by which text is divided: into characters as they are seen, into words and
into sentences. Each character has one class of each kind.
-/

namespace Template.BreakClass

open Property

def script (code : String) : Property :=
  match Script.all.find? (·.names.contains code) with
  | some s => table s.table
  | none => ranges []

def zeroWidthJoiner : Property := table "200d"

def marks : Property := union graphemeExtend (categories [.spacingMark])

/-- Classes that divide text into characters as they are seen. -/
def grapheme : List (List String × Property) :=
  let extend := union graphemeExtend emojiModifier
  let leadingVowels := table "ac00-d788/1c"
  [(["control", "cn"],
      diff (unions [categories [.lineSeparator, .paragraphSeparator, .control, .format],
          diff defaultIgnorable assigned])
        (unions [extend, table "a d 200c-200d", prependedConcatenationMark])),
    (["cr"], table "d"),
    (["extend", "ex"], extend),
    (["l"], table "1100-115f a960-a97c"),
    (["lf"], table "a"),
    (["lv"], leadingVowels),
    (["lvt"], diff (table "ac00-d7a3") leadingVowels),
    (["prepend", "pp"],
      union prependedConcatenationMark
        (table "d4e 111c2-111c3 113d1 1193f 11941 11a3a 11a84-11a89 11d46 11f02")),
    (["regionalindicator", "ri"], regionalIndicator),
    (["spacingmark", "sm"],
      union (table "e33 eb3") (diff (categories [.spacingMark]) (union extend
        (table "102b-102c 1038 1062-1064 1067-106d 1083 1087-108c 108f 109a-109c 1a61 1a63-1a64
          aa7b aa7d 11720-11721")))),
    (["t"], table "11a8-11ff d7cb-d7fb"),
    (["v"], table "1160-11a7 d7b0-d7c6 16d63 16d67-16d6a"),
    (["zwj"], zeroWidthJoiner)]

/-- Marks before a number, which count as digits of it. -/
def numberMarks : Property := table "600-605 6dd 890-891 8e2 110bd 110cd"

def numeric : Property :=
  diff (unions [categories [.decimalNumber], numberMarks, table "66b"]) (table "19da")

def katakana : Property := union (script "kana") (table "3031-3035 309b-309c 30a0 30fc ff70")

def hebrewLetter : Property := table "5d0-5ea 5ef-5f2 fb1d fb1f-fb28 fb2a-fb36 fb38-fb3c fb3e
  fb40-fb41 fb43-fb44 fb46-fb4f"

/-- Letters of scripts that write words without gaps between them. -/
def gaplessLetters : Property :=
  table "e01-e3a e40-e4e e81-e82 e84 e86-e8a e8c-ea3 ea5 ea7-ebd ec0-ec4 ec6 ec8-ece edc-edf
    1000-103f 1050-108f 109a-109f 1780-17d3 17d7 17dc-17dd 1950-196d 1970-1974 1980-19ab
    19b0-19c9 19da 19de-19df 1a20-1a5e 1a60-1a7c 1aa0-1aad a9e0-a9ef a9fa-a9fe aa60-aac2
    aadb-aadf 11700-1171a 1171d-1172b 1173a-1173b 1173f-11746"

/-- Signs that are part of a word like letters. -/
def letterSigns : Property :=
  table "b8 2c2-2c5 2d2-2d7 2de-2df 2e5-2eb 2ed 2ef-2ff 55a-55c 55e 58a 5f3 70f a708-a716
    a720-a721 a789-a78a ab5b"

/-- Classes that divide text into words. -/
def word : List (List String × Property) :=
  let extend := diff (union marks emojiModifier) zeroWidthJoiner
  [(["aletter", "le"],
      diff (union alphabetic letterSigns) (unions [table ideographicTable, katakana, gaplessLetters,
        script "hira", extend, hebrewLetter])),
    (["cr"], table "d"),
    (["doublequote", "dq"], table "22"),
    (["extend"], extend),
    (["extendnumlet", "ex"], union (categories [.connectorPunctuation]) (table "202f")),
    (["format", "fo"],
      diff (categories [.format]) (unions [table "70f 200b-200d e0020-e007f", numberMarks])),
    (["hebrewletter", "hl"], hebrewLetter),
    (["katakana", "ka"], katakana),
    (["lf"], table "a"),
    (["midletter", "ml"], table "3a b7 387 55f 5f4 2027 fe13 fe55 ff1a"),
    (["midnum", "mn"], table "2c 3b 37e 589 60c-60d 66c 7f8 2044 fe10 fe14 fe50 fe54 ff0c ff1b"),
    (["midnumlet", "mb"], table "2e 2018-2019 2024 fe52 ff07 ff0e"),
    (["newline", "nl"], table "b-c 85 2028-2029"),
    (["numeric", "nu"], numeric),
    (["regionalindicator", "ri"], regionalIndicator),
    (["singlequote", "sq"], table "27"),
    (["wsegspace"], diff (categories [.spaceSeparator]) (table "a0 2007 202f")),
    (["zwj"], zeroWidthJoiner)]

/-- Classes that divide text into sentences. -/
def sentence : List (List String × Property) :=
  let extend := union marks zeroWidthJoiner
  let lower := diff lowercase (union graphemeExtend (table "10d0-10fa 10fd-10ff"))
  let upper := diff (union (categories [.titlecaseLetter]) uppercase) (table "1c90-1cba 1cbd-1cbf")
  let fullStop := table "2e 2024 fe52 ff0e"
  let terminal := diff (table sentenceTerminalTable) fullStop
  [(["aterm", "at"], fullStop),
    (["close", "cl"],
      diff (union (categories [.openPunctuation, .closePunctuation, .initialPunctuation,
          .finalPunctuation])
        (table "22 27 275b-2760 2e00-2e01 2e06-2e08 2e0b 1f676-1f678")) (union fullStop terminal)),
    (["cr"], table "d"),
    (["extend", "ex"], extend),
    (["format", "fo"],
      diff (categories [.format]) (union (table "200c-200d e0020-e007f") numberMarks)),
    (["lf"], table "a"),
    (["lower", "lo"], lower),
    (["numeric", "nu"], union numeric (table "66c")),
    (["oletter", "le"], diff (union alphabetic (table "5f3")) (unions [lower, upper, extend])),
    (["scontinue", "sc"],
      table "2c-2d 3a-3b 37e 55d 60c-60d 7f8 1802 1808 2013-2014 3001 fe10-fe11 fe13-fe14
        fe31-fe32 fe50-fe51 fe54-fe55 fe58 fe63 ff0c-ff0d ff1a-ff1b ff64"),
    (["sep", "se"], table "85 2028-2029"),
    (["sp"], diff whiteSpace (table "a d 85 2028-2029")),
    (["sterm", "st"], terminal),
    (["upper", "up"], upper)]

def ofName? (kind : List (List String × Property)) (name : String) : Option Property :=
  (kind.find? fun (names, _) => names.contains name).map (·.2)

end Template.BreakClass
