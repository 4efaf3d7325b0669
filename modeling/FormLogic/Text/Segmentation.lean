import FormLogic.Text.CharProperty
import FormLogic.Text.Script

/-!
# Where text may be divided

The classes of characters that decide where a character as a reader sees it, a word or
a sentence ends. They follow from other properties, with exceptions for single
characters. The ranges are those of version 16.0 of the standard.
-/
namespace FormLogic.Segmentation

open CharSet GeneralCategory CharProperty

def script (name : String) : CharSet := (Script.ofName? name).getD .empty

/-- What continues the character before it: marks and the modifiers of emoji. -/
def extend : Thunk CharSet := unions [graphemeExtend.get, mc.get, emojiModifier.get]

namespace Grapheme

/-- Controls, and ignorable code points that are not assigned. -/
def control : Thunk CharSet :=
  let ignorable := unassigned.get.intersection defaultIgnorable.get
  CharSet.difference (.unions [zl.get, zp.get, cc.get, cf.get, ignorable]) <|
    .union prependedConcatenationMark.get (.ofText "A D 200C-200D E0020-E007F")

/-- Marks that take room of their own. -/
def spacingMark : Thunk CharSet :=
  CharSet.union (.ofText "E33 EB3") <| mc.get.difference <| .union graphemeExtend.get <|
    .ofText "
    102B-102C 1038 1062-1064 1067-106D 1083 1087-108C 108F 109A-109C 1A61 1A63-1A64 AA7B AA7D
    11720-11721"

/-- Syllables of two letters: every twenty-eighth one. -/
def openSyllable : Thunk CharSet :=
  ofRanges ((List.range 399).map fun i => ⟨0xAC00 + 28 * i, 0xAC00 + 28 * i⟩)

def classes : List NamedCharSet :=
  [named ["cn", "control"] control,
    named ["cr"] (ofText "D"),
    named ["ex", "extend"] (graphemeExtend.get.union emojiModifier.get),
    named ["l"] (ofText "1100-115F A960-A97C"),
    named ["lf"] (ofText "A"),
    named ["lv"] openSyllable,
    named ["lvt"] ((range 0xAC00 0xD7A3).difference openSyllable.get),
    named ["pp", "prepend"] (prependedConcatenationMark.get.union
      (.ofText "D4E 111C2-111C3 113D1 1193F 11941 11A3A 11A84-11A89 11D46 11F02")),
    named ["ri", "regionalindicator"] regionalIndicator,
    named ["sm", "spacingmark"] spacingMark,
    named ["t"] (ofText "11A8-11FF D7CB-D7FB"),
    named ["v"] (ofText "1160-11A7 D7B0-D7C6 16D63 16D67-16D6A"),
    named ["zwj"] (ofText "200D")]

end Grapheme

namespace Word

/-- Katakana and the marks that go with it. -/
def katakana : Thunk CharSet :=
  (script "katakana").union (.ofText "3031-3035 309B-309C 30A0 30FC FF70")

def hebrew : Thunk CharSet := (script "hebrew").intersection lo.get

/-- Letters of scripts that are written with blanks between words. -/
def letters : Thunk CharSet :=
  let spaceless := ofText "
    E01-E30 E32-E33 E40-E46 E81-E82 E84 E86-E8A E8C-EA3 EA5 EA7-EB0 EB2-EB3 EBD EC0-EC4 EC6
    EDC-EDF 1000-102A 103F 1050-1055 105A-105D 1061 1065-1066 106E-1070 1075-1081 108E 1780-17B3
    17D7 17DC 1950-196D 1970-1974 1980-19AB 19B0-19C9 1A20-1A54 1AA7 A9E0-A9E4 A9E6-A9EF
    A9FA-A9FE AA60-AA76 AA7A AA7E-AAAF AAB1 AAB5-AAB6 AAB9-AABD AAC0 AAC2 AADB-AADD 11700-1171A
    11740-11746"
  let more := ofText "
    2C2-2C5 2D2-2D7 2DE-2DF 2E5-2EB 2ED 2EF-2FF 55A-55C 55E 58A 5F3 A708-A716 A720-A721
    A789-A78A AB5B"
  CharSet.union more <| alphabetic.get.difference <|
    .unions [ideographic.get, katakana.get, script "hiragana", extend.get, hebrew.get, spaceless]

def classes : List NamedCharSet :=
  [named ["aletter", "le"] letters,
    named ["cr"] (ofText "D"),
    named ["doublequote", "dq"] (ofText "22"),
    named ["extendnumlet", "ex"] (ofText "5F 202F 203F-2040 2054 FE33-FE34 FE4D-FE4F FF3F"),
    named ["extend"] extend,
    named ["format", "fo"] (cf.get.difference (.ofText "200B-200D E0020-E007F")),
    named ["hebrewletter", "hl"] hebrew,
    named ["katakana", "ka"] katakana,
    named ["lf"] (ofText "A"),
    named ["midnumlet", "mb"] (ofText "2E 2018-2019 2024 FE52 FF07 FF0E"),
    named ["midletter", "ml"] (ofText "3A B7 387 55F 5F4 2027 FE13 FE55 FF1A"),
    named ["midnum", "mn"] (ofText
      "2C 3B 37E 589 60C-60D 66C 7F8 2044 FE10 FE14 FE50 FE54 FF0C FF1B"),
    named ["newline", "nl"] (ofText "B-C 85 2028-2029"),
    named ["numeric", "nu"] (nd.get.union (.ofText "66B")),
    named ["regionalindicator", "ri"] regionalIndicator,
    named ["singlequote", "sq"] (ofText "27"),
    named ["wsegspace"] (ofText "20 1680 2000-2006 2008-200A 205F 3000"),
    named ["zwj"] (ofText "200D")]

end Word

namespace Sentence

/-- Small letters but those whose capitals never begin a sentence. -/
def lower : Thunk CharSet :=
  lowercase.get.difference (graphemeExtend.get.union (.ofText "10D0-10FA 10FD-10FF"))

/-- Capital letters but those that never begin a sentence. -/
def upper : Thunk CharSet := (uppercase.get.union lt.get).difference (.ofText "1C90-1CBA 1CBD-1CBF")

/-- Marks and the character that joins its neighbours. -/
def continued : Thunk CharSet := unions [graphemeExtend.get, mc.get, .ofText "200D"]

/-- Letters without case. -/
def letters : Thunk CharSet :=
  (alphabetic.get.union (.ofText "5F3")).difference (.unions [lower.get, upper.get, continued.get])

/-- Brackets and quotation marks. -/
def closing : Thunk CharSet :=
  let brackets := unions [ps.get, pe.get, pi.get, pf.get, quotationMark.get,
    .ofText "275B-2760 2E00-2E01 2E06-2E08 2E0B 1F676-1F678"]
  brackets.difference (.ofText "FF02 FF07")

def classes : List NamedCharSet :=
  [named ["aterm", "at"] (ofText "2E 2024 FE52 FF0E"),
    named ["close", "cl"] closing,
    named ["cr"] (ofText "D"),
    named ["extend", "ex"] continued,
    named ["format", "fo"] (cf.get.difference (.ofText "200C-200D E0020-E007F")),
    named ["oletter", "le"] letters,
    named ["lf"] (ofText "A"),
    named ["lower", "lo"] lower,
    named ["numeric", "nu"] (nd.get.union (.ofText "66B-66C")),
    named ["scontinue", "sc"] (ofText "
      2C-2D 3A-3B 37E 55D 60C-60D 7F8 1802 1808 2013-2014 3001 FE10-FE11 FE13-FE14 FE31-FE32
      FE50-FE51 FE54-FE55 FE58 FE63 FF0C-FF0D FF1A-FF1B FF64"),
    named ["sep", "se"] (ofText "85 2028-2029"),
    named ["sp"] (ofText "9 B-C 20 A0 1680 2000-200A 202F 205F 3000"),
    named ["sterm", "st"] (sentenceTerminal.get.difference (.ofText "2E 2024 FE52 FF0E")),
    named ["upper", "up"] upper]

end Sentence
end FormLogic.Segmentation
