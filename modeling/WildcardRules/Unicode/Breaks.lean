import WildcardRules.Unicode.Property
import WildcardRules.Unicode.Script

/-!
The parts that characters play where a text is divided into graphemes, words and sentences. Every
character plays at most one part in each division.
-/

set_option autoImplicit false

namespace WildcardRules.Unicode

def point (n : Nat) : CharSet := .range n n

def flagLetters : CharSet := listed "RI"

def prependedMarks : CharSet := listed "PCM"

def numerals : CharSet :=
  .unions [digits, setOf ["66B-66C"], prependedMarks.diff (point 0x70F)]

/-! ### Graphemes -/

def graphemeExtender : CharSet :=
  (graphemeExtend.union (listed "EMod")).diff (point 0x200D)

def graphemePrepended : CharSet :=
  prependedMarks.union (setOf
    ["D4E 111C2-111C3 113D1 1193F 11941 11A3A 11A84-11A89 11D46 11F02"])

def graphemeControl : CharSet :=
  (((Category.set [.lineSeparator, .paragraphSeparator, .control, .format]).union
    ((Category.set [.unassigned]).inter (listed "DI"))).diff
    (setOf ["A D 200C-200D"])).diff (prependedMarks.union graphemeExtender)

def freeSpacingMarks : CharSet :=
  setOf
    ["102B-102C 1038 1062-1064 1067-106D 1083 1087-108C 108F 109A-109C 1A61 1A63-1A64 AA7B AA7D",
      "11720-11721"]

def graphemeSpacing : CharSet :=
  (((Category.set [.spacingMark]).union (setOf ["E33 EB3"])).diff freeSpacingMarks).diff
    graphemeExtender

def openSyllables : CharSet :=
  .ofRanges ((List.range 399).map fun i => (0xAC00 + 28 * i, 0xAC00 + 28 * i))

def closedSyllables : CharSet := (CharSet.range 0xAC00 0xD7A3).diff openSyllables

def graphemeBreaks : List (List String × CharSet) :=
  [(["CR"], point 0xD), (["LF"], point 0xA), (["ZWJ"], point 0x200D),
    (["EX", "Extend"], graphemeExtender),
    (["CN", "Control"], graphemeControl),
    (["RI", "Regional_Indicator"], flagLetters),
    (["PP", "Prepend"], graphemePrepended),
    (["SM", "SpacingMark"], graphemeSpacing),
    (["L"], setOf ["1100-115F A960-A97C"]),
    (["V"], setOf ["1160-11A7 D7B0-D7C6 16D63 16D67-16D6A"]),
    (["T"], setOf ["11A8-11FF D7CB-D7FB"]),
    (["LV"], openSyllables),
    (["LVT"], closedSyllables)]

/-! ### Words -/

def wordExtender : CharSet := graphemeExtender.union
  ((Category.set [.spacingMark]).diff (point 0x200D))

def wordFormat : CharSet :=
  ((Category.set [.format]).diff (.range 0x200B 0x200D)).diff (prependedMarks.union wordExtender)

def wordKatakana : CharSet :=
  (ofScripts ["Kana"]).union (setOf ["3031-3035 309B-309C 30A0 30FC FF70"])

def wordHebrew : CharSet := (ofScripts ["Hebr"]).inter (Category.set [.otherLetter])

def letterlikeSigns : CharSet :=
  setOf
    ["B8 2C2-2C5 2D2-2D7 2DE-2DF 2E5-2EB 2ED 2EF-2FF 55A-55C 55E 58A 5F3 70F A708-A716 A720-A721",
      "A789-A78A AB5B"]

def undividedScripts : CharSet :=
  ofScripts ["Thai", "Laoo", "Mymr", "Khmr", "Tale", "Talu", "Lana", "Tavt", "Ahom", "Hira"]

def wordLetter : CharSet :=
  (alphabetic.union letterlikeSigns).diff
    (.unions [listed "Ideo", wordKatakana, undividedScripts, wordExtender, wordHebrew])

def wordMidNumber : CharSet :=
  setOf ["2C 3B 37E 589 60C-60D 66C 7F8 2044 FE10 FE14 FE50 FE54 FF0C FF1B"]

def wordBreaks : List (List String × CharSet) :=
  [(["CR"], point 0xD), (["LF"], point 0xA), (["ZWJ"], point 0x200D),
    (["NL", "Newline"], setOf ["B-C 85 2028-2029"]),
    (["Extend"], wordExtender),
    (["FO", "Format"], wordFormat),
    (["KA", "Katakana"], wordKatakana),
    (["HL", "Hebrew_Letter"], wordHebrew),
    (["LE", "ALetter"], wordLetter),
    (["SQ", "Single_Quote"], point 0x27),
    (["DQ", "Double_Quote"], point 0x22),
    (["MB", "MidNumLet"], setOf ["2E 2018-2019 2024 FE52 FF07 FF0E"]),
    (["ML", "MidLetter"], setOf ["3A B7 387 55F 5F4 2027 FE13 FE55 FF1A"]),
    (["MN", "MidNum"], wordMidNumber),
    (["NU", "Numeric"], numerals.diff (point 0x66C)),
    (["EX", "ExtendNumLet"], (Category.set [.connectorPunctuation]).union (point 0x202F)),
    (["RI", "Regional_Indicator"], flagLetters),
    (["WSegSpace"], (Category.set [.spaceSeparator]).diff (setOf ["A0 2007 202F"]))]

/-! ### Sentences -/

def sentenceExtender : CharSet :=
  .unions [graphemeExtend, point 0x200D, Category.set [.spacingMark]]

def sentenceFormat : CharSet :=
  ((Category.set [.format]).diff (.range 0x200C 0x200D)).diff (numerals.union sentenceExtender)

def sentenceLower : CharSet :=
  (lowercase.diff graphemeExtend).diff (setOf ["10D0-10FA 10FD-10FF"])

def sentenceUpper : CharSet :=
  (titlecase.union uppercase).diff (setOf ["1C90-1CBA 1CBD-1CBF"])

def sentenceLetter : CharSet :=
  (alphabetic.union (point 0x5F3)).diff
    (.unions [sentenceLower, sentenceUpper, sentenceExtender])

def sentenceContinue : CharSet :=
  setOf
    ["2C-2D 3A-3B 37E 55D 60C-60D 7F8 1802 1808 2013-2014 3001 FE10-FE11 FE13-FE14 FE31-FE32",
      "FE50-FE51 FE54-FE55 FE58 FE63 FF0C-FF0D FF1A-FF1B FF64"]

def fullStops : CharSet := setOf ["2E 2024 FE52 FF0E"]

def sentenceEnd : CharSet := (listed "STerm").diff fullStops

def sentenceClose : CharSet :=
  (((Category.set
      [.openPunctuation, .closePunctuation, .initialPunctuation, .finalPunctuation]).union
    (setOf ["22 27 275B-2760 2E00-2E01 2E06-2E08 2E0B 1F676-1F678"])).diff sentenceContinue).diff
    (fullStops.union sentenceEnd)

def sentenceBreaks : List (List String × CharSet) :=
  [(["CR"], point 0xD), (["LF"], point 0xA),
    (["SE", "Sep"], setOf ["85 2028-2029"]),
    (["EX", "Extend"], sentenceExtender),
    (["FO", "Format"], sentenceFormat),
    (["SP", "Sp"], whiteSpace.diff (setOf ["A D 85 2028-2029"])),
    (["LO", "Lower"], sentenceLower),
    (["UP", "Upper"], sentenceUpper),
    (["LE", "OLetter"], sentenceLetter),
    (["NU", "Numeric"], numerals),
    (["AT", "ATerm"], fullStops),
    (["SC", "SContinue"], sentenceContinue),
    (["ST", "STerm"], sentenceEnd),
    (["CL", "Close"], sentenceClose)]

end WildcardRules.Unicode
