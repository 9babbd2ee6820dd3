import WildcardRules.Unicode.Category
import WildcardRules.Unicode.PropertyTable
import WildcardRules.Unicode.WhiteSpace

set_option autoImplicit false

namespace WildcardRules.Unicode

def listed (name : String) : CharSet :=
  match propertyRanges.find? fun entry => entry.1.contains name with
  | some entry => setOf entry.2
  | none => .empty

def letters : CharSet := Category.set (.letterNumber :: Category.letters)

def alphabetic : CharSet := letters.union (setOf otherAlphabetic)

def lowercase : CharSet := (Category.set [.lowercaseLetter]).union (setOf otherLowercase)

def uppercase : CharSet := (Category.set [.uppercaseLetter]).union (setOf otherUppercase)

def titlecase : CharSet := Category.set [.titlecaseLetter]

def digits : CharSet := Category.set [.decimalNumber]

def numbers : CharSet := Category.set Category.numbers

def joiners : CharSet := .range 0x200C 0x200D

def wordCharacters : CharSet :=
  .unions [alphabetic,
    Category.set (.decimalNumber :: .connectorPunctuation :: Category.marks), joiners]

def isAsciiHexDigit (c : Char) : Bool :=
  c.isDigit || ('a' ≤ c && c ≤ 'f') || ('A' ≤ c && c ≤ 'F')

def asciiHexDigits : CharSet := .ofRanges [(0x30, 0x39), (0x41, 0x46), (0x61, 0x66)]

def hexDigits : CharSet :=
  asciiHexDigits.union (.ofRanges [(0xFF10, 0xFF19), (0xFF21, 0xFF26), (0xFF41, 0xFF46)])

def cased : CharSet := .unions [titlecase, lowercase, uppercase]

def caseIgnorable : CharSet :=
  (Category.set
    [.nonspacingMark, .enclosingMark, .format, .modifierLetter, .modifierSymbol]).union
    (setOf otherCaseIgnorable)

def math : CharSet := (Category.set [.mathSymbol]).union (setOf otherMath)

def graphemeExtend : CharSet :=
  (Category.set [.nonspacingMark, .enclosingMark]).union (setOf otherGraphemeExtend)

def graphemeBase : CharSet :=
  (Category.set (.lineSeparator :: .paragraphSeparator :: Category.others)).compl.diff
    graphemeExtend

def nameStart : CharSet := (letters.diff (.range 0x2E2F 0x2E2F)).union (listed "OIDS")

def nameContinue : CharSet :=
  .unions [nameStart, listed "OIDC",
    Category.set [.nonspacingMark, .spacingMark, .decimalNumber, .connectorPunctuation]]

def incompatibleInNames : CharSet :=
  setOf ["37A 309B-309C FC5E-FC63 FDFA-FDFB FE70 FE72 FE74 FE76 FE78 FE7A FE7C FE7E"]

def stableNameStart : CharSet :=
  (nameStart.diff incompatibleInNames).diff (setOf ["E33 EB3 FF9E-FF9F"])

def stableNameContinue : CharSet := nameContinue.diff incompatibleInNames

def changesWhenLowercased : CharSet := (uppercase.union titlecase).diff (setOf capitalsAlone)

def changesWhenUppercased : CharSet := (lowercase.union titlecase).diff (setOf smallAlone)

def changesWhenTitlecased : CharSet :=
  ((changesWhenUppercased.diff titlecase).diff (setOf ["10D0-10FA 10FD-10FF"])).union
    (setOf ["1C4 1C7 1CA 1F1"])

def changesWhenMapped : CharSet :=
  .unions [changesWhenLowercased, changesWhenUppercased, changesWhenTitlecased]

def changesWhenFolded : CharSet :=
  (changesWhenLowercased.diff (.range 0x13A0 0x13F5)).union (setOf smallFolded)

def derivedProperties : List (List String × CharSet) :=
  [(["Alpha", "Alphabetic"], alphabetic),
    (["OAlpha", "Other_Alphabetic"], setOf otherAlphabetic),
    (["Lower", "Lowercase"], lowercase),
    (["OLower", "Other_Lowercase"], setOf otherLowercase),
    (["Upper", "Uppercase"], uppercase),
    (["OUpper", "Other_Uppercase"], setOf otherUppercase),
    (["Cased"], cased),
    (["CI", "Case_Ignorable"], caseIgnorable),
    (["CWL", "Changes_When_Lowercased"], changesWhenLowercased),
    (["CWU", "Changes_When_Uppercased"], changesWhenUppercased),
    (["CWT", "Changes_When_Titlecased"], changesWhenTitlecased),
    (["CWCM", "Changes_When_Casemapped"], changesWhenMapped),
    (["CWCF", "Changes_When_Casefolded"], changesWhenFolded),
    (["Math"], math),
    (["OMath", "Other_Math"], setOf otherMath),
    (["WSpace", "White_Space", "space"], whiteSpace),
    (["AHex", "ASCII_Hex_Digit"], asciiHexDigits),
    (["Hex", "Hex_Digit"], hexDigits),
    (["Join_C", "Join_Control"], joiners),
    (["Gr_Base", "Grapheme_Base"], graphemeBase),
    (["Gr_Ext", "Grapheme_Extend"], graphemeExtend),
    (["OGr_Ext", "Other_Grapheme_Extend"], setOf otherGraphemeExtend),
    (["IDS", "ID_Start"], nameStart),
    (["IDC", "ID_Continue"], nameContinue),
    (["XIDS", "XID_Start"], stableNameStart),
    (["XIDC", "XID_Continue"], stableNameContinue)]

end WildcardRules.Unicode
