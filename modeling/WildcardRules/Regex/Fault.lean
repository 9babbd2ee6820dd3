import WildcardRules.Text

set_option autoImplicit false

namespace WildcardRules.Regex

structure Span where
  start : Nat
  stop : Nat
deriving DecidableEq

def Span.precedes (a b : Span) : Bool :=
  a.start < b.start || (a.start == b.start && a.stop ≤ b.stop)

inductive Cause where
  | classEscape
  | rangeOrder
  | rangeEnd
  | classUnclosed
  | number
  | hexEmpty
  | hexNumber
  | hexDigit
  | escapeUnfinished
  | escapeUnknown
  | hyphenDangling
  | hyphenRepeated
  | flagRepeated
  | flagUnknown
  | flagsUnfinished
  | nameRepeated
  | nameEmpty
  | nameCharacter
  | nameUnfinished
  | groupUnclosed
  | groupUnopened
  | tooDeep
  | countOrder
  | countEmpty
  | countUnclosed
  | nothingRepeated
  | edgeUnclosed
  | edgeUnknown
  | edgeUnfinished
  | propertyEscape
  | propertyUnknown
  | propertyValueUnknown
  | backreference
  | lookAround
  | beyondAscii
  | splitCharacters
deriving DecidableEq

def depthLimit : Nat := 250

def Cause.message : Cause → Text
  | classEscape => "invalid escape sequence found in character class".toList
  | rangeOrder => "invalid character class range, the start must be <= the end".toList
  | rangeEnd => "invalid range boundary, must be a literal".toList
  | classUnclosed => "unclosed character class".toList
  | number => "decimal literal invalid".toList
  | hexEmpty => "hexadecimal literal empty".toList
  | hexNumber => "hexadecimal literal is not a Unicode scalar value".toList
  | hexDigit => "invalid hexadecimal digit".toList
  | escapeUnfinished =>
      "incomplete escape sequence, reached end of pattern prematurely".toList
  | escapeUnknown => "unrecognized escape sequence".toList
  | hyphenDangling => "dangling flag negation operator".toList
  | hyphenRepeated => "flag negation operator repeated".toList
  | flagRepeated => "duplicate flag".toList
  | flagUnknown => "unrecognized flag".toList
  | flagsUnfinished => "expected flag but got end of regex".toList
  | nameRepeated => "duplicate capture group name".toList
  | nameEmpty => "empty capture group name".toList
  | nameCharacter => "invalid capture group character".toList
  | nameUnfinished => "unclosed capture group name".toList
  | groupUnclosed => "unclosed group".toList
  | groupUnopened => "unopened group".toList
  | tooDeep =>
      "exceed the maximum number of nested parentheses/brackets (".toList
        ++ Text.ofNat depthLimit ++ ")".toList
  | countOrder => "invalid repetition count range, the start must be <= the end".toList
  | countEmpty => "repetition quantifier expects a valid decimal".toList
  | countUnclosed => "unclosed counted repetition".toList
  | nothingRepeated => "repetition operator missing expression".toList
  | edgeUnclosed =>
      "special word boundary assertion is either unclosed or contains an invalid character".toList
  | edgeUnknown =>
      ("unrecognized special word boundary assertion, ".toList
        ++ "valid choices are: start, end, start-half or end-half".toList)
  | edgeUnfinished =>
      ("found either the beginning of a special word boundary or a bounded repetition ".toList
        ++ "on a \\b with an opening brace, but no closing brace".toList)
  | propertyEscape => "invalid Unicode character class".toList
  | propertyUnknown => "Unicode property not found".toList
  | propertyValueUnknown => "Unicode property value not found".toList
  | backreference => "backreferences are not supported".toList
  | lookAround => "look-around, including look-ahead and look-behind, is not supported".toList
  | beyondAscii => "Unicode not allowed here".toList
  | splitCharacters => "pattern can match invalid UTF-8".toList

structure Fault where
  cause : Cause
  span : Span
  other : Option Span := none
deriving DecidableEq

namespace Fault

structure Position where
  line : Nat
  column : Nat

def position (written : Text) (place : Nat) : Position :=
  let before := written.take place
  ⟨before.count '\n', (before.reverse.takeWhile (· != '\n')).length⟩

def linesOf (written : Text) : List Text :=
  let parts := written.splitOn '\n'
  let ended := parts.dropLast.map fun line => (['\r'].isSuffixOf? line).getD line
  ended ++ parts.getLast?.toList.filter fun line => !line.isEmpty

def spans (f : Fault) : List Span :=
  match f.other with
  | none => [f.span]
  | some other => if f.span.precedes other then [f.span, other] else [other, f.span]

def carets : (column : Nat) → List (Nat × Nat) → Text
  | _, [] => []
  | column, (start, stop) :: parts =>
      let blanks := start - column
      let width := max 1 (stop - start)
      List.replicate blanks ' ' ++ List.replicate width '^'
        ++ carets (column + blanks + width) parts

def partsIn (written : Text) (spans : List Span) (line : Nat) : List (Nat × Nat) :=
  spans.filterMap fun s =>
    let start := position written s.start
    let stop := position written s.stop
    if start.line = line ∧ stop.line = line then some (start.column, stop.column) else none

def marked (line caretLine margin : Text) : Text :=
  margin ++ line ++ ['\n'] ++
    if caretLine.isEmpty then [] else List.replicate margin.length ' ' ++ caretLine ++ ['\n']

def numbered (count number : Nat) : Text :=
  let digits := Text.ofNat number
  List.replicate ((Text.ofNat count).length - digits.length) ' ' ++ digits ++ ": ".toList

def severalLines (written : Text) (s : Span) : Option Text :=
  let start := position written s.start
  let stop := position written s.stop
  if start.line = stop.line then none
  else some ("on line ".toList ++ Text.ofNat (start.line + 1)
    ++ " (column ".toList ++ Text.ofNat (start.column + 1)
    ++ ") through line ".toList ++ Text.ofNat (stop.line + 1)
    ++ " (column ".toList ++ Text.ofNat stop.column ++ ")".toList)

def annotated (written : Text) (f : Fault) : Text :=
  let count := written.count '\n' + 1
  (linesOf written).zipIdx.flatMap fun entry =>
    marked entry.1 (carets 0 (partsIn written f.spans entry.2))
      (if count = 1 then "    ".toList else numbered count (entry.2 + 1))

def report (written : Text) (f : Fault) : Text :=
  let divider := List.replicate 79 '~' ++ ['\n']
  let notes := f.spans.filterMap (severalLines written)
  "regex parse error:\n".toList
    ++ (if written.contains '\n' then
          divider ++ annotated written f ++ divider
            ++ (if notes.isEmpty then [] else ['\n'].intercalate notes ++ ['\n'])
        else annotated written f)
    ++ "error: ".toList ++ f.cause.message

end Fault

end WildcardRules.Regex
