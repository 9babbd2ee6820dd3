import WildcardRules.Regex
import WildcardRules.Unicode.CaseFolding
import WildcardRules.Unicode.Property

set_option autoImplicit false

namespace WildcardRules.Regex

inductive Flag where
  | ignoreCase
  | multiLine
  | dotAll
  | fewest
  | unicode
  | carriageReturns
  | spaced
deriving DecidableEq

def Flag.ofLetter? : Char → Option Flag
  | 'i' => some ignoreCase
  | 'm' => some multiLine
  | 's' => some dotAll
  | 'U' => some fewest
  | 'u' => some unicode
  | 'R' => some carriageReturns
  | 'x' => some spaced
  | _ => none

structure Flags where
  ignoreCase : Bool := false
  multiLine : Bool := false
  dotAll : Bool := false
  unicode : Bool := true
  carriageReturns : Bool := false
deriving DecidableEq

-- Sets or clears a flag. How often something is repeated of all possible numbers of times makes no
-- difference to whether there is a match.
def Flags.put (f : Flags) (flag : Flag) (on : Bool) : Flags :=
  match flag with
  | .ignoreCase => { f with ignoreCase := on }
  | .multiLine => { f with multiLine := on }
  | .dotAll => { f with dotAll := on }
  | .unicode => { f with unicode := on }
  | .carriageReturns => { f with carriageReturns := on }
  | .fewest => f
  | .spaced => f

def Flags.change (f : Flags) (changes : List (Flag × Bool)) : Flags :=
  changes.foldl (fun f entry => f.put entry.1 entry.2) f

namespace Class

def negatedIf (negated : Bool) (k : CharSet) : CharSet := if negated then k.compl else k

def folded (f : Flags) (k : CharSet) : CharSet :=
  if f.ignoreCase then
    if f.unicode then Unicode.withVariants k else Unicode.withAsciiVariants k
  else k

def reached (f : Flags) (k : CharSet) : CharSet := if f.unicode then k else k.inter .ascii

def dot (f : Flags) : CharSet :=
  if f.dotAll then CharSet.empty.compl
  else
    (if f.carriageReturns then (CharSet.single '\n').union (.single '\r') else .single '\n').compl

def word (f : Flags) : CharSet := reached f Unicode.wordCharacters

def ofLetter (f : Flags) (letter : Char) : CharSet :=
  reached f <|
    if letter = 'd' then Unicode.digits
    else if letter = 's' then Unicode.whiteSpace
    else Unicode.wordCharacters

def asciiClasses : List (Text × CharSet) :=
  [("alnum".toList, .ofRanges [(0x30, 0x39), (0x41, 0x5A), (0x61, 0x7A)]),
    ("alpha".toList, .ofRanges [(0x41, 0x5A), (0x61, 0x7A)]),
    ("ascii".toList, .ascii),
    ("blank".toList, .ofRanges [(0x9, 0x9), (0x20, 0x20)]),
    ("cntrl".toList, .ofRanges [(0x0, 0x1F), (0x7F, 0x7F)]),
    ("digit".toList, .range 0x30 0x39),
    ("graph".toList, .range 0x21 0x7E),
    ("lower".toList, .range 0x61 0x7A),
    ("print".toList, .range 0x20 0x7E),
    ("punct".toList, .ofRanges [(0x21, 0x2F), (0x3A, 0x40), (0x5B, 0x60), (0x7B, 0x7E)]),
    ("space".toList, .ofRanges [(0x9, 0xD), (0x20, 0x20)]),
    ("upper".toList, .range 0x41 0x5A),
    ("word".toList, .ofRanges [(0x30, 0x39), (0x41, 0x5A), (0x5F, 0x5F), (0x61, 0x7A)]),
    ("xdigit".toList, Unicode.asciiHexDigits)]

end Class

abbrev Place := Option Char → Option Char → Bool

namespace Place

def textStart : Place := fun before _ => before.isNone

def textEnd : Place := fun _ after => after.isNone

-- The beginning of a line. A carriage return and a line feed after it break lines once.
def lineStart (f : Flags) : Place := fun before after =>
  before.isNone || before == some '\n'
    || (f.carriageReturns && before == some '\r' && after != some '\n')

def lineEnd (f : Flags) : Place := fun before after =>
  if f.carriageReturns then
    after.isNone || after == some '\r' || (after == some '\n' && before != some '\r')
  else after.isNone || after == some '\n'

def start (f : Flags) : Place := if f.multiLine then lineStart f else textStart

def finish (f : Flags) : Place := if f.multiLine then lineEnd f else textEnd

def isWord (f : Flags) (c : Option Char) : Bool := c.any (Class.word f).contains

def wordEdge (f : Flags) : Place := fun before after => isWord f before != isWord f after

def noWordEdge (f : Flags) : Place := fun before after => isWord f before == isWord f after

def wordStart (f : Flags) : Place := fun before after => !isWord f before && isWord f after

def wordEnd (f : Flags) : Place := fun before after => isWord f before && !isWord f after

def noWordBefore (f : Flags) : Place := fun before _ => !isWord f before

def noWordAfter (f : Flags) : Place := fun _ after => !isWord f after

end Place

end WildcardRules.Regex
