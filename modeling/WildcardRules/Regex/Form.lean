import WildcardRules.Regex.Class
import WildcardRules.Regex.Fault

set_option autoImplicit false

namespace WildcardRules.Regex

-- A character that stands for itself, or is given by its number. `coded` tells a number of exactly
-- two digits, which stands for a byte where only ASCII is in reach.
structure Literal where
  span : Span
  char : Char
  coded : Bool := false

inductive ClassName where
  | letter (c : Char)
  | ascii (k : CharSet)
  | property (name : Text)

inductive Atom where
  | literal (l : Literal)
  | dot (span : Span)
  | named (span : Span) (negated : Bool) (name : ClassName)
  | place (span : Span) (p : Flags → Place)

def Atom.span : Atom → Span
  | literal l => l.span
  | dot span => span
  | named span _ _ => span
  | place span _ => span

inductive Junction where
  | intersection
  | difference
  | symmetricDifference

def Junction.signs : List (Text × Junction) :=
  [(['&', '&'], intersection), (['-', '-'], difference), (['~', '~'], symmetricDifference)]

def Junction.apply : Junction → CharSet → CharSet → CharSet
  | intersection => CharSet.inter
  | difference => CharSet.diff
  | symmetricDifference => CharSet.symmDiff

inductive Members where
  | literal (l : Literal)
  | range (first last : Literal)
  | named (span : Span) (negated : Bool) (name : ClassName)
  | brackets (span : Span) (negated : Bool) (inner : Members)
  | union (span : Span) (parts : List Members)
  | joined (span : Span) (junction : Junction) (left right : Members)

inductive Form where
  | atom (a : Atom)
  | brackets (m : Members)
  | flags (changes : List (Flag × Bool))
  | times (span : Span) (body : Form) (least : Nat) (most : Option Nat)
  | group (span : Span) (told : Bool) (changes : List (Flag × Bool)) (inner : Form)
  | sequence (span : Span) (parts : List Form)
  | choice (span : Span) (branches : List Form)

mutual

def Members.tooDeep? : Nat → Members → Option Span
  | _, .literal _ => none
  | _, .range _ _ => none
  | _, .named _ _ _ => none
  | 0, .brackets span _ _ => some span
  | depth + 1, .brackets _ _ inner => inner.tooDeep? depth
  | _, .union _ [] => none
  | 0, .union span _ => some span
  | depth + 1, .union _ parts => Members.anyTooDeep? depth parts
  | 0, .joined span _ _ _ => some span
  | depth + 1, .joined _ _ left right => left.tooDeep? depth <|> right.tooDeep? depth

def Members.anyTooDeep? : Nat → List Members → Option Span
  | _, [] => none
  | depth, m :: parts => m.tooDeep? depth <|> Members.anyTooDeep? depth parts

end

mutual

def Form.tooDeep? : Nat → Form → Option Span
  | _, .atom _ => none
  | depth, .brackets m => m.tooDeep? depth
  | _, .flags _ => none
  | 0, .times span _ _ _ => some span
  | depth + 1, .times _ body _ _ => body.tooDeep? depth
  | 0, .group span _ _ _ => some span
  | depth + 1, .group _ _ _ inner => inner.tooDeep? depth
  | _, .sequence _ [] => none
  | 0, .sequence span _ => some span
  | depth + 1, .sequence _ parts => Form.anyTooDeep? depth parts
  | 0, .choice span _ => some span
  | depth + 1, .choice _ branches => Form.anyTooDeep? depth branches

def Form.anyTooDeep? : Nat → List Form → Option Span
  | _, [] => none
  | depth, r :: parts => r.tooDeep? depth <|> Form.anyTooDeep? depth parts

end

end WildcardRules.Regex
