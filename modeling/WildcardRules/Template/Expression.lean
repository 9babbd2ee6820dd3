import WildcardRules.Regex.Class
import WildcardRules.Regex.Size
import WildcardRules.Template

set_option autoImplicit false

namespace WildcardRules

namespace Regex

def metaCharacters : List Char :=
  ['\\', '.', '+', '*', '?', '(', ')', '|', '[', ']', '\x7b', '\x7d', '^', '$', '#', '&', '-', '~']

def escape (t : Text) : Text := t.flatMap fun c => if c ∈ metaCharacters then ['\\', c] else [c]

def sequence : List Regex → Regex
  | [] => .empty
  | r :: rest => .both r (sequence rest)

def star : Regex := .group (.times (.char (Class.dot {})) 0 none)

end Regex

namespace Segment

def expression : Segment → Text
  | .literal text => Regex.escape text
  | .wildcard => "(.*?)".toList

def regexes : Segment → List Regex
  | .literal text => text.map fun c => .char (.single c)
  | .wildcard => [Regex.star]

end Segment

namespace Template

def expression (t : Template) : Text := '^' :: t.segments.flatMap Segment.expression ++ ['$']

def regex (t : Template) : Regex :=
  .sequence (.place Regex.Place.textStart :: t.segments.flatMap Segment.regexes ++ [.place Regex.Place.textEnd])

end Template

end WildcardRules
