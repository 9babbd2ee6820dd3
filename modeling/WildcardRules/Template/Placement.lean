import WildcardRules.Template

set_option autoImplicit false

namespace WildcardRules

namespace Text

def OneLine (t : Text) : Prop := '\n' ∉ t

instance (t : Text) : Decidable t.OneLine := inferInstanceAs (Decidable (¬ _ ∈ _))

def cut? : (t literal : Text) → Option (Text × Text)
  | [], literal => (literal.isPrefixOf? []).map fun rest => ([], rest)
  | c :: t, literal =>
      match literal.isPrefixOf? (c :: t) with
      | some rest => some ([], rest)
      | none =>
          if c = '\n' then none else (cut? t literal).map fun halves => (c :: halves.1, halves.2)

def cutEnd? (t literal : Text) : Option Text :=
  (literal.isSuffixOf? t).bind fun (rest : Text) => if rest.OneLine then some rest else none

end Text

namespace Template

-- The texts in front of the literals when each but the last is placed at its first occurrence and
-- the last at the end.
def place? : List Text → Text → Option (List Text)
  | [], t => if t = [] then some [] else none
  | [last], t => (t.cutEnd? last).map fun capture => [capture]
  | literal :: next :: literals, t =>
      (t.cut? literal).bind fun halves =>
        (place? (next :: literals) halves.2).map fun captures => halves.1 :: captures

def captures? (t : Template) (value : Text) : Option (List Text) :=
  (t.head.isPrefixOf? value).bind (place? t.tail)

structure Fits (t : Template) (value : Text) (captures : List Text) : Prop where
  count : captures.length = t.stars
  oneLine : ∀ c ∈ captures, c.OneLine
  filled : value = t.fill captures

end Template

end WildcardRules
