import WildcardRules.Regex.Limit

set_option autoImplicit false

namespace WildcardRules

inductive BuildError where
  | emptyRuleSet (name : Option Text)
  | multipleBareValues (pattern : Text) (count : Nat)
  -- Source and target hold different numbers of stars; both counts include the literals.
  | segmentMismatch (pattern : Text) (sourceParts targetParts : Nat)
  | expressionTooLarge (pattern : Text)
deriving DecidableEq

namespace BuildError

def message : BuildError → Text
  | .emptyRuleSet none => "Replacer can't be empty".toList
  | .emptyRuleSet (some name) => "Replacer '".toList ++ name ++ "' can't be empty".toList
  | .multipleBareValues pattern count =>
      "pattern '".toList ++ pattern
        ++ "': there can be only single replace value pattern. Instead ".toList
        ++ Text.ofNat count ++ " patterns presented".toList
  | .segmentMismatch pattern sourceParts targetParts =>
      "pattern '".toList ++ pattern
        ++ "': source and target pattern has different count of components (".toList
        ++ Text.ofNat sourceParts ++ " vs ".toList ++ Text.ofNat targetParts ++ ")".toList
  | .expressionTooLarge pattern =>
      "pattern '".toList ++ pattern ++ "': failed to compile wildcard expression".toList

def causes : BuildError → List Text
  | .expressionTooLarge _ => [Regex.tooLarge]
  | _ => []

end BuildError

end WildcardRules
