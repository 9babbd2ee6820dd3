import WildcardRules.BuildError
import WildcardRules.Toml.Value

set_option autoImplicit false

namespace WildcardRules

inductive RuleInput where
  | single (rule : Text)
  | many (rules : List Text)
  | none
deriving DecidableEq

namespace RuleInput

def toList : RuleInput → List Text
  | .single rule => [rule]
  | .many rules => rules
  | .none => []

def ofOption : Option Text → RuleInput
  | some rule => .single rule
  | Option.none => .none

def ofToml : Toml.Value → RuleInput
  | .string rule => .single rule
  | .array items => .many (items.filterMap Toml.Value.text?)
  | _ => .none

def validate (input : RuleInput) (name : Option Text) (required : Bool) :
    Except BuildError (List Text) :=
  let rules := input.toList.filter fun rule => !rule.isEmpty
  if required && rules.isEmpty then .error (.emptyRuleSet name) else .ok rules

end RuleInput

end WildcardRules
