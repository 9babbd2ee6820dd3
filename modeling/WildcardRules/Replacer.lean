import WildcardRules.Rule
import WildcardRules.RuleInput

set_option autoImplicit false

namespace WildcardRules

structure NoMatch where
  value : Text
  patterns : List Text
deriving DecidableEq

def NoMatch.message (e : NoMatch) : Text :=
  "Can't match value '".toList ++ e.value ++ "' with patterns\n".toList
    ++ ['\n'].intercalate e.patterns

structure Options where
  name : Option Text := none
  required : Bool := true
deriving DecidableEq

structure Replacer where
  name : Option Text
  required : Bool
  patterns : List Text
  rules : List Rule
deriving DecidableEq

namespace Replacer

def build (input : RuleInput) (options : Options) : Except BuildError Replacer := do
  let patterns ← input.validate options.name options.required
  let rules ← Rule.compileAll patterns
  return ⟨options.name, options.required, patterns, rules⟩

def isIdentity (r : Replacer) : Bool := r.rules.isEmpty

def firstMatch? (r : Replacer) (value : Text) : Option (Rule × Text) :=
  r.rules.findSome? fun rule => (rule.apply value).map fun result => (rule, result)

def replace (r : Replacer) (value : Text) : Except NoMatch Text :=
  if r.isIdentity then .ok value
  else
    let normal := value.normalizeBrackets
    match r.firstMatch? normal with
    | some (_, c :: result) => .ok (c :: result)
    | _ => if r.required then .error ⟨normal, r.patterns⟩ else .ok normal

end Replacer

end WildcardRules
