import WildcardRules.Error

set_option autoImplicit false

namespace WildcardRules

structure RuleSet where
  name : Text
  required : Bool := true
  rules : Option Toml.Value := none

namespace RuleSet

def input (s : RuleSet) : RuleInput :=
  match s.rules with
  | none => .none
  | some value => .ofToml value

def options (s : RuleSet) : Options := ⟨some s.name, s.required⟩

def build (s : RuleSet) : Except BuildError Replacer := Replacer.build s.input s.options

def buildNamed (s : RuleSet) : Except Error Replacer :=
  match s.build with
  | .ok replacer => .ok replacer
  | .error cause => .error (.invalidRuleSet s.name cause)

end RuleSet

structure Config where
  sets : List RuleSet := []

namespace Config

def find? (c : Config) (name : Text) : Option RuleSet := c.sets.find? fun s => s.name == name

def build (c : Config) (name : Text) : Except Error Replacer :=
  match c.find? name with
  | none => .error (.unknownName name)
  | some s =>
      match s.build with
      | .ok replacer => .ok replacer
      | .error cause => .error (.build cause)

def buildAll (c : Config) : Except Error (List Replacer) := c.sets.mapM RuleSet.buildNamed

def firstDuplicate? (seen : List Text) : List RuleSet → Option Text
  | [] => none
  | s :: sets => if s.name ∈ seen then some s.name else firstDuplicate? (s.name :: seen) sets

def validate (c : Config) : Except Error Unit :=
  match firstDuplicate? [] c.sets with
  | some name => .error (.duplicateName name)
  | none =>
      match c.buildAll with
      | .ok _ => .ok ()
      | .error e => .error e

def add (c : Config) (s : RuleSet) : Config := ⟨c.sets ++ [s]⟩

def remove (c : Config) (name : Text) : Config := ⟨c.sets.filter fun s => s.name != name⟩

end Config

end WildcardRules
