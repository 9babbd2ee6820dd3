import WildcardRules.Config
import WildcardRules.Toml.Reading

set_option autoImplicit false

namespace WildcardRules

namespace Toml

def lookup (key : Text) (entries : List (Text × Value)) : Option Value :=
  (entries.find? fun entry => entry.1 == key).map Prod.snd

-- Rules are read with integers of 64 bits.
def Value.isRules (value : Value) : Bool := value.isReadable ⟨-Int.pow 2 63, Int.pow 2 63 - 1, true⟩

-- Entries that mean nothing are read with integers of 128 bits, with or without a sign.
def Value.isIgnorable (value : Value) : Bool := value.isReadable ⟨-Int.pow 2 127, Int.pow 2 128 - 1, false⟩

end Toml

open Toml (Value)

namespace RuleSet

def keys : List Text := ["name".toList, "required".toList, "rules".toList]

def nameOf : Option Value → Option Text
  | some value => value.text?
  | none => none

def requiredOf : Option Value → Option Bool
  | some value => value.boolean?
  | none => some true

def rulesOf : Option Value → Option (Option Value)
  | some value => if value.isRules then some (some value) else none
  | none => some none

def ofToml? : Value → Option RuleSet
  | .table entries => do
      let name ← nameOf (Toml.lookup "name".toList entries)
      let required ← requiredOf (Toml.lookup "required".toList entries)
      let rules ← rulesOf (Toml.lookup "rules".toList entries)
      guard (entries.all fun entry => keys.contains entry.1 || entry.2.isIgnorable)
      return ⟨name, required, rules⟩
  | .array items => do
      let name ← nameOf items[0]?
      let required ← requiredOf items[1]?
      let rules ← rulesOf items[2]?
      return ⟨name, required, rules⟩
  | _ => none

end RuleSet

namespace Config

def setsKey : Text := "replacers".toList

def setsOf : Option Value → Option (List RuleSet)
  | none => some []
  | some (.array items) => items.mapM RuleSet.ofToml?
  | some _ => none

def ofEntries? (entries : List (Text × Value)) : Option Config := do
  let sets ← setsOf (Toml.lookup setsKey entries)
  guard (entries.all fun entry => entry.1 == setsKey || entry.2.isIgnorable)
  return ⟨sets⟩

def ofText (content : Text) : Except Toml.Error Config := do
  match ofEntries? (← Toml.parse content) with
  | some config => return config
  | none => .error .unexpectedShape

end Config

end WildcardRules
