import WildcardRules.Unicode.Runs
import WildcardRules.Unicode.ScriptExtensionTable
import WildcardRules.Unicode.ScriptTable

set_option autoImplicit false

namespace WildcardRules.Unicode

def scripts : List (Text × Nat) := runsOf scriptRuns

def ofScripts (names : List String) : CharSet :=
  let names := names.map String.toList
  setOfRuns names.contains scripts

def namesOfScripts : List (List Text) := (wordsOf scriptNames).map (List.splitOn '=')

def usedWith (name : Text) : CharSet :=
  let listed := scriptExtensions.map fun entry => (wordsOf entry.1, setOf entry.2)
  let own := (setOfRuns (· == name) scripts).diff (.unions (listed.map Prod.snd))
  own.union (.unions ((listed.filter fun entry => entry.1.contains name).map Prod.snd))

end WildcardRules.Unicode
