import WildcardRules.BuildError
import WildcardRules.Pattern
import WildcardRules.Template.Expression
import WildcardRules.Template.Placement
import WildcardRules.Text.Brackets

set_option autoImplicit false

namespace WildcardRules

inductive Action where
  | constant (value : Text)
  | exact (source target : Text)
  | wildcard (source target : Template)
deriving DecidableEq

structure Rule where
  pattern : Text
  action : Action
deriving DecidableEq

namespace Rule

inductive Kind where
  | constant
  | exact
  | wildcard
deriving DecidableEq

def Kind.name : Kind → Text
  | .constant => "constant".toList
  | .exact => "exact".toList
  | .wildcard => "wildcard".toList

def kind (r : Rule) : Kind :=
  match r.action with
  | .constant _ => .constant
  | .exact _ _ => .exact
  | .wildcard _ _ => .wildcard

def display (r : Rule) : Text := r.pattern ++ " (".toList ++ r.kind.name ++ ")".toList

def readLiteral (literal : Text) : Text := (Text.unescape literal).normalizeBrackets

def compile (pattern : Text) (count : Nat) : Except BuildError Rule :=
  match Pattern.read pattern with
  | .bare value =>
      if 1 < count then .error (.multipleBareValues pattern count)
      else .ok ⟨pattern, .constant (Text.unescape value)⟩
  | .pair source target =>
      let given := Template.ofText source
      let read := given.mapLiterals readLiteral
      let wanted := Template.ofText target
      if given.stars = 0 then .ok ⟨pattern, .exact source target⟩
      else if 0 < wanted.stars ∧ wanted.stars ≠ given.stars then
        .error (.segmentMismatch pattern given.segments.length wanted.segments.length)
      else if Regex.sizeLimit < read.regex.size then .error (.expressionTooLarge pattern)
      else .ok ⟨pattern, .wildcard read wanted⟩

def apply (r : Rule) (value : Text) : Option Text :=
  match r.action with
  | .constant result => some result
  | .exact source target => if value = source then some target else none
  | .wildcard source target => (source.captures? value).map target.fill

def compileAll (patterns : List Text) : Except BuildError (List Rule) :=
  patterns.mapM fun pattern => compile pattern patterns.length

end Rule

end WildcardRules
