import WildcardRules.Replacer
import WildcardRules.Toml.Document

set_option autoImplicit false

namespace WildcardRules

inductive ReadFailure where
  | missing
  | notDirectory
  | directory
  | nameTooLong
  | notUtf8
  | refused (reason : Text)
deriving DecidableEq

def ReadFailure.message : ReadFailure → Text
  | .missing => "No such file or directory (os error 2)".toList
  | .notDirectory => "Not a directory (os error 20)".toList
  | .directory => "Is a directory (os error 21)".toList
  | .nameTooLong => "File name too long (os error 36)".toList
  | .notUtf8 => "stream did not contain valid UTF-8".toList
  | .refused reason => reason

inductive Error where
  | build (cause : BuildError)
  | noMatch (cause : NoMatch)
  | unreadableConfig (path : Text) (cause : ReadFailure)
  | malformedConfig (path : Text) (cause : Toml.Error)
  | duplicateName (name : Text)
  | invalidRuleSet (name : Text) (cause : BuildError)
  | unknownName (name : Text)
deriving DecidableEq

namespace Error

inductive Kind where
  | configuration
  | match_
deriving DecidableEq

def kind : Error → Kind
  | .noMatch _ => .match_
  | _ => .configuration

def message : Error → Text
  | .build cause => cause.message
  | .noMatch cause => cause.message
  | .unreadableConfig path _ => "Failed to read config file: ".toList ++ path
  | .malformedConfig path _ => "Failed to parse config file: ".toList ++ path
  | .duplicateName name => "Replacer '".toList ++ name ++ "' is declared more than once".toList
  | .invalidRuleSet name _ => "Invalid replacer '".toList ++ name ++ "'".toList
  | .unknownName name => "Replacer not found: ".toList ++ name

def causes : Error → List Text
  | .build cause => cause.causes
  | .unreadableConfig _ cause => [cause.message]
  | .malformedConfig _ cause => [cause.message]
  | .invalidRuleSet _ cause => cause.message :: cause.causes
  | _ => []

def chain (e : Error) : List Text := e.message :: e.causes

end Error

end WildcardRules
