import WildcardRules.Log.Filter

set_option autoImplicit false

namespace WildcardRules.CommandLine

open Log (Event)

inductive Failure where
  | loading (path : Text) (cause : Error)
  | building (name : Text) (cause : Error)
  | compiling (cause : BuildError)
  | listing (cause : Error)
  | replacing (cause : NoMatch)
  | reading (cause : ReadFailure)
  | checking (cause : Error)
deriving DecidableEq

namespace Failure

def chain : Failure → List Text
  | .loading path cause => ("Failed to load configuration: ".toList ++ path) :: cause.chain
  | .building name cause =>
      ("Failed to build replacer '".toList ++ name ++ "'".toList) :: cause.chain
  | .compiling cause => "Failed to compile rules".toList :: cause.message :: cause.causes
  | .listing cause => cause.chain
  | .replacing cause => [cause.message]
  | .reading cause => ["Failed to read from stdin".toList, cause.message]
  | .checking cause => cause.chain

def ordinal (n : Nat) : Text :=
  List.replicate (5 - (Text.ofNat n).length) ' ' ++ Text.ofNat n ++ ": ".toList

def numbered : Nat → List Text → Text
  | _, [] => []
  | n, cause :: causes => '\n' :: ordinal n ++ Log.hanging 7 cause ++ numbered (n + 1) causes

def causeLines : List Text → Text
  | [] => []
  | [cause] => "\n\nCaused by:\n    ".toList ++ Log.hanging 4 cause
  | causes => "\n\nCaused by:".toList ++ numbered 0 causes

def report : Failure → Text
  | .checking cause =>
      "Configuration error: ".toList ++ ": ".toList.intercalate cause.chain ++ ['\n']
  | failure =>
      match failure.chain with
      | [] => []
      | message :: causes => "error: ".toList ++ message ++ causeLines causes ++ ['\n']

end Failure

structure Transcript where
  output : Text := []
  events : List Event := []
  failure : Option Failure := none
deriving DecidableEq

namespace Transcript

def failed (failure : Failure) : Transcript := { failure := some failure }

def written (output : Text) : Transcript := { output }

def reported (events : List Event) : Transcript := { events }

def andThen (first second : Transcript) : Transcript :=
  match first.failure with
  | some _ => first
  | none => ⟨first.output ++ second.output, first.events ++ second.events, second.failure⟩

end Transcript

end WildcardRules.CommandLine
