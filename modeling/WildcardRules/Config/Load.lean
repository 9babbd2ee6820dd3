import WildcardRules.Config.Decode
import WildcardRules.Text.Bytes

set_option autoImplicit false

namespace WildcardRules.Config

def parse (content path : Text) : Except Error Config :=
  match ofText content with
  | .error cause => .error (.malformedConfig path cause)
  | .ok config =>
      match config.validate with
      | .error e => .error e
      | .ok () => .ok config

abbrev Files := Text → Except ReadFailure Bytes

def readText (files : Files) (path : Text) : Except ReadFailure Text :=
  match files path with
  | .error failure => .error failure
  | .ok bytes =>
      match Text.ofBytes? bytes with
      | some content => .ok content
      | none => .error .notUtf8

def load (files : Files) (path : Text) : Except Error Config :=
  match readText files path with
  | .error failure => .error (.unreadableConfig path failure)
  | .ok content => parse content path

end WildcardRules.Config
