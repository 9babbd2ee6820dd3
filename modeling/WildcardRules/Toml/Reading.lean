import WildcardRules.Toml.DateTime

set_option autoImplicit false

namespace WildcardRules.Toml

structure Reading where
  low : Int
  high : Int
  knowsMoments : Bool

def momentKey : Text := "$__toml_private_datetime".toList

def moment? (entries : List (Text × Value)) : Option Value :=
  if entries.any fun entry => entry.1 < momentKey then none
  else (entries.find? fun entry => entry.1 == momentKey).map Prod.snd

def Value.isMomentText (value : Value) : Bool := (value.text?.bind dateTime?).isSome

mutual

-- Whether a value can be read. Of a table that stands for a date or a time only the marked entry
-- is read, and it must be the text of one.
def Value.isReadable (r : Reading) : Value → Bool
  | .integer number => number.isWithin r.low r.high
  | .float number => number.isRepresentable
  | .array items => areReadable r items
  | .table entries =>
      match if r.knowsMoments then moment? entries else none with
      | some value => value.isMomentText
      | none => entriesAreReadable r entries
  | _ => true

def areReadable (r : Reading) : List Value → Bool
  | [] => true
  | item :: items => item.isReadable r && areReadable r items

def entriesAreReadable (r : Reading) : List (Text × Value) → Bool
  | [] => true
  | (_, value) :: entries => value.isReadable r && entriesAreReadable r entries

end

end WildcardRules.Toml
