import WildcardRules.Toml.DateTime
import WildcardRules.Toml.Definition
import WildcardRules.Toml.Quoted

set_option autoImplicit false

namespace WildcardRules.Toml

def isBareKeyChar (c : Char) : Bool := c.isAlphanum || c == '_' || c == '-'

def simpleKey : Reader Text := do
  match ← Reader.peek with
  | some '"' => basicString
  | some '\'' => literalString
  | _ =>
      let key ← Reader.while_ isBareKeyChar
      if key.isEmpty then failure else return key

def pathLimit : Nat := 80

def nestingLimit : Nat := 80

def keyPath : Reader KeyPath := do
  let first ← simpleKey
  let path ← Reader.loop (fun path : KeyPath => do
    (do blanks
        Reader.char '.'
        blanks
        let key ← simpleKey
        return .inl ⟨path.leading ++ [path.last], key⟩) <|> return .inr path) ⟨[], first⟩
  if path.leading.length < pathLimit then return path else failure

def endsWord (c : Char) : Bool :=
  isBlank c || ['\r', '\n', '#', ',', '=', '[', ']', '{', '}'].contains c

def plainValue? (t : Text) : Option Value :=
  if t = ['t', 'r', 'u', 'e'] then some (.boolean true)
  else if t = ['f', 'a', 'l', 's', 'e'] then some (.boolean false)
  else (integer? t).map .integer <|> (float? t).map .float <|> (dateTime? t).map .dateTime

def spacedTime (date : Text) : Reader Text :=
  if (date? date).isNone then return date
  else
    (do Reader.char ' '
        let digit ← Reader.satisfying Char.isDigit
        let rest ← Reader.while_ fun c => !endsWord c
        return date ++ ' ' :: digit :: rest) <|> return date

def scalar : Reader Value := do
  match ← Reader.peek with
  | some '"' => return .string (← quotedString)
  | some '\'' => return .string (← quotedString)
  | _ =>
      let word ← Reader.while_ fun c => !endsWord c
      match plainValue? (← spacedTime word) with
      | some value => return value
      | none => failure

def separated {α : Type} (part : Reader α) (close : Char) : Reader (List α) :=
  Reader.loop (fun parts => do
    gap
    if (← Reader.peek) == some close then
      Reader.char close
      return .inr parts.reverse
    else
      let found ← part
      gap
      if (← Reader.peek) == some close then
        Reader.char close
        return .inr (found :: parts).reverse
      else
        Reader.char ','
        return .inl (found :: parts)) []

def assignmentOf (space : Reader Unit) (value : Reader Value) : Reader Assignment := do
  let key ← keyPath
  space
  Reader.char '='
  space
  return ⟨key, ← value⟩

def inlineTable? (assignments : List Assignment) : Option Value :=
  (Entries.assignAll [] assignments).map fun entries => .table (entriesToValues entries)

def nestedValue : Nat → Reader Value
  | 0 => scalar
  | depth + 1 => do
      match ← Reader.peek with
      | some '[' =>
          Reader.char '['
          return .array (← separated (nestedValue depth) ']')
      | some '{' =>
          Reader.char '{'
          match inlineTable? (← separated (assignmentOf gap (nestedValue depth)) '}') with
          | some value => return value
          | none => failure
      | _ => scalar

inductive Expression where
  | assignment (assignment : Assignment)
  | tableHeader (name : KeyPath)
  | elementHeader (name : KeyPath)

def headerName (close : Text) : Reader KeyPath := do
  blanks
  let name ← keyPath
  blanks
  Reader.text close
  return name

def expression : Reader Expression := do
  if ← Reader.skipped ['[', '['] then return .elementHeader (← headerName [']', ']'])
  else if ← Reader.skipped ['['] then return .tableHeader (← headerName [']'])
  else return .assignment (← assignmentOf blanks (nestedValue nestingLimit))

end WildcardRules.Toml
