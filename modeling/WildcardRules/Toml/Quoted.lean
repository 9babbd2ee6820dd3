import WildcardRules.Toml.Layout

set_option autoImplicit false

namespace WildcardRules.Toml

def hexDigit? (c : Char) : Option Nat :=
  if c.isDigit then some (c.toNat - '0'.toNat)
  else if 'a' ≤ c ∧ c ≤ 'f' then some (c.toNat - 'a'.toNat + 10)
  else if 'A' ≤ c ∧ c ≤ 'F' then some (c.toNat - 'A'.toNat + 10)
  else none

def hexDigits : Nat → Nat → Reader Nat
  | 0, value => return value
  | count + 1, value => do
      match hexDigit? (← Reader.next) with
      | some digit => hexDigits count (value * 16 + digit)
      | none => failure

def numberedChar (digits : Nat) : Reader Char := do
  let number ← hexDigits digits 0
  if number.isValidChar then return Char.ofNat number else failure

def escapedChar : Reader Char := do
  match ← Reader.next with
  | 'b' => return '\x08'
  | 't' => return '\t'
  | 'n' => return '\n'
  | 'f' => return '\x0c'
  | 'r' => return '\r'
  | 'e' => return '\x1b'
  | '"' => return '"'
  | '\\' => return '\\'
  | 'x' => numberedChar 2
  | 'u' => numberedChar 4
  | 'U' => numberedChar 8
  | _ => failure

def basicString : Reader Text := do
  Reader.char '"'
  Reader.loop (fun read => do
    let c ← Reader.next
    if c == '"' then return .inr read.reverse
    else if c == '\\' then return .inl ((← escapedChar) :: read)
    else if isPrintable c then return .inl (c :: read)
    else failure) []

def literalString : Reader Text := do
  Reader.char '\''
  let read ← Reader.while_ fun c => isPrintable c && c != '\''
  Reader.char '\''
  return read

-- Takes a run of quotes inside a string between tripled quotes. Fewer than three belong to the
-- string; three end it, and up to two in front of them belong to it still.
def quoteRun (quote : Char) (read : Text) : Reader (Sum Text Text) := do
  let quotes ← Reader.while_ (· == quote)
  if quotes.length < 3 then return .inl (quotes ++ read)
  else if quotes.length ≤ 5 then return .inr ((quotes.drop 3 ++ read).reverse)
  else failure

def joinedLines : Reader Unit := do
  blanks
  let _ ← lineEnd
  let _ ← Reader.while_ isBlank
  Reader.loop (fun _ => do
    (do let _ ← lineEnd; blanks; return .inl ()) <|> return .inr ()) ()

def optionalLineEnd : Reader Unit := (do let _ ← lineEnd) <|> return ()

def multiLineBasicString : Reader Text := do
  Reader.text ['"', '"', '"']
  optionalLineEnd
  Reader.loop (fun read => do
    match ← Reader.peek with
    | some '"' => quoteRun '"' read
    | some '\\' => do
        Reader.char '\\'
        (do joinedLines; return .inl read) <|> (do return .inl ((← escapedChar) :: read))
    | _ =>
        (do return .inl ((← lineEnd).reverse ++ read))
          <|> (do return .inl ((← Reader.satisfying isPrintable) :: read))) []

def multiLineLiteralString : Reader Text := do
  Reader.text ['\'', '\'', '\'']
  optionalLineEnd
  Reader.loop (fun read => do
    match ← Reader.peek with
    | some '\'' => quoteRun '\'' read
    | _ =>
        (do return .inl ((← lineEnd).reverse ++ read))
          <|> (do return .inl ((← Reader.satisfying isPrintable) :: read))) []

def quotedString : Reader Text := do
  if (← get).take 3 == ['"', '"', '"'] then multiLineBasicString
  else if (← get).take 3 == ['\'', '\'', '\''] then multiLineLiteralString
  else if (← Reader.peek) == some '"' then basicString
  else literalString

end WildcardRules.Toml
