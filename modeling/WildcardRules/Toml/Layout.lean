import WildcardRules.Reader

set_option autoImplicit false

namespace WildcardRules.Toml

def isBlank (c : Char) : Bool := c == ' ' || c == '\t'

def isPrintable (c : Char) : Bool := c == '\t' || (0x20 ≤ c.toNat && c.toNat ≠ 0x7F)

def lineEnd : Reader Text := (do Reader.char '\n'; return ['\n']) <|>
  (do Reader.text ['\r', '\n']; return ['\r', '\n'])

def blanks : Reader Unit := do
  let _ ← Reader.while_ isBlank

def comment : Reader Unit := do
  if (← Reader.peek) == some '#' then
    let _ ← Reader.while_ isPrintable

def gap : Reader Unit :=
  Reader.loop (fun _ => do
    blanks
    comment
    (do let _ ← lineEnd; return .inl ()) <|> return .inr ()) ()

def restOfLine : Reader Unit := do
  blanks
  comment
  if (← get).isEmpty then return
  let _ ← lineEnd

end WildcardRules.Toml
