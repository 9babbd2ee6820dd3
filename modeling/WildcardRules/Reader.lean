import WildcardRules.Text

/-!
Readers: functions that take a part of a document off the front of a text. A reader that fails takes
nothing, so the next alternative starts at the same place.
-/

set_option autoImplicit false

namespace WildcardRules

abbrev Reader := StateT Text Option

namespace Reader

def peek : Reader (Option Char) := do
  return (← get).head?

def next : Reader Char := do
  match ← get with
  | [] => failure
  | c :: rest => set rest; return c

def satisfying (p : Char → Bool) : Reader Char := do
  let c ← next
  if p c then return c else failure

def char (c : Char) : Reader Unit := do
  let _ ← satisfying (· == c)

def while_ (p : Char → Bool) : Reader Text := do
  let t ← get
  set (t.dropWhile p)
  return t.takeWhile p

def text (expected : Text) : Reader Unit := do
  match expected.isPrefixOf? (← get) with
  | some rest => set rest
  | none => failure

def skipped (expected : Text) : Reader Bool :=
  (do text expected; return true) <|> return false

def repeated {σ α : Type} (step : σ → Reader (Sum σ α)) : (bound : Text) → σ → Reader α
  | [], _ => failure
  | _ :: bound, state => do
      match ← step state with
      | .inl state => repeated step bound state
      | .inr result => return result

-- Runs a step until it yields a result. Every step that does not must take a character, so a text
-- allows for no more steps than it has characters, and one for the result. The text itself is the
-- bound, so that its length is never counted.
def loop {σ α : Type} (step : σ → Reader (Sum σ α)) (state : σ) : Reader α := do
  repeated step ('\n' :: (← get)) state

end Reader

end WildcardRules
