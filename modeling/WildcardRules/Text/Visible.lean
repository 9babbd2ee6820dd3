import WildcardRules.Text.Bytes

/-!
What is seen of a text on a terminal. Control characters begin control sequences, which move the
cursor, colour what follows or set the title of the window; none of that is seen. A sequence that
the text ends in hides all that follows its beginning.
-/

set_option autoImplicit false

namespace WildcardRules.Text

inductive Mode where
  | ground
  | escape
  | escapeIntermediate
  | function
  | deviceEntry
  | deviceParameter
  | deviceIntermediate
  | string
  | command
deriving DecidableEq

namespace Mode

def ofIntroducer : Char → Mode
  | '[' => .function
  | ']' => .command
  | 'P' => .deviceEntry
  | 'X' => .string
  | '^' => .string
  | '_' => .string
  | _ => .ground

def endsString (c : Char) : Bool := (Text.toBytes [c]).contains 0x9C

def within (m : Mode) (c : Char) : Mode :=
  let n := c.toNat
  let isIntermediate := 0x20 ≤ n && n ≤ 0x2F
  let isFinal := 0x30 ≤ n && n ≤ 0x7E
  match m with
  | .ground => .ground
  | .escape =>
      if isIntermediate then .escapeIntermediate else if isFinal then ofIntroducer c else .escape
  | .escapeIntermediate => if isFinal then .ground else .escapeIntermediate
  | .function => if 0x40 ≤ n && n ≤ 0x7E then .ground else .function
  | .deviceEntry =>
      if isIntermediate then .deviceIntermediate
      else if 0x30 ≤ n && n ≤ 0x3F then .deviceParameter
      else if isFinal then .string
      else .deviceEntry
  | .deviceParameter =>
      if isIntermediate then .deviceIntermediate
      else if 0x3C ≤ n && n ≤ 0x7E then .string
      else .deviceParameter
  | .deviceIntermediate => if isFinal then .string else .deviceIntermediate
  | .string => if endsString c then .ground else .string
  | .command => if n = 0x07 then .ground else .command

def next (m : Mode) (c : Char) : Mode :=
  if c = '\x18' ∨ c = '\x1a' then .ground
  else if c = '\x1b' then .escape
  else m.within c

end Mode

def isSpacing (c : Char) : Bool := c == '\t' || c == '\n' || c == '\x0c' || c == '\r'

def isSeen (c : Char) : Bool := isSpacing c || (0x20 ≤ c.toNat && c.toNat != 0x7F)

namespace Mode

def shows : Mode → Char → Bool
  | .ground, c => isSeen c
  | .escape, c => isSpacing c
  | .escapeIntermediate, c => isSpacing c
  | .function, c => isSpacing c
  | _, _ => false

end Mode

structure Screen where
  mode : Mode := .ground
  showing : Bool := true
  shown : Text := []

-- The screen after one more character. What is seen goes on up to the next control character, also
-- if it began within a sequence; the sequence goes on then, unless there was a character beyond ASCII
-- in between.
def Screen.after (s : Screen) (c : Char) : Screen :=
  if (if s.showing then isSeen c else s.mode.shows c) then
    { mode := if s.showing && 0x80 ≤ c.toNat then .ground else s.mode
      showing := true
      shown := c :: s.shown }
  else { s with mode := s.mode.next c, showing := false }

def visible (t : Text) : Text := (t.foldl Screen.after {}).shown.reverse

end WildcardRules.Text
