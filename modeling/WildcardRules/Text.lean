set_option autoImplicit false

namespace WildcardRules

abbrev Text := List Char

namespace Text

def ofNat (n : Nat) : Text := Nat.toDigits 10 n

def escape : Text → Text
  | [] => []
  | c :: t => if c = ':' then '\\' :: ':' :: escape t else c :: escape t

def unescape : Text → Text
  | '\\' :: ':' :: t => ':' :: unescape t
  | c :: t => c :: unescape t
  | [] => []

theorem unescape_guarded (t : Text) : unescape ('\\' :: ':' :: t) = ':' :: unescape t := rfl

theorem unescape_cons (c : Char) (t : Text) (plain : c ≠ '\\' ∨ t.head? ≠ some ':') :
    unescape (c :: t) = c :: unescape t := by
  rw [unescape]
  intro rest backslash colon
  rcases plain with different | different
  · exact different backslash
  · exact different (by rw [colon]; rfl)

end Text

end WildcardRules
