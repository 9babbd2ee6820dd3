import WildcardRules.Text

set_option autoImplicit false

namespace WildcardRules.Toml

def valueOf (base : Nat) (digits : Text) : Nat :=
  digits.foldl (fun value c =>
    value * base +
      (if c.isDigit then c.toNat - '0'.toNat
       else if c.isUpper then c.toNat - 'A'.toNat + 10 else c.toNat - 'a'.toNat + 10)) 0

def isDigitIn (base : Nat) (c : Char) : Bool :=
  if base = 16 then c.isDigit || ('a' ≤ c && c ≤ 'f') || ('A' ≤ c && c ≤ 'F')
  else c.isDigit && c.toNat - '0'.toNat < base

def splitSign : Text → Option Char × Text
  | '-' :: t => (some '-', t)
  | '+' :: t => (some '+', t)
  | t => (none, t)

structure Integer where
  base : Nat
  written : Text
deriving DecidableEq

namespace Integer

def ofInt : Int → Integer
  | .ofNat n => ⟨10, Text.ofNat n⟩
  | .negSucc n => ⟨10, '-' :: Text.ofNat (n + 1)⟩

def value? (i : Integer) : Option Int :=
  let (sign, digits) := splitSign i.written
  if digits.isEmpty || !digits.all (isDigitIn i.base) then none
  else if sign = some '-' then some (-(valueOf i.base digits : Int))
  else some (valueOf i.base digits)

def isWithin (low high : Int) (i : Integer) : Bool :=
  match i.value? with
  | some n => low ≤ n && n ≤ high
  | none => false

end Integer

end WildcardRules.Toml
