import WildcardRules.Toml.Value

set_option autoImplicit false

namespace WildcardRules.Toml

def isGrouped (p : Char → Bool) (previous : Char) : Text → Bool
  | [] => previous != '_'
  | c :: t =>
      (c != '_' || p previous) && (previous != '_' || p c) && isGrouped p c t

def ungrouped (t : Text) : Text := t.filter (· != '_')

def basedInteger? (base : Nat) (t : Text) : Option Integer :=
  if isGrouped (isDigitIn base) '_' ('0' :: t) && (ungrouped t).all (isDigitIn base)
      && t.head? != some '_' then
    some ⟨base, ungrouped t⟩
  else none

def isMoment (rest : Text) : Bool := rest.head? == some '-' || rest.head? == some ':'

def isFloat (rest : Text) : Bool := rest.any fun c => c == '.' || c == 'e' || c == 'E'

-- A decimal integer. Only an underscore makes it one if it is more than digits; what follows that
-- is not looked at beyond its grouping. It starts with a digit, after a sign if there is one.
def decimalInteger? (t : Text) : Option Integer :=
  let magnitude := (splitSign t).2
  let rest := magnitude.dropWhile Char.isDigit
  if magnitude.head? = some '0' ∧ magnitude ≠ ['0'] then none
  else if magnitude.isEmpty || isMoment rest || isFloat rest then none
  else if rest.isEmpty
      || (rest.head? == some '_' && isGrouped (isDigitIn 16) '_' magnitude) then
    some ⟨10, ungrouped t⟩
  else none

def integer? : Text → Option Integer
  | '0' :: 'x' :: t => basedInteger? 16 t
  | '0' :: 'o' :: t => basedInteger? 8 t
  | '0' :: 'b' :: t => basedInteger? 2 t
  | t => decimalInteger? t

def splitAt (p : Char → Bool) (t : Text) : Text × Option Text :=
  match t.dropWhile (fun c => !p c) with
  | [] => (t, none)
  | _ :: rest => (t.takeWhile (fun c => !p c), some rest)

def digits? (t : Text) : Option Text :=
  if !t.isEmpty && t.all Char.isDigit then some t else none

def exponent? : Option Text → Option Int
  | none => some 0
  | some t =>
      let (sign, magnitude) := splitSign t
      (digits? magnitude).map fun digits =>
        if sign = some '-' then -(valueOf 10 digits : Int) else valueOf 10 digits

def fraction? : Option Text → Option Text
  | none => some []
  | some t => digits? t

-- A decimal number with a fraction, an exponent, or both. Its digits start with a zero only if no
-- digit follows that before the point.
def decimal? (sign : Option Char) (magnitude : Text) : Option Float := do
  guard (isGrouped Char.isDigit '_' magnitude)
  let (mantissa, exponent) := splitAt (fun c => c == 'e' || c == 'E') (ungrouped magnitude)
  let (whole, fraction) := splitAt (· == '.') mantissa
  guard (exponent.isSome ∨ fraction.isSome)
  guard (magnitude.head? ≠ some '0' ∨ whole = ['0'])
  let whole ← digits? whole
  let decimals ← fraction? fraction
  let shift ← exponent? exponent
  return .decimal (sign = some '-') (valueOf 10 (whole ++ decimals)) (shift - decimals.length)

def float? (t : Text) : Option Float :=
  let (sign, magnitude) := splitSign t
  if magnitude = ['i', 'n', 'f'] then some (.infinity (sign = some '-'))
  else if magnitude = ['n', 'a', 'n'] then some .nan
  else decimal? sign magnitude

end WildcardRules.Toml
