import WildcardRules.Toml.Number

set_option autoImplicit false

namespace WildcardRules.Toml

def fixedDigits? (count : Nat) (t : Text) : Option Nat :=
  if t.length = count ∧ t.all Char.isDigit then some (valueOf 10 t) else none

def isLeapYear (year : Nat) : Bool :=
  year % 4 == 0 && (year % 100 != 0 || year % 400 == 0)

def daysInMonth (year month : Nat) : Nat :=
  if month = 2 then (if isLeapYear year then 29 else 28)
  else if month = 4 ∨ month = 6 ∨ month = 9 ∨ month = 11 then 30 else 31

def date? (t : Text) : Option Date := do
  guard (t.length = 10 ∧ t[4]? = some '-' ∧ t[7]? = some '-')
  let year ← fixedDigits? 4 (t.take 4)
  let month ← fixedDigits? 2 ((t.drop 5).take 2)
  let day ← fixedDigits? 2 (t.drop 8)
  guard (1 ≤ month ∧ month ≤ 12 ∧ 1 ≤ day ∧ day ≤ daysInMonth year month)
  return ⟨year, month, day⟩

-- The nanoseconds of the digits after a second's point; digits past the ninth are dropped.
def nanoseconds (digits : Text) : Nat :=
  valueOf 10 ((digits ++ List.replicate 9 '0').take 9)

def seconds? : Text → Option (Nat × Nat)
  | [] => some (0, 0)
  | ':' :: t => do
      let second ← fixedDigits? 2 (t.take 2)
      guard (second ≤ 60)
      match t.drop 2 with
      | [] => return (second, 0)
      | '.' :: digits =>
          guard (digits ≠ [] ∧ digits.all Char.isDigit)
          return (second, nanoseconds digits)
      | _ => failure
  | _ => none

def clock? (t : Text) : Option (Nat × Nat) := do
  guard (t.length = 5 ∧ t[2]? = some ':')
  let hour ← fixedDigits? 2 (t.take 2)
  let minute ← fixedDigits? 2 (t.drop 3)
  guard (hour ≤ 23 ∧ minute ≤ 59)
  return (hour, minute)

def time? (t : Text) : Option Time := do
  let (hour, minute) ← clock? (t.take 5)
  let (second, nanosecond) ← seconds? (t.drop 5)
  return ⟨hour, minute, second, nanosecond⟩

def offsetTime? (t : Text) : Option (Time × Option Int) :=
  let clock := t.takeWhile fun c => c.isDigit || c == ':' || c == '.'
  match t.drop clock.length with
  | [] => (time? clock).map fun time => (time, none)
  | ['Z'] => (time? clock).map fun time => (time, some 0)
  | ['z'] => (time? clock).map fun time => (time, some 0)
  | sign :: offset => do
      guard (sign = '+' ∨ sign = '-')
      let time ← time? clock
      let (hours, minutes) ← clock? offset
      let distance : Int := hours * 60 + minutes
      return (time, some (if sign = '-' then -distance else distance))

def dateTime? (t : Text) : Option DateTime :=
  match (date? (t.take 10)), t.drop 10 with
  | some date, [] => some (.date date)
  | some date, separator :: clock => do
      guard (separator = 'T' ∨ separator = 't' ∨ separator = ' ')
      let (time, offset) ← offsetTime? clock
      return .dateTime date time offset
  | none, _ => (time? t).map .time

end WildcardRules.Toml
