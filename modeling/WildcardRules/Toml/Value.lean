import WildcardRules.Toml.Integer

set_option autoImplicit false

namespace WildcardRules.Toml

inductive Float where
  | decimal (negative : Bool) (significand : Nat) (exponent : Int)
  | infinity (negative : Bool)
  | nan
deriving DecidableEq

structure Date where
  year : Nat
  month : Nat
  day : Nat
deriving DecidableEq

structure Time where
  hour : Nat
  minute : Nat
  second : Nat
  nanosecond : Nat
deriving DecidableEq

inductive DateTime where
  | date (date : Date)
  | time (time : Time)
  | dateTime (date : Date) (time : Time) (offset : Option Int)
deriving DecidableEq

inductive Value where
  | string (text : Text)
  | integer (number : Integer)
  | float (number : Float)
  | boolean (value : Bool)
  | dateTime (moment : DateTime)
  | array (items : List Value)
  | table (entries : List (Text × Value))
deriving Inhabited

namespace Value

def text? : Value → Option Text
  | .string text => some text
  | _ => none

def boolean? : Value → Option Bool
  | .boolean value => some value
  | _ => none

end Value

namespace Float

-- Least magnitude that is nearer to infinity than to any double-precision number.
def overflowBound : Nat := Nat.pow 2 1024 - Nat.pow 2 970

def isRepresentable : Float → Bool
  | .decimal _ significand exponent =>
      let digits := (Nat.toDigits 10 significand).length
      if significand = 0 ∨ digits + exponent < 300 then true
      else if 320 < digits + exponent then false
      else if 0 ≤ exponent then significand * Nat.pow 10 exponent.toNat < overflowBound
      else significand < overflowBound * Nat.pow 10 (-exponent).toNat
  | _ => true

end Float

end WildcardRules.Toml
