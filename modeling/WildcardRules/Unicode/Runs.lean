import WildcardRules.Text.CharSet

set_option autoImplicit false

namespace WildcardRules.Unicode

def wordsOf (lines : List String) : List Text :=
  lines.flatMap fun line => line.toList.splitOn ' '

def decimalNumber (digits : Text) : Nat :=
  digits.foldl (fun value c => value * 10 + (c.toNat - '0'.toNat)) 0

def hexNumber (digits : Text) : Nat :=
  digits.foldl (fun value c =>
    value * 16 + (if c.isDigit then c.toNat - '0'.toNat else c.toNat - 'A'.toNat + 10)) 0

def runsOf (lines : List String) : List (Text × Nat) :=
  (wordsOf lines).map fun word =>
    (word.takeWhile Char.isAlpha, decimalNumber (word.dropWhile Char.isAlpha))

def edgesOfRuns {α : Type} (isWanted : α → Bool) (place : Nat) (inside : Bool) :
    List (α × Nat) → List Nat
  | [] => []
  | (name, span) :: runs =>
      CharSet.edgeIf (isWanted name != inside) place
        (edgesOfRuns isWanted (place + span) (isWanted name) runs)

def setOfRuns {α : Type} (isWanted : α → Bool) (runs : List (α × Nat)) : CharSet :=
  ⟨edgesOfRuns isWanted 0 false runs⟩

def rangesOf (lines : List String) : List (Nat × Nat) :=
  (wordsOf lines).map fun word =>
    match word.splitOn '-' with
    | [first, last] => (hexNumber first, hexNumber last)
    | _ => (hexNumber word, hexNumber word)

def setOf (lines : List String) : CharSet := CharSet.ofRanges (rangesOf lines)

end WildcardRules.Unicode
