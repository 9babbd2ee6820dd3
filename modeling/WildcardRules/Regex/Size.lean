import WildcardRules.Regex
import WildcardRules.Regex.Limit

/-!
How many bytes an expression takes. An expression is laid out as an automaton that goes through the
bytes of a text from back to front; every state of it takes as many bytes as any other, and the ways
on from a state take some more. Nothing is laid out here: sizes are only counted.
-/

set_option autoImplicit false

namespace WildcardRules

-- The ranges of bytes, one after another, that encode some characters. Of a byte that is not the
-- first one of a character only the part that varies is given.
abbrev ByteRanges := List (Nat × Nat)

namespace ByteRanges

def between : (tails first last : Nat) → List ByteRanges
  | 0, first, last => [[(first, last)]]
  | tails + 1, first, last =>
      let unit := Nat.pow 64 (tails + 1)
      let low := first / unit
      let high := last / unit
      if low = high then
        (between tails (first % unit) (last % unit)).map ((low, low) :: ·)
      else
        let beginsLate := first % unit != 0
        let endsEarly := last % unit != unit - 1
        let whole := (if beginsLate then low + 1 else low, if endsEarly then high - 1 else high)
        (if beginsLate then (between tails (first % unit) (unit - 1)).map ((low, low) :: ·) else [])
          ++ (if whole.1 ≤ whole.2 then [whole :: List.replicate (tails + 1) (0, 63)] else [])
          ++ (if endsEarly then (between tails 0 (last % unit)).map ((high, high) :: ·) else [])

def blocks : List (Nat × Nat × Nat × Nat) :=
  [(0, 0, 0, 0x7F), (1, 0xC0, 0x80, 0x7FF), (2, 0xE0, 0x800, 0xD7FF), (2, 0xE0, 0xE000, 0xFFFF),
    (3, 0xF0, 0x10000, 0x10FFFF)]

def leadBy (mark : Nat) : ByteRanges → ByteRanges
  | [] => []
  | (first, last) :: tails => (mark + first, mark + last) :: tails

def ofSet (k : CharSet) : List ByteRanges :=
  k.ranges.flatMap fun range =>
    blocks.flatMap fun (tails, mark, first, last) =>
      let low := max range.1 first
      let high := min range.2 last
      if low ≤ high then (between tails low high).map (leadBy mark) else []

def differing : (earlier later : ByteRanges) → Nat
  | x :: xs, y :: ys => if x = y then differing xs ys else ys.length + 1
  | _, ys => ys.length

def countShared (previous : ByteRanges) : List ByteRanges → Nat
  | [] => 0
  | s :: rest => differing previous s + countShared s rest

end ByteRanges

namespace Regex

def stateSize : Nat := 32

def branchSize : Nat := 4

def stepSize : Nat := 8

def choiceSize : Nat := stateSize + 2 * branchSize

-- The bytes that a class takes. One character takes a state for each of its bytes. The ranges of a
-- class within ASCII leave from one state and meet in another; otherwise every range of bytes has a
-- state of its own, but for ranges that begin alike.
def classSize (k : CharSet) : Nat :=
  let sequences := ByteRanges.ofSet k
  if sequences.length = 1 && sequences.flatten.all (fun range => range.1 == range.2) then
    sequences.flatten.length * stateSize
  else if sequences.all (fun s => s.length == 1) then
    2 * stateSize + sequences.length * stepSize
  else (2 + ByteRanges.countShared [] sequences) * stateSize + sequences.length * branchSize

def takesNothing : Regex → Bool
  | .empty => true
  | .char _ => false
  | .place _ => true
  | .both first second => first.takesNothing && second.takesNothing
  | .either first second => first.takesNothing && second.takesNothing
  | .times body _ most => body.takesNothing || most == some 0
  | .group body => body.takesNothing

def takesSome : Regex → Bool
  | .empty => false
  | .char _ => true
  | .place _ => false
  | .both first second => first.takesSome || second.takesSome
  | .either first second => first.takesSome && second.takesSome
  | .times body least _ => least != 0 && body.takesSome
  | .group body => body.takesSome

def isChoice : Regex → Bool
  | .either _ _ => true
  | _ => false

def timesSize (size : Nat) (takesSome : Bool) : (least : Nat) → (most : Option Nat) → Nat
  | 0, none =>
      if takesSome then choiceSize + size else size + 2 * choiceSize + stateSize
  | least, none => least * size + choiceSize
  | least, some most =>
      if most = least then least * size
      else if least = 0 ∧ most = 1 then choiceSize + size + stateSize
      else (if least = 0 then stateSize else least * size) + stateSize
        + (most - least) * (choiceSize + size)

-- The bytes that an expression takes in a sequence, which are none if it is empty. To repeat what
-- takes nothing is to have it at most once, and to have something once is no repetition. The places
-- where a group begins and ends are states as well.
def sizeInSequence : Regex → Nat
  | .empty => 0
  | .char k => classSize k
  | .place _ => stateSize
  | .both first second => first.sizeInSequence + second.sizeInSequence
  | .either first second =>
      branchSize + max stateSize first.sizeInSequence
        + if second.isChoice then second.sizeInSequence
          else 2 * stateSize + branchSize + max stateSize second.sizeInSequence
  | .times body least most =>
      let least := if body.takesNothing then min least 1 else least
      let most := if body.takesNothing then some (min (most.getD 1) 1) else most
      if most = some 0 then 0
      else if least = 1 ∧ most = some 1 then body.sizeInSequence
      else timesSize (max stateSize body.sizeInSequence) body.takesSome least most
  | .group body => 2 * stateSize + max stateSize body.sizeInSequence

def size (r : Regex) : Nat := max stateSize r.sizeInSequence

end Regex

end WildcardRules
