import WildcardRules.Text.CharSet

set_option autoImplicit false

namespace WildcardRules

inductive Regex where
  | empty
  | char (k : CharSet)
  | place (holds : Option Char → Option Char → Bool)
  | both (first second : Regex)
  | either (first second : Regex)
  | times (body : Regex) (least : Nat) (most : Option Nat)
  | group (body : Regex)

namespace Regex

def or : Regex → Regex → Regex
  | .char k, .char l => .char (k.union l)
  | r, .char l => if l.edges.isEmpty then r else .either r (.char l)
  | r, s => .either r s

-- One mark for every place of a text, from the place before its first character to the place after
-- its last one.
abbrev Marks := List Bool

def Marks.union (a b : Marks) : Marks := List.zipWith (· || ·) a b

def Marks.past (k : CharSet) (t : Text) (marks : Marks) : Marks :=
  false :: List.zipWith (fun c marked => marked && k.contains c) t marks

def Marks.at (holds : Option Char → Option Char → Bool) :
    (previous : Option Char) → Text → Marks → Marks
  | previous, c :: t, marked :: marks =>
      (marked && holds previous (some c)) :: Marks.at holds (some c) t marks
  | previous, [], marked :: _ => [marked && holds previous none]
  | _, _, [] => []

def Marks.after (step : Marks → Marks) : Nat → Marks → Marks
  | 0, marks => marks
  | n + 1, marks => Marks.after step n (step marks)

def Marks.without (a b : Marks) : Marks := List.zipWith (fun x y => x && !y) a b

-- The places that are reached when a step is taken up to a number of times, from new places among
-- those reached already. Each place is gone on from once, when it is new.
def Marks.within (step : Marks → Marks) : Nat → (reached fresh : Marks) → Marks
  | 0, reached, _ => reached
  | n + 1, reached, fresh =>
      let found := (step fresh).without reached
      if found.any id then Marks.within step n (reached.union found) found else reached

-- The marked places, and the places up to which nothing but characters of a class comes after a
-- marked place; `carried` tells whether the first place is one of the latter.
def Marks.throughout (k : CharSet) : (carried : Bool) → Text → Marks → Marks
  | carried, c :: t, marked :: marks =>
      (carried || marked) :: Marks.throughout k ((carried || marked) && k.contains c) t marks
  | carried, [], marked :: _ => [carried || marked]
  | _, _, [] => []

def class? : Regex → Option CharSet
  | .char k => some k
  | .group body => body.class?
  | _ => none

-- The places where an expression may end that begins at a marked place. More repetitions than
-- there are places reach nothing that fewer do not: some repetition has taken no character then.
def run (t : Text) : Regex → Marks → Marks
  | .empty, marks => marks
  | .char k, marks => marks.past k t
  | .place holds, marks => Marks.at holds none t marks
  | .both first second, marks => run t second (run t first marks)
  | .either first second, marks => (run t first marks).union (run t second marks)
  | .times body least most, marks =>
      let begun := Marks.after (run t body) (min least marks.length) marks
      match most, body.class? with
      | none, some k => Marks.throughout k false t begun
      | none, none => Marks.within (run t body) marks.length begun begun
      | some most, _ => Marks.within (run t body) (min (most - least) marks.length) begun begun
  | .group body, marks => run t body marks

def isMatch (r : Regex) (t : Text) : Bool :=
  (run t r (List.replicate (t.length + 1) true)).any id

end Regex

end WildcardRules
