import WildcardRules.Text

/-!
Sets of characters. A set is given by its edges, the code points at which it begins and ends in
turn, so that joining two sets is a walk along the edges of both.
-/

set_option autoImplicit false

namespace WildcardRules

-- A set of code points: in ascending order, the first one that is in it, the first one after that
-- which is not, and so on.
structure CharSet where
  edges : List Nat
deriving DecidableEq

namespace CharSet

def isInside (inside : Bool) : (edges : List Nat) → (n : Nat) → Bool
  | [], _ => inside
  | edge :: edges, n => if n < edge then inside else isInside (!inside) edges n

def has (s : CharSet) (n : Nat) : Bool := isInside false s.edges n

def contains (s : CharSet) (c : Char) : Bool := s.has c.toNat

def edgeIf (isEdge : Bool) (edge : Nat) (edges : List Nat) : List Nat :=
  if isEdge then edge :: edges else edges

-- The edges of what an operation makes of two sets whose edges lie ahead; `a` and `b` tell whether
-- the place before those edges is inside of the sets. Where one set has no more edges, those of the
-- other one either all count or make no difference.
def merge (op : Bool → Bool → Bool) (a b : Bool) : (xs ys : List Nat) → List Nat
  | [], ys => if op a b != op a !b then ys else []
  | xs, [] => if op a b != op (!a) b then xs else []
  | x :: xs, y :: ys =>
      if x < y then edgeIf (op a b != op (!a) b) x (merge op (!a) b xs (y :: ys))
      else if y < x then edgeIf (op a b != op a !b) y (merge op a (!b) (x :: xs) ys)
      else edgeIf (op a b != op (!a) !b) x (merge op (!a) (!b) xs ys)
termination_by xs ys => xs.length + ys.length

def empty : CharSet := ⟨[]⟩

def range (first last : Nat) : CharSet := ⟨[first, last + 1]⟩

def single (c : Char) : CharSet := range c.toNat c.toNat

def ascii : CharSet := range 0 0x7F

def ofRanges (ranges : List (Nat × Nat)) : CharSet := ⟨ranges.flatMap fun r => [r.1, r.2 + 1]⟩

def edgesOf : List Nat → List Nat
  | [] => []
  | n :: rest =>
      match edgesOf rest with
      | [] => [n, n + 1]
      | first :: edges =>
          if first = n then first :: edges
          else if first = n + 1 then n :: edges
          else n :: (n + 1) :: first :: edges

def ofList (points : List Nat) : CharSet := ⟨edgesOf (points.mergeSort (· ≤ ·))⟩

def union (s t : CharSet) : CharSet := ⟨merge (· || ·) false false s.edges t.edges⟩

def inter (s t : CharSet) : CharSet := ⟨merge (· && ·) false false s.edges t.edges⟩

def diff (s t : CharSet) : CharSet := ⟨merge (fun a b => a && !b) false false s.edges t.edges⟩

def symmDiff (s t : CharSet) : CharSet := ⟨merge (· != ·) false false s.edges t.edges⟩

def compl (s : CharSet) : CharSet :=
  match s.edges with
  | 0 :: edges => ⟨edges⟩
  | edges => ⟨0 :: edges⟩

def unions (sets : List CharSet) : CharSet := sets.foldr union empty

def lastPoint : Nat := 0x10FFFF

def rangesFrom : (edges : List Nat) → List (Nat × Nat)
  | first :: stop :: edges => (first, stop - 1) :: rangesFrom edges
  | [first] => [(first, lastPoint)]
  | [] => []

def ranges (s : CharSet) : List (Nat × Nat) := rangesFrom s.edges

end CharSet

end WildcardRules
