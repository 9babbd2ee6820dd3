import WildcardRules.Text

set_option autoImplicit false

namespace WildcardRules

-- The literal before the first star, and the literal after each star in order.
structure Template where
  head : Text
  tail : List Text
deriving DecidableEq

inductive Segment where
  | literal (text : Text)
  | wildcard
deriving DecidableEq

namespace Template

def ofText : Text → Template
  | [] => ⟨[], []⟩
  | c :: t =>
      let rest := ofText t
      if c = '*' then ⟨[], rest.head :: rest.tail⟩ else ⟨c :: rest.head, rest.tail⟩

def stars (t : Template) : Nat := t.tail.length

def literals (t : Template) : List Text := t.head :: t.tail

def segments (t : Template) : List Segment :=
  .literal t.head :: t.tail.flatMap fun literal => [.wildcard, .literal literal]

def mapLiterals (f : Text → Text) (t : Template) : Template := ⟨f t.head, t.tail.map f⟩

-- Puts the texts in front of the literals in order; where texts are missing nothing is put, and
-- texts left over are dropped.
def interleave : List Text → List Text → Text
  | _, [] => []
  | [], literal :: literals => literal ++ interleave [] literals
  | c :: cs, literal :: literals => c ++ (literal ++ interleave cs literals)

def fill (t : Template) (captures : List Text) : Text := t.head ++ interleave captures t.tail

def toText (t : Template) : Text := t.fill (List.replicate t.stars ['*'])

@[simp] theorem stars_map_literals (f : Text → Text) (t : Template) :
    (t.mapLiterals f).stars = t.stars := by
  simp [mapLiterals, stars]

theorem length_segments (t : Template) : t.segments.length = 2 * t.stars + 1 := by
  obtain ⟨head, tail⟩ := t
  induction tail with
  | nil => rfl
  | cons literal tail ih =>
      simp only [segments, stars, List.flatMap_cons, List.length_cons, List.length_append,
        List.length_nil] at ih ⊢
      omega

theorem stars_of_text (t : Text) : (ofText t).stars = t.count '*' := by
  induction t with
  | nil => rfl
  | cons c t ih =>
      by_cases star : c = '*'
      · simpa [ofText, star, stars] using ih
      · simpa [ofText, star, stars] using ih

theorem to_text_of_text (t : Text) : (ofText t).toText = t := by
  induction t with
  | nil => rfl
  | cons c t ih =>
      by_cases star : c = '*'
      · simpa [ofText, star, toText, stars, fill, List.replicate_succ, interleave] using ih
      · simpa [ofText, star, toText, stars, fill] using ih

end Template

end WildcardRules
