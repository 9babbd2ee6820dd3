import WildcardRules.Text

set_option autoImplicit false

namespace WildcardRules.Text

def roundBracket (c : Char) : Char :=
  if c = '[' then '(' else if c = ']' then ')' else c

def normalizeBrackets (t : Text) : Text := t.map roundBracket

def hasSquareBracket (t : Text) : Bool := t.any fun c => c == '[' || c == ']'

@[simp] theorem normalize_brackets_nil : normalizeBrackets [] = [] := rfl

@[simp] theorem normalize_brackets_cons (c : Char) (t : Text) :
    normalizeBrackets (c :: t) = roundBracket c :: normalizeBrackets t := rfl

@[simp] theorem normalize_brackets_append (t u : Text) :
    normalizeBrackets (t ++ u) = normalizeBrackets t ++ normalizeBrackets u :=
  List.map_append

theorem round_bracket_of_not_square (c : Char) (plain : c ≠ '[' ∧ c ≠ ']') : roundBracket c = c := by
  rw [roundBracket, if_neg plain.1, if_neg plain.2]

theorem round_bracket_not_square (c : Char) : roundBracket c ≠ '[' ∧ roundBracket c ≠ ']' := by
  by_cases opening : c = '['
  · simp [roundBracket, opening]
  · by_cases closing : c = ']'
    · simp [roundBracket, closing]
    · simp [roundBracket, opening, closing]

@[simp] theorem round_bracket_round_bracket (c : Char) :
    roundBracket (roundBracket c) = roundBracket c :=
  round_bracket_of_not_square (roundBracket c) (round_bracket_not_square c)

@[simp] theorem normalize_brackets_normalize_brackets (t : Text) :
    normalizeBrackets (normalizeBrackets t) = normalizeBrackets t := by
  simp [normalizeBrackets]

theorem not_mem_normalize_brackets (t : Text) : '[' ∉ t.normalizeBrackets ∧ ']' ∉ t.normalizeBrackets := by
  constructor
  · intro present
    obtain ⟨c, -, turned⟩ := List.mem_map.1 present
    exact (round_bracket_not_square c).1 turned
  · intro present
    obtain ⟨c, -, turned⟩ := List.mem_map.1 present
    exact (round_bracket_not_square c).2 turned

theorem has_square_bracket_eq_false_iff (t : Text) : hasSquareBracket t = false ↔ '[' ∉ t ∧ ']' ∉ t := by
  rw [hasSquareBracket, List.any_eq_false]
  simp only [Bool.or_eq_true, beq_iff_eq, not_or]
  constructor
  · intro plain
    exact ⟨fun present => (plain '[' present).1 rfl, fun present => (plain ']' present).2 rfl⟩
  · intro both c member
    exact ⟨fun same => both.1 (same ▸ member), fun same => both.2 (same ▸ member)⟩

theorem normalize_brackets_eq_self (t : Text) (plain : hasSquareBracket t = false) :
    normalizeBrackets t = t := by
  induction t with
  | nil => rfl
  | cons c t ih =>
      simp only [hasSquareBracket, List.any_cons, Bool.or_eq_false_iff,
        beq_eq_false_iff_ne] at plain
      rw [normalize_brackets_cons, ih plain.2, round_bracket_of_not_square c plain.1]

end WildcardRules.Text
