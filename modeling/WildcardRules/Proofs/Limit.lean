import WildcardRules.Proofs.Expression
import WildcardRules.Text.Bytes

/-!
How large a source may be. The expression of a source takes the same room for every star, and for
every other character as much as the bytes that encode it.
-/

set_option autoImplicit false

namespace WildcardRules

namespace ByteRanges

theorem between_same (tails n : Nat) :
    ∃ l : ByteRanges, between tails n n = [l] ∧ l.length = tails + 1 ∧ ∀ range ∈ l, range.1 = range.2 := by
  induction tails generalizing n with
  | zero => exact ⟨[(n, n)], rfl, rfl, by simp⟩
  | succ tails ih =>
      obtain ⟨l, same, count, single⟩ := ih (n % Nat.pow 64 (tails + 1))
      refine ⟨(n / Nat.pow 64 (tails + 1), n / Nat.pow 64 (tails + 1)) :: l, ?_, by simp [count],
        by simpa using single⟩
      rw [between, if_pos rfl, same]
      rfl

theorem length_lead_by (mark : Nat) (l : ByteRanges) : (leadBy mark l).length = l.length := by
  cases l <;> rfl

theorem lead_by_same (mark : Nat) (l : ByteRanges) (single : ∀ range ∈ l, range.1 = range.2) :
    ∀ range ∈ leadBy mark l, range.1 = range.2 := by
  cases l with
  | nil => exact single
  | cons range l => simpa [leadBy] using single

def within (n : Nat) (block : Nat × Nat × Nat × Nat) : List ByteRanges :=
  if max n block.2.2.1 ≤ min n block.2.2.2 then
    (between block.1 (max n block.2.2.1) (min n block.2.2.2)).map (leadBy block.2.1)
  else []

theorem within_inside (n tails mark first last : Nat) (low : first ≤ n) (high : n ≤ last) :
    ∃ l : ByteRanges, within n (tails, mark, first, last) = [l] ∧ l.length = tails + 1 ∧
      ∀ range ∈ l, range.1 = range.2 := by
  obtain ⟨l, same, count, single⟩ := between_same tails n
  refine ⟨leadBy mark l, ?_, by rw [length_lead_by, count], lead_by_same mark l single⟩
  simp [within, Nat.max_eq_left low, Nat.min_eq_left high, same]

theorem within_outside (n tails mark first last : Nat) (outside : n < first ∨ last < n) :
    within n (tails, mark, first, last) = [] := by
  rw [within, if_neg (by simp only; omega)]

theorem utf8_size_eq (c : Char) :
    c.utf8Size =
      if c.toNat ≤ 0x7F then 1 else if c.toNat ≤ 0x7FF then 2 else if c.toNat ≤ 0xFFFF then 3 else 4 := rfl

theorem of_set_single (c : Char) :
    ∃ l : ByteRanges, ofSet (.single c) = [l] ∧ l.length = c.utf8Size ∧ ∀ range ∈ l, range.1 = range.2 := by
  have blocksOf : ofSet (.single c) = blocks.flatMap (within c.toNat) := List.append_nil _
  have valid : c.toNat < 0xD800 ∨ 0xDFFF < c.toNat ∧ c.toNat < 0x110000 := c.valid
  rw [blocksOf, utf8_size_eq]
  simp only [blocks, List.flatMap_cons, List.flatMap_nil, List.append_nil]
  by_cases one : c.toNat ≤ 0x7F
  · simp (disch := omega) only [within_outside, List.append_nil, if_pos one]
    exact within_inside c.toNat 0 _ _ _ (by omega) one
  by_cases two : c.toNat ≤ 0x7FF
  · simp (disch := omega) only [within_outside, List.nil_append, List.append_nil, if_neg one, if_pos two]
    exact within_inside c.toNat 1 _ _ _ (by omega) two
  by_cases three : c.toNat ≤ 0xFFFF
  · rw [if_neg one, if_neg two, if_pos three]
    by_cases low : c.toNat < 0xD800
    · simp (disch := omega) only [within_outside, List.nil_append, List.append_nil]
      exact within_inside c.toNat 2 _ _ _ (by omega) (by omega)
    · simp (disch := omega) only [within_outside, List.nil_append, List.append_nil]
      exact within_inside c.toNat 2 _ _ _ (by omega) three
  · simp (disch := omega) only [within_outside, List.nil_append, if_neg one, if_neg two, if_neg three]
    exact within_inside c.toNat 3 _ _ _ (by omega) (by omega)

end ByteRanges

namespace Regex

theorem class_size_single (c : Char) : classSize (.single c) = c.utf8Size * stateSize := by
  obtain ⟨l, alone, count, single⟩ := ByteRanges.of_set_single c
  have same : (List.flatten [l]).all (fun range => range.1 == range.2) = true := by simpa using single
  have flat : [l].flatten = l := by simp
  rw [classSize, alone, same, flat, count]
  rfl

theorem size_star : star.sizeInSequence = 1104 := by decide

theorem size_sequence_append (first second : List Regex) :
    (sequence (first ++ second)).sizeInSequence =
      (sequence first).sizeInSequence + (sequence second).sizeInSequence := by
  induction first with
  | nil => exact (Nat.zero_add _).symm
  | cons r first ih => rw [List.cons_append, sequence, sequence, sizeInSequence, sizeInSequence, ih, Nat.add_assoc]

end Regex

namespace Template

theorem size_literal (text : Text) :
    (Regex.sequence (Segment.literal text).regexes).sizeInSequence = (Text.toBytes text).length * Regex.stateSize := by
  induction text with
  | nil => rfl
  | cons c text ih =>
      have first := Regex.class_size_single c
      have encoded : Text.toBytes (c :: text) = String.utf8EncodeChar c ++ Text.toBytes text := List.flatMap_cons
      rw [encoded, List.length_append, String.length_utf8EncodeChar, Nat.add_mul, ← ih, ← first]
      rfl

-- How many bytes encode the literals.
def literalBytes (t : Template) : Nat := (Text.toBytes t.literals.flatten).length

theorem size_segments (t : Template) :
    (Regex.sequence (t.segments.flatMap Segment.regexes)).sizeInSequence =
      t.stars * Regex.star.sizeInSequence + t.literalBytes * Regex.stateSize := by
  obtain ⟨head, tail⟩ := t
  induction tail generalizing head with
  | nil =>
      have alone := size_literal head
      simpa [segments, stars, literalBytes, literals] using alone
  | cons literal tail ih =>
      have rest := ih literal
      have first := size_literal head
      have parts : segments ⟨head, literal :: tail⟩ =
          .literal head :: .wildcard :: segments ⟨literal, tail⟩ := rfl
      have bytes : literalBytes ⟨head, literal :: tail⟩ =
          (Text.toBytes head).length + literalBytes ⟨literal, tail⟩ := by
        simp [literalBytes, literals, Text.toBytes]
      have starred : stars ⟨head, literal :: tail⟩ = stars ⟨literal, tail⟩ + 1 := rfl
      rw [parts, List.flatMap_cons, List.flatMap_cons, Regex.size_sequence_append, Regex.size_sequence_append,
        first, rest, bytes, starred, Nat.add_mul, Nat.add_mul]
      change _ + (Regex.star.sizeInSequence + 0 + _) = _
      omega

theorem size_regex (t : Template) :
    t.regex.size = 2 * Regex.stateSize + t.stars * 1104 + t.literalBytes * Regex.stateSize := by
  have whole : t.regex.sizeInSequence = Regex.stateSize +
      ((Regex.sequence (t.segments.flatMap Segment.regexes)).sizeInSequence + Regex.stateSize) := by
    rw [regex, List.cons_append, Regex.sequence, Regex.sizeInSequence, Regex.size_sequence_append]
    rfl
  rw [Regex.size, whole, size_segments, Regex.size_star]
  omega

end Template

namespace Rule

variable (source : Text)

def sourceExpression : Text := ((Template.ofText source).mapLiterals readLiteral).expression

def WithinLimit : Prop := ∃ r, Regex.ofText (sourceExpression source) = .ok r ∧ r.size ≤ Regex.sizeLimit

theorem within_limit_iff :
    WithinLimit source ↔ ((Template.ofText source).mapLiterals readLiteral).regex.size ≤ Regex.sizeLimit := by
  rw [WithinLimit, sourceExpression, Template.of_text_expression]
  simp

theorem within_limit_iff_count : WithinLimit source ↔ 2 * Regex.stateSize + source.count '*' * 1104 +
    ((Template.ofText source).mapLiterals readLiteral).literalBytes * Regex.stateSize ≤ Regex.sizeLimit := by
  rw [within_limit_iff, Template.size_regex, Template.stars_map_literals, Template.stars_of_text]

theorem beyond_limit_of_stars (many : Regex.sizeLimit < source.count '*' * 1104) : ¬ WithinLimit source := by
  rw [within_limit_iff_count]
  omega

instance : Decidable (WithinLimit source) := decidable_of_iff _ (within_limit_iff_count source).symm

end Rule

end WildcardRules
