import WildcardRules.Proofs.Compilation

/-!
What the expression of a template matches. Marks are told by what stands behind them, so that a step
of the search is a character, or a text without line breaks, taken off the front of that.
-/

set_option autoImplicit false

namespace WildcardRules

namespace CharSet

theorem contains_single (c d : Char) : (single c).contains d = true ↔ d = c := by
  rw [← Char.toNat_inj]
  by_cases before : d.toNat < c.toNat
  · simp [contains, has, single, range, isInside, before]
    omega
  · by_cases here : d.toNat < c.toNat + 1
    · simp [contains, has, single, range, isInside, before, here]
      omega
    · simp [contains, has, single, range, isInside, before, here]
      omega

theorem contains_dot (c : Char) : (Regex.Class.dot {}).contains c = true ↔ c ≠ '\n' := by
  have complement : (Regex.Class.dot {}).contains c = !(single '\n').contains c := by
    have edges : (Regex.Class.dot {}).edges = 0 :: (single '\n').edges := rfl
    rw [contains, has, edges, isInside, if_neg (Nat.not_lt_zero _)]
    by_cases before : c.toNat < 10
    · simp [contains, has, single, range, isInside, before]
    · by_cases here : c.toNat < 11 <;> simp [contains, has, single, range, isInside, before, here]
  rw [complement, Bool.not_eq_true', ← Bool.not_eq_true, contains_single]

end CharSet

namespace Regex

namespace Marks

-- A marked place of the text has the rest behind it.
def Leaves : Text → Marks → Text → Prop
  | _, [], _ => False
  | [], marked :: _, rest => marked = true ∧ rest = []
  | c :: t, marked :: marks, rest => marked = true ∧ rest = c :: t ∨ Leaves t marks rest

variable (t : Text) (marks : Marks) (rest : Text)

theorem leaves_cons (marked : Bool) :
    Leaves t (marked :: marks) rest ↔ marked = true ∧ rest = t ∨ Leaves t (false :: marks) rest := by
  cases t with
  | nil => simp [Leaves]
  | cons c t => simp [Leaves]

theorem leaves_past (k : CharSet) :
    Leaves t (marks.past k t) rest ↔ ∃ c, k.contains c = true ∧ Leaves t marks (c :: rest) := by
  induction t generalizing marks with
  | nil => cases marks <;> simp [past, Leaves]
  | cons d t ih =>
      cases marks with
      | nil => cases t <;> simp [past, Leaves]
      | cons marked marks =>
          have later := ih marks
          rw [past] at later
          rw [past, List.zipWith_cons_cons, Leaves, leaves_cons, later]
          constructor
          · intro found
            rcases found with ⟨never, -⟩ | ⟨both, rfl⟩ | ⟨c, inside, leaves⟩
            · cases never
            · obtain ⟨here, inside⟩ := Bool.and_eq_true_iff.1 both
              exact ⟨d, inside, .inl ⟨here, rfl⟩⟩
            · exact ⟨c, inside, .inr leaves⟩
          · intro found
            obtain ⟨c, inside, ⟨here, same⟩ | leaves⟩ := found
            · obtain ⟨rfl, rfl⟩ := List.cons.inj same
              exact .inr (.inl ⟨by simp [here, inside], rfl⟩)
            · exact .inr (.inr ⟨c, inside, leaves⟩)

theorem carried_or_leaves_cons (carried marked : Bool) (c : Char) :
    carried = true ∧ rest = c :: t ∨ Leaves (c :: t) (marked :: marks) rest ↔
      (carried || marked) = true ∧ rest = c :: t ∨ Leaves t marks rest := by
  rw [Leaves, Bool.or_eq_true, or_and_right, or_assoc]

theorem leaves_throughout (k : CharSet) (carried : Bool) (full : marks.length = t.length + 1) :
    Leaves t (marks.throughout k carried t) rest ↔ ∃ inner : Text, (∀ c ∈ inner, k.contains c = true) ∧
      (carried = true ∧ inner ++ rest = t ∨ Leaves t marks (inner ++ rest)) := by
  induction t generalizing carried marks with
  | nil =>
      obtain ⟨marked, others, rfl⟩ := List.exists_cons_of_length_eq_add_one full
      simp only [throughout, Leaves, Bool.or_eq_true, List.append_eq_nil_iff]
      constructor
      · intro found
        obtain ⟨reached, rfl⟩ := found
        exact ⟨[], by simp, by simpa using reached⟩
      · intro found
        obtain ⟨inner, -, ⟨reached, -, rfl⟩ | ⟨reached, -, rfl⟩⟩ := found
        · exact ⟨.inl reached, rfl⟩
        · exact ⟨.inr reached, rfl⟩
  | cons c t ih =>
      obtain ⟨marked, others, rfl⟩ := List.exists_cons_of_length_eq_add_one full
      rw [throughout, Leaves, ih others _ (Nat.succ.inj full)]
      simp only [carried_or_leaves_cons, Bool.and_eq_true]
      constructor
      · intro found
        rcases found with ⟨reached, rfl⟩ | ⟨inner, inside, ⟨⟨reached, first⟩, rfl⟩ | leaves⟩
        · exact ⟨[], by simp, .inl ⟨reached, rfl⟩⟩
        · exact ⟨c :: inner, List.forall_mem_cons.2 ⟨first, inside⟩, .inl ⟨reached, rfl⟩⟩
        · exact ⟨inner, inside, .inr leaves⟩
      · intro found
        obtain ⟨inner, inside, ⟨reached, whole⟩ | leaves⟩ := found
        · cases inner with
          | nil => exact .inl ⟨reached, whole⟩
          | cons d inner =>
              obtain ⟨rfl, same⟩ := List.cons.inj whole
              obtain ⟨first, others⟩ := List.forall_mem_cons.1 inside
              exact .inr ⟨inner, others, .inl ⟨⟨reached, first⟩, same⟩⟩
        · exact .inr ⟨inner, inside, .inr leaves⟩

theorem length_past (k : CharSet) (full : marks.length = t.length + 1) : (marks.past k t).length = t.length + 1 := by
  simp [past, full]

theorem length_at (holds : Option Char → Option Char → Bool) (previous : Option Char)
    (full : marks.length = t.length + 1) : (Marks.at holds previous t marks).length = t.length + 1 := by
  induction t generalizing marks previous with
  | nil =>
      obtain ⟨marked, others, rfl⟩ := List.exists_cons_of_length_eq_add_one full
      rfl
  | cons c t ih =>
      obtain ⟨marked, others, rfl⟩ := List.exists_cons_of_length_eq_add_one full
      simp [Marks.at, ih others (some c) (Nat.succ.inj full)]

theorem length_throughout (k : CharSet) (carried : Bool) (full : marks.length = t.length + 1) :
    (marks.throughout k carried t).length = t.length + 1 := by
  induction t generalizing marks carried with
  | nil =>
      obtain ⟨marked, others, rfl⟩ := List.exists_cons_of_length_eq_add_one full
      rfl
  | cons c t ih =>
      obtain ⟨marked, others, rfl⟩ := List.exists_cons_of_length_eq_add_one full
      simp [throughout, ih others _ (Nat.succ.inj full)]

theorem not_leaves_start (c : Char) : ¬ Leaves t (Marks.at Place.textStart (some c) t marks) rest := by
  induction t generalizing c marks with
  | nil => cases marks <;> simp [Marks.at, Leaves, Place.textStart]
  | cons d t ih =>
      cases marks with
      | nil => simp [Marks.at, Leaves]
      | cons marked marks =>
          simp only [Marks.at, Leaves, Place.textStart, Option.isNone_some, Bool.and_false, Bool.false_eq_true,
            false_and, false_or]
          exact ih marks d

theorem leaves_start :
    Leaves t (Marks.at Place.textStart none t (List.replicate (t.length + 1) true)) rest ↔ rest = t := by
  cases t with
  | nil => simp [Marks.at, Leaves, Place.textStart]
  | cons c t =>
      simp only [List.length_cons, List.replicate_succ (n := t.length + 1), Marks.at, Leaves, Place.textStart,
        Option.isNone_none, Bool.and_self, true_and, or_iff_left_iff_imp]
      intro leaves
      exact absurd leaves (not_leaves_start t _ rest c)

theorem any_end (previous : Option Char) :
    (Marks.at Place.textEnd previous t marks).any id = true ↔ Leaves t marks [] := by
  induction t generalizing previous marks with
  | nil => cases marks <;> simp [Marks.at, Leaves, Place.textEnd]
  | cons c t ih =>
      cases marks with
      | nil => simp [Marks.at, Leaves]
      | cons marked marks => simp [Marks.at, Leaves, Place.textEnd, ih marks (some c)]

end Marks

open Marks

variable (t : Text) (marks : Marks) (rest : Text)

theorem run_sequence_cons (r : Regex) (regexes : List Regex) :
    run t (sequence (r :: regexes)) marks = run t (sequence regexes) (run t r marks) := rfl

theorem run_sequence_append (first second : List Regex) :
    run t (sequence (first ++ second)) marks = run t (sequence second) (run t (sequence first) marks) := by
  induction first generalizing marks with
  | nil => rfl
  | cons r first ih => rw [List.cons_append, run_sequence_cons, run_sequence_cons, ih]

theorem leaves_literal (literal : Text) :
    Leaves t (run t (sequence (Segment.literal literal).regexes) marks) rest ↔ Leaves t marks (literal ++ rest) := by
  induction literal generalizing marks with
  | nil => exact Iff.rfl
  | cons c literal ih =>
      change Leaves t (run t (sequence (Segment.literal literal).regexes) (marks.past (.single c) t)) rest ↔ _
      simp only [ih, leaves_past, CharSet.contains_single, exists_eq_left]
      exact Iff.rfl

theorem leaves_star (full : marks.length = t.length + 1) :
    Leaves t (run t star marks) rest ↔ ∃ inner : Text, inner.OneLine ∧ Leaves t marks (inner ++ rest) := by
  change Leaves t (marks.throughout (Class.dot {}) false t) rest ↔ _
  rw [leaves_throughout t marks rest _ false full]
  simp only [CharSet.contains_dot, ne_eq, List.forall_mem_ne', Bool.false_eq_true, false_and, false_or, Text.OneLine]

theorem length_run (regexes : List Regex) (full : marks.length = t.length + 1)
    (simple : ∀ r ∈ regexes, r = star ∨ ∃ k, r = .char k) :
    (run t (sequence regexes) marks).length = t.length + 1 := by
  induction regexes generalizing marks with
  | nil => exact full
  | cons r regexes ih =>
      obtain ⟨first, others⟩ := List.forall_mem_cons.1 simple
      refine ih (run t r marks) ?_ others
      rcases first with rfl | ⟨k, rfl⟩
      · exact length_throughout t marks _ false full
      · exact length_past t marks k full

end Regex

namespace Template

open Regex Regex.Marks

def behindHead (literals : List Text) : List Segment :=
  literals.flatMap fun literal => [.wildcard, .literal literal]

theorem regexes_behind_cons (literal : Text) (literals : List Text) :
    (behindHead (literal :: literals)).flatMap Segment.regexes =
      star :: ((Segment.literal literal).regexes ++ (behindHead literals).flatMap Segment.regexes) := rfl

-- The induction is on the literals behind the stars, and the marks vary: each star and its literal take
-- a capture and that literal off what the marks have behind them.
theorem leaves_behind (value : Text) (literals : List Text) (marks : Marks) (rest : Text)
    (full : marks.length = value.length + 1) :
    Leaves value (run value (sequence ((behindHead literals).flatMap Segment.regexes)) marks) rest ↔
      ∃ captures : List Text, captures.length = literals.length ∧ (∀ c ∈ captures, c.OneLine) ∧
        Leaves value marks (interleave captures literals ++ rest) := by
  induction literals generalizing marks with
  | nil =>
      constructor
      · intro leaves
        exact ⟨[], rfl, by simp, leaves⟩
      · intro found
        obtain ⟨captures, none, -, leaves⟩ := found
        rw [List.eq_nil_of_length_eq_zero none] at leaves
        exact leaves
  | cons literal literals ih =>
      have starred : (run value star marks).length = value.length + 1 := length_throughout value marks _ false full
      have placed := length_run value _ (Segment.literal literal).regexes starred (by simp [Segment.regexes])
      rw [regexes_behind_cons, run_sequence_cons, run_sequence_append, ih _ placed]
      simp only [leaves_literal, leaves_star value marks _ full]
      constructor
      · intro found
        obtain ⟨captures, count, oneLine, inner, inline, leaves⟩ := found
        refine ⟨inner :: captures, by simp [count], List.forall_mem_cons.2 ⟨inline, oneLine⟩, ?_⟩
        simpa [interleave] using leaves
      · intro found
        obtain ⟨captures, count, oneLine, leaves⟩ := found
        obtain ⟨inner, captures, rfl⟩ := List.exists_cons_of_length_eq_add_one count
        obtain ⟨inline, others⟩ := List.forall_mem_cons.1 oneLine
        refine ⟨captures, by simpa using count, others, inner, inline, ?_⟩
        simpa [interleave] using leaves

variable (t : Template) (value : Text)

theorem is_match_iff_fits : t.regex.isMatch value = true ↔ ∃ captures, t.Fits value captures := by
  let started : Marks := Marks.at Place.textStart none value (List.replicate (value.length + 1) true)
  have startedFull : started.length = value.length + 1 := length_at value _ _ none (by simp)
  have placed := length_run value started (Segment.literal t.head).regexes startedFull (by simp [Segment.regexes])
  have run_regex : t.regex.isMatch value = (Marks.at Place.textEnd none value
      (run value (sequence ((behindHead t.tail).flatMap Segment.regexes))
        (run value (sequence (Segment.literal t.head).regexes) started))).any id := by
    have regexes : t.segments.flatMap Segment.regexes =
        (Segment.literal t.head).regexes ++ (behindHead t.tail).flatMap Segment.regexes := rfl
    rw [isMatch, regex, regexes, List.cons_append, run_sequence_cons, run_sequence_append, run_sequence_append]
    rfl
  rw [run_regex, any_end, leaves_behind value t.tail _ [] placed]
  simp only [leaves_literal, leaves_start, started, List.append_nil]
  constructor
  · intro found
    obtain ⟨captures, count, oneLine, whole⟩ := found
    exact ⟨captures, count, oneLine, whole.symm⟩
  · intro found
    obtain ⟨captures, fits⟩ := found
    exact ⟨captures, fits.count, fits.oneLine, fits.filled.symm⟩

theorem is_match_iff_captures : t.regex.isMatch value = (t.captures? value).isSome := by
  rw [Bool.eq_iff_iff, is_match_iff_fits, captures_is_some_iff]

end Template

-- The expression that a rule with stars is written as can be read, is not too large, and matches just the
-- values that the rule applies to.
theorem Rule.applies_iff_expression_matches (pattern : Text) (count : Nat) (rule : Rule)
    (compiled : Rule.compile pattern count = .ok rule) (source target : Template)
    (action : rule.action = .wildcard source target) :
    ∃ r, Regex.ofText source.expression = .ok r ∧ r.size ≤ Regex.sizeLimit ∧
      ∀ value, (rule.apply value).isSome = r.isMatch value := by
  cases (Rule.compile_ok_iff pattern count rule).1 compiled with
  | constant _ _ _ => cases action
  | exact _ _ _ _ => cases action
  | wildcard written _ _ _ _ small =>
      cases action
      refine ⟨_, Template.of_text_expression _, (Rule.within_limit_iff written).1 small, ?_⟩
      intro value
      rw [Template.is_match_iff_captures, Rule.apply, Option.isSome_map]

end WildcardRules
