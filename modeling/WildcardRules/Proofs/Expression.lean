import WildcardRules.Proofs.Filling
import WildcardRules.Regex.Meaning
import WildcardRules.Rule
import Mathlib.Data.List.Forall2

set_option autoImplicit false

namespace WildcardRules

namespace Regex

open Scan

section

variable {α β : Type} (s : Cursor)

theorem bind_apply (first : Scan α) (next : α → Scan β) (a : α) (t : Cursor) (done : first s = .ok (a, t)) :
    (first >>= next) s = next a t := by
  simp only [bind, StateT.bind, done, Except.bind]

theorem space_apply (unspaced : s.spaced = false) : space s = .ok ((), s) := by
  change Except.ok ((), s.skipIdle) = .ok ((), s)
  rw [Cursor.skipIdle, unspaced]
  rfl

end

-- A form that stands for an expression where no flag is set, and that is not nested too deeply to be
-- part of a sequence.
structure Stands (f : Form) (r : Regex) : Prop where
  regex : f.regex {} = .ok (r, {})
  shallow : f.tooDeep? (depthLimit - 1) = none

def Part (written : Text) (r : Regex) : Prop :=
  ∀ depth d rest place names, ∃ f stop,
    Draft.next? (depth + 2) (form (depth + 1)) d ⟨written ++ rest, place, false, names⟩ =
      .ok (some (d.add place f), ⟨rest, stop, false, names⟩) ∧ Stands f r

theorem part_start : Part ['^'] (.place Place.textStart) := by
  intro depth d rest place names
  exact ⟨.atom (.place ⟨place, place + 1⟩ Place.start), place + 1, rfl, rfl, rfl⟩

theorem part_end : Part ['$'] (.place Place.textEnd) := by
  intro depth d rest place names
  exact ⟨.atom (.place ⟨place, place + 1⟩ Place.finish), place + 1, rfl, rfl, rfl⟩

theorem part_star : Part "(.*?)".toList star := by
  intro depth d rest place names
  let body : Form := .times ⟨place + 1, place + 4⟩ (.atom (.dot ⟨place + 1, place + 2⟩)) 0 none
  exact ⟨.group ⟨place, place + 5⟩ true [] body, place + 5, rfl, rfl, rfl⟩

theorem part_escaped (c : Char) (special : c ∈ metaCharacters) : Part ['\\', c] (.char (.single c)) := by
  intro depth d rest place names
  refine ⟨.atom (.literal { span := ⟨place, place + 2⟩, char := c }), place + 2, ?_, rfl, rfl⟩
  simp only [metaCharacters, List.mem_cons, List.not_mem_nil, or_false] at special
  rcases special with rfl | rfl | rfl | rfl | rfl | rfl | rfl | rfl | rfl | rfl | rfl | rfl | rfl | rfl |
    rfl | rfl | rfl | rfl <;> rfl

theorem atom_plain (c : Char) (plain : c ∉ metaCharacters) (rest : Text) (place : Nat) (names : List (Text × Span)) :
    atom c ⟨c :: rest, place, false, names⟩ =
      .ok (.literal { span := ⟨place, place + 1⟩, char := c }, ⟨rest, place + 1, false, names⟩) := by
  simp only [metaCharacters, List.mem_cons, List.not_mem_nil, or_false, not_or] at plain
  obtain ⟨backslash, dot, -, -, -, -, -, -, -, -, -, -, caret, dollar, -⟩ := plain
  simp only [atom]
  rfl

theorem part_plain (c : Char) (plain : c ∉ metaCharacters) : Part [c] (.char (.single c)) := by
  intro depth d rest place names
  have read := atom_plain c plain rest place names
  simp only [metaCharacters, List.mem_cons, List.not_mem_nil, or_false, not_or] at plain
  obtain ⟨-, -, plus, asterisk, question, opening, closing, bar, bracket, -, brace, -⟩ := plain
  have once : ['?', '*', '+', '\x7b'].contains c = false := by simp [question, asterisk, plus, brace]
  refine ⟨.atom (.literal { span := ⟨place, place + 1⟩, char := c }), place + 1, ?_, rfl, rfl⟩
  rw [Draft.next?, bind_apply _ _ _ _ _ (space_apply _ rfl), bind_apply _ offset _ _ _ rfl, bind_apply _ peek _ _ _ rfl]
  simp only [List.cons_append, List.nil_append, List.head?_cons, once, Bool.false_eq_true, if_false]
  rw [bind_apply _ _ _ _ _ read]
  rfl

theorem part_char (c : Char) : Part (escape [c]) (.char (.single c)) := by
  by_cases special : c ∈ metaCharacters
  · rw [escape, List.flatMap_singleton, if_pos special]
    exact part_escaped c special
  · rw [escape, List.flatMap_singleton, if_neg special]
    exact part_plain c special

theorem form_sequence (forms : List Form) (regexes : List Regex) (stand : List.Forall₂ Stands forms regexes) :
    Form.sequenceRegex {} forms = .ok (sequence regexes, {}) ∧ Form.anyTooDeep? (depthLimit - 1) forms = none := by
  induction stand with
  | nil => exact ⟨rfl, rfl⟩
  | cons first rest ih =>
      obtain ⟨regex, shallow⟩ := ih
      constructor
      · simp only [Form.sequenceRegex, first.regex, regex, bind, Except.bind, sequence, pure, Except.pure]
      · rw [Form.anyTooDeep?, first.shallow, shallow]
        rfl

variable (depth : Nat)

-- The induction is on the parts. The bound is a text that is longer than there are parts, so it never
-- runs out before the end is seen.
theorem repeated_parts (parts : List (Text × Regex)) (read : ∀ p ∈ parts, Part p.1 p.2) (bound : Text)
    (enough : parts.length < bound.length) (d : Draft) (place : Nat) (names : List (Text × Span)) :
    ∃ forms stop, repeated (Draft.next? (depth + 2) (form (depth + 1))) bound d
        ⟨parts.flatMap Prod.fst, place, false, names⟩ =
          .ok ({ d with parts := forms ++ d.parts }, ⟨[], stop, false, names⟩) ∧
      List.Forall₂ Stands (forms.reverse.map Prod.snd) (parts.map Prod.snd) := by
  induction parts generalizing bound d place with
  | nil =>
      obtain ⟨c, bound, rfl⟩ := List.exists_cons_of_ne_nil (List.ne_nil_of_length_pos enough)
      exact ⟨[], place, rfl, .nil⟩
  | cons part parts ih =>
      obtain ⟨c, bound, rfl⟩ := List.exists_cons_of_ne_nil (List.ne_nil_of_length_pos (Nat.zero_lt_of_lt enough))
      obtain ⟨first, others⟩ := List.forall_mem_cons.1 read
      obtain ⟨f, next, step, stands⟩ := first depth d (parts.flatMap Prod.fst) place names
      obtain ⟨forms, stop, rest, stand⟩ := ih others bound (Nat.lt_of_succ_lt_succ enough) (d.add place f) next
      refine ⟨forms ++ [(place, f)], stop, ?_, ?_⟩
      · rw [List.flatMap_cons, repeated, bind_apply _ _ _ _ _ step]
        simpa [Draft.add] using rest
      · simpa using List.Forall₂.cons stands stand

theorem finish_of_several (d : Draft) (stop : Nat) (alone : d.branches = []) (several : 2 ≤ d.parts.length) :
    d.finish stop = .sequence ⟨d.branchStart, stop⟩ (d.parts.reverse.map Prod.snd) := by
  rw [Draft.finish, alone, if_pos List.isEmpty_nil]
  unfold Draft.branch
  split
  · rename_i single
    simp [single] at several
  · rfl

theorem form_of_parts (parts : List (Text × Regex)) (read : ∀ p ∈ parts, Part p.1 p.2)
    (several : 2 ≤ parts.length) (short : parts.length ≤ (parts.flatMap Prod.fst).length) :
    ∃ span forms, Form.ofText (parts.flatMap Prod.fst) = .ok (.sequence span forms) ∧
      List.Forall₂ Stands forms (parts.map Prod.snd) := by
  let begun : Draft := { start := 0, branchStart := 0 }
  obtain ⟨depth, long⟩ := Nat.exists_eq_succ_of_ne_zero (n := (parts.flatMap Prod.fst).length) (by omega)
  obtain ⟨forms, stop, whole, stand⟩ := repeated_parts depth parts read ('\n' :: parts.flatMap Prod.fst)
    (by simpa using Nat.lt_succ_of_le short) begun 0 []
  rw [List.append_nil] at whole
  have count : forms.length = parts.length := by simpa using stand.length_eq
  have finished := finish_of_several { begun with parts := forms } stop rfl (by simp [count, several])
  have written : form ((parts.flatMap Prod.fst).length + 1) ⟨parts.flatMap Prod.fst, 0, false, []⟩ =
      .ok (.sequence ⟨0, stop⟩ (forms.reverse.map Prod.snd), ⟨[], stop, false, []⟩) := by
    rw [long, form, bind_apply _ offset _ _ _ rfl, bind_apply _ (loop _ _) _ _ _ whole]
    exact congrArg (fun f => Except.ok (f, _)) finished
  have shallow : (Form.sequence ⟨0, stop⟩ (forms.reverse.map Prod.snd)).tooDeep? depthLimit = none := by
    cases stand' : forms.reverse.map Prod.snd with
    | nil => rfl
    | cons f rest =>
        rw [stand'] at stand
        exact (form_sequence _ _ stand).2
  refine ⟨⟨0, stop⟩, forms.reverse.map Prod.snd, ?_, stand⟩
  have read : wholeForm ⟨parts.flatMap Prod.fst, 0, false, []⟩ =
      .ok (.sequence ⟨0, stop⟩ (forms.reverse.map Prod.snd), ⟨[], stop, false, []⟩) := by
    rw [wholeForm, bind_apply _ get _ _ _ rfl, bind_apply _ (form _) _ _ _ written]
    rfl
  simp only [Form.ofText, read, shallow]

theorem of_text_of_parts (parts : List (Text × Regex)) (read : ∀ p ∈ parts, Part p.1 p.2)
    (several : 2 ≤ parts.length) (short : parts.length ≤ (parts.flatMap Prod.fst).length) :
    ofText (parts.flatMap Prod.fst) = .ok (sequence (parts.map Prod.snd)) := by
  obtain ⟨span, forms, written, stand⟩ := form_of_parts parts read several short
  obtain ⟨regex, -⟩ := form_sequence forms _ stand
  rw [ofText, written]
  change (do return (← Form.sequenceRegex {} forms).1) = _
  rw [regex]
  rfl

end Regex

namespace Segment

def parts : Segment → List (Text × Regex)
  | .literal text => text.map fun c => (Regex.escape [c], .char (.single c))
  | .wildcard => [("(.*?)".toList, Regex.star)]

variable (s : Segment)

theorem parts_written : s.parts.flatMap Prod.fst = s.expression := by
  cases s with
  | literal text => simp [parts, expression, Regex.escape, List.flatMap_map]
  | wildcard => rfl

theorem parts_regexes : s.parts.map Prod.snd = s.regexes := by
  cases s with
  | literal text => simp [parts, regexes]
  | wildcard => rfl

theorem parts_read : ∀ p ∈ s.parts, Regex.Part p.1 p.2 ∧ p.1 ≠ [] := by
  cases s with
  | literal text =>
      intro p member
      obtain ⟨c, -, rfl⟩ := List.mem_map.1 member
      refine ⟨Regex.part_char c, ?_⟩
      rw [Regex.escape, List.flatMap_singleton]
      split <;> simp
  | wildcard =>
      intro p member
      rw [List.mem_singleton.1 member]
      exact ⟨Regex.part_star, by decide⟩

end Segment

namespace Template

def parts (t : Template) : List (Text × Regex) :=
  (['^'], .place Regex.Place.textStart) :: t.segments.flatMap Segment.parts ++ [(['$'], .place Regex.Place.textEnd)]

variable (t : Template)

theorem parts_written : t.parts.flatMap Prod.fst = t.expression := by
  simp [parts, expression, List.flatMap_assoc, Segment.parts_written]

theorem parts_regexes : Regex.sequence (t.parts.map Prod.snd) = t.regex := by
  simp [parts, regex, List.map_flatMap, Segment.parts_regexes]

theorem parts_read (p : Text × Regex) (member : p ∈ t.parts) : Regex.Part p.1 p.2 ∧ p.1 ≠ [] := by
  simp only [parts, List.cons_append, List.mem_cons, List.mem_append, List.mem_flatMap, List.not_mem_nil,
    or_false] at member
  rcases member with rfl | ⟨segment, -, inside⟩ | rfl
  · exact ⟨Regex.part_start, by simp⟩
  · exact segment.parts_read p inside
  · exact ⟨Regex.part_end, by simp⟩

theorem length_parts_le (parts : List (Text × Regex)) (nonempty : ∀ p ∈ parts, p.1 ≠ []) :
    parts.length ≤ (parts.flatMap Prod.fst).length := by
  induction parts with
  | nil => simp
  | cons part parts ih =>
      obtain ⟨first, rest⟩ := List.forall_mem_cons.1 nonempty
      have some : 0 < part.1.length := List.length_pos_iff.2 first
      have others := ih rest
      simp only [List.length_cons, List.flatMap_cons, List.length_append]
      omega

theorem of_text_expression : Regex.ofText t.expression = .ok t.regex := by
  rw [← parts_written, ← parts_regexes]
  apply Regex.of_text_of_parts
  · exact fun p member => (parts_read t p member).1
  · simp [parts]
  · exact length_parts_le t.parts fun p member => (parts_read t p member).2

end Template

end WildcardRules
