import WildcardRules.Config
import WildcardRules.Proofs.RuleSet
import Mathlib.Data.List.Induction
import Mathlib.Data.List.Nodup

/-!
Which configurations are valid, and the error of one that is not. A repeated name counts before every
set that does not build, wherever the two stand, and of either kind the first in the list decides.
-/

set_option autoImplicit false

namespace WildcardRules

def BuildError.pattern? : BuildError → Option Text
  | .emptyRuleSet _ => none
  | .multipleBareValues pattern _ => some pattern
  | .segmentMismatch pattern _ _ => some pattern
  | .expressionTooLarge pattern => some pattern

theorem Rule.fault_pattern (pattern : Text) (count : Nat) (error : BuildError)
    (fault : Fault pattern count error) : error.pattern? = some pattern := by
  cases fault with
  | bare _ _ => rfl
  | mismatch _ _ _ _ _ _ _ => rfl
  | tooLarge _ _ _ _ _ _ _ => rfl

def Error.source? : Error → Option Error
  | .invalidRuleSet _ cause => some (.build cause)
  | _ => none

namespace RuleSet

def names (sets : List RuleSet) : List Text := sets.map RuleSet.name

def Builds (s : RuleSet) : Prop := ∃ r, s.build = .ok r

inductive Fault (s : RuleSet) : BuildError → Prop where
  | empty : s.required = true → s.input.listed = [] → Fault s (.emptyRuleSet (some s.name))
  | pattern (before after : List Text) (p : Text) (e : BuildError) :
      s.input.listed = before ++ p :: after →
      (∀ q ∈ before, ∀ d, ¬ Rule.Fault q s.input.listed.length d) →
      Rule.Fault p s.input.listed.length e → e.pattern? = some p → Fault s e

theorem build_fault_iff (s : RuleSet) (cause : BuildError) : s.build = .error cause ↔ s.Fault cause := by
  rw [build, Replacer.build_error_iff]
  constructor
  · intro refused
    rcases refused with ⟨required, unlisted, rfl⟩ | ⟨before, p, after, whole, faultless, fault⟩
    · exact .empty required unlisted
    · exact .pattern before after p cause whole faultless fault (Rule.fault_pattern p _ cause fault)
  · intro fault
    cases fault with
    | empty required unlisted => exact .inl ⟨required, unlisted, rfl⟩
    | pattern before after p _ whole faultless fault _ =>
        exact .inr ⟨before, p, after, whole, faultless, fault⟩

theorem build_named_ok_iff (s : RuleSet) (r : Replacer) : s.buildNamed = .ok r ↔ s.build = .ok r := by
  cases built : s.build with
  | ok other => simp [buildNamed, built]
  | error cause => simp [buildNamed, built]

theorem build_named_error_iff (s : RuleSet) (e : Error) :
    s.buildNamed = .error e ↔ ∃ cause, s.build = .error cause ∧ e = .invalidRuleSet s.name cause := by
  cases built : s.build with
  | ok r => simp [buildNamed, built]
  | error cause => simp [buildNamed, built, eq_comm]

theorem exists_first_repeat (sets : List RuleSet) (repeated : ¬ (names sets).Nodup) :
    ∃ before s after, sets = before ++ s :: after ∧ (names before).Nodup ∧ s.name ∈ names before := by
  induction sets using List.reverseRecOn with
  | nil => exact False.elim (repeated List.nodup_nil)
  | append_singleton sets last ih =>
      by_cases distinct : (names sets).Nodup
      · by_cases member : last.name ∈ names sets
        · exact ⟨sets, last, [], rfl, distinct, member⟩
        · refine False.elim (repeated ?_)
          rw [names, List.map_append]
          exact List.Nodup.append distinct (List.nodup_singleton _) (by simpa [names] using member)
      · obtain ⟨before, s, after, whole, first, same⟩ := ih distinct
        exact ⟨before, s, after ++ [last], by simp [whole], first, same⟩

theorem repeat_not_nodup (before after : List RuleSet) (s : RuleSet) (member : s.name ∈ names before) :
    ¬ (names (before ++ s :: after)).Nodup := by
  intro distinct
  rw [names, List.map_append, List.map_cons] at distinct
  exact (List.disjoint_of_nodup_append distinct) member (by simp)

end RuleSet

namespace Config

open RuleSet (names)

theorem first_duplicate_past (seen : List Text) (before after : List RuleSet)
    (distinct : (names before).Nodup) (fresh : ∀ s ∈ before, s.name ∉ seen) :
    firstDuplicate? seen (before ++ after) = firstDuplicate? ((names before).reverse ++ seen) after := by
  induction before generalizing seen with
  | nil => rfl
  | cons s before ih =>
      obtain ⟨absent, restDistinct⟩ := List.nodup_cons.1 distinct
      obtain ⟨new, restFresh⟩ := List.forall_mem_cons.1 fresh
      have laterFresh : ∀ t ∈ before, t.name ∉ s.name :: seen := by
        intro t member
        have different : t.name ≠ s.name := fun same => absent (List.mem_map.2 ⟨t, member, same⟩)
        simp [different, restFresh t member]
      have rest := ih (s.name :: seen) restDistinct laterFresh
      simp [firstDuplicate?, new, rest, names]

theorem first_duplicate_of_distinct (sets : List RuleSet) (distinct : (names sets).Nodup) :
    firstDuplicate? [] sets = none := by
  have past := first_duplicate_past [] sets [] distinct (by simp)
  simpa [firstDuplicate?] using past

theorem first_duplicate_of_repeat (before after : List RuleSet) (s : RuleSet)
    (distinct : (names before).Nodup) (member : s.name ∈ names before) :
    firstDuplicate? [] (before ++ s :: after) = some s.name := by
  have past := first_duplicate_past [] before (s :: after) distinct (by simp)
  simpa [firstDuplicate?, member] using past

theorem build_all_ok_iff (c : Config) (replacers : List Replacer) :
    c.buildAll = .ok replacers ↔ List.Forall₂ (fun s r => s.build = .ok r) c.sets replacers := by
  rw [buildAll, map_m_ok_iff_pointwise]
  simp only [RuleSet.build_named_ok_iff]

theorem build_all_error_iff (c : Config) (e : Error) :
    c.buildAll = .error e ↔ ∃ before s after cause, c.sets = before ++ s :: after ∧
      (∀ t ∈ before, t.Builds) ∧ s.build = .error cause ∧ e = .invalidRuleSet s.name cause := by
  rw [buildAll, map_m_error_iff]
  simp only [RuleSet.build_named_ok_iff, RuleSet.build_named_error_iff, RuleSet.Builds]
  constructor
  · intro failed
    obtain ⟨before, s, after, whole, passed, cause, refused, same⟩ := failed
    exact ⟨before, s, after, cause, whole, passed, refused, same⟩
  · intro failed
    obtain ⟨before, s, after, cause, whole, passed, refused, same⟩ := failed
    exact ⟨before, s, after, whole, passed, cause, refused, same⟩

theorem build_all_of_builds (c : Config) (builds : ∀ s ∈ c.sets, s.Builds) :
    ∃ replacers, c.buildAll = .ok replacers := by
  apply map_m_ok_of_all
  intro s member
  obtain ⟨r, built⟩ := builds s member
  exact ⟨r, (RuleSet.build_named_ok_iff s r).2 built⟩

theorem builds_of_build_all (c : Config) (replacers : List Replacer) (built : c.buildAll = .ok replacers) :
    ∀ s ∈ c.sets, s.Builds := by
  intro s member
  have pointwise := ((build_all_ok_iff c replacers).1 built).flip
  obtain ⟨r, -, each⟩ := pointwise_member pointwise s member
  exact ⟨r, each⟩

-- What is wrong with a configuration: a set has the name of an earlier one, or, where no set has, a set
-- does not build. In both cases it is the first set of which this is so.
inductive Fault (c : Config) : Error → Prop where
  | duplicate (before after : List RuleSet) (s : RuleSet) : c.sets = before ++ s :: after →
      (names before).Nodup → s.name ∈ names before → Fault c (.duplicateName s.name)
  | invalid (before after : List RuleSet) (s : RuleSet) (cause : BuildError) : (names c.sets).Nodup →
      c.sets = before ++ s :: after → (∀ t ∈ before, t.Builds) → s.build = .error cause →
      Fault c (.invalidRuleSet s.name cause)

theorem validate_of_duplicate (c : Config) (before after : List RuleSet) (s : RuleSet)
    (whole : c.sets = before ++ s :: after) (distinct : (names before).Nodup)
    (member : s.name ∈ names before) : c.validate = .error (.duplicateName s.name) := by
  rw [validate, whole, first_duplicate_of_repeat before after s distinct member]

theorem validate_of_distinct (c : Config) (distinct : (names c.sets).Nodup) :
    c.validate = c.buildAll.map fun _ => () := by
  rw [validate, first_duplicate_of_distinct c.sets distinct]
  cases c.buildAll with
  | ok replacers => rfl
  | error e => rfl

theorem validate_ok_iff (c : Config) :
    c.validate = .ok () ↔ (names c.sets).Nodup ∧ ∀ s ∈ c.sets, s.Builds := by
  by_cases distinct : (names c.sets).Nodup
  · rw [validate_of_distinct c distinct]
    cases built : c.buildAll with
    | ok replacers =>
        have builds := builds_of_build_all c replacers built
        simp only [Except.map, distinct, true_and, true_iff]
        exact builds
    | error e =>
        obtain ⟨before, s, after, cause, whole, -, refused, -⟩ := (build_all_error_iff c e).1 built
        have unbuilt : ¬ ∀ t ∈ c.sets, t.Builds := by
          intro builds
          obtain ⟨r, accepted⟩ := builds s (by simp [whole])
          cases accepted.symm.trans refused
        simp [Except.map, unbuilt]
  · obtain ⟨before, s, after, whole, first, member⟩ := RuleSet.exists_first_repeat c.sets distinct
    simp [validate_of_duplicate c before after s whole first member, distinct]

theorem validate_error_iff (c : Config) (e : Error) : c.validate = .error e ↔ c.Fault e := by
  constructor
  · intro refused
    by_cases distinct : (names c.sets).Nodup
    · rw [validate_of_distinct c distinct] at refused
      cases built : c.buildAll with
      | ok replacers =>
          rw [built] at refused
          cases refused
      | error d =>
          rw [built] at refused
          cases refused
          obtain ⟨before, s, after, cause, whole, passed, failed, same⟩ := (build_all_error_iff c e).1 built
          rw [same]
          exact .invalid before after s cause distinct whole passed failed
    · obtain ⟨before, s, after, whole, first, member⟩ := RuleSet.exists_first_repeat c.sets distinct
      rw [validate_of_duplicate c before after s whole first member] at refused
      cases refused
      exact .duplicate before after s whole first member
  · intro fault
    cases fault with
    | duplicate before after s whole first member =>
        exact validate_of_duplicate c before after s whole first member
    | invalid before after s cause distinct whole passed failed =>
        have built := (build_all_error_iff c _).2 ⟨before, s, after, cause, whole, passed, failed, rfl⟩
        rw [validate_of_distinct c distinct, built]
        rfl

theorem validate_source (c : Config) (e inner : Error) (refused : c.validate = .error e)
    (wrapped : e.source? = some inner) :
    (∃ s ∈ c.sets, ∃ cause, s.build = .error cause ∧ inner = .build cause) ∧
      inner.source? = none ∧ inner.kind = .configuration := by
  cases (validate_error_iff c e).1 refused with
  | duplicate before after s whole first member => cases wrapped
  | invalid before after s cause distinct whole passed failed =>
      cases wrapped
      exact ⟨⟨s, by simp [whole], cause, failed, rfl⟩, rfl, rfl⟩

theorem validate_verdict (c : Config) :
    (c.validate = .ok () ↔ (names c.sets).Nodup ∧ ∀ s ∈ c.sets, s.Builds) ∧
    (¬ (names c.sets).Nodup → ∃ before s after, c.sets = before ++ s :: after ∧ (names before).Nodup ∧
      s.name ∈ names before ∧ c.validate = .error (.duplicateName s.name)) ∧
    ((names c.sets).Nodup → (∃ s ∈ c.sets, ¬ s.Builds) → ∃ before s after cause,
      c.sets = before ++ s :: after ∧ (∀ t ∈ before, t.Builds) ∧ s.build = .error cause ∧ s.Fault cause ∧
      c.validate = .error (.invalidRuleSet s.name cause)) ∧
    ∀ e inner, c.validate = .error e → e.source? = some inner →
      (∃ s ∈ c.sets, ∃ cause, s.build = .error cause ∧ inner = .build cause) ∧
        inner.source? = none ∧ inner.kind = .configuration := by
  refine ⟨validate_ok_iff c, ?_, ?_, validate_source c⟩
  · intro repeated
    obtain ⟨before, s, after, whole, first, member⟩ := RuleSet.exists_first_repeat c.sets repeated
    exact ⟨before, s, after, whole, first, member, validate_of_duplicate c before after s whole first member⟩
  · intro distinct unbuilt
    cases checked : c.validate with
    | ok u =>
        obtain ⟨s, member, refused⟩ := unbuilt
        have builds := ((validate_ok_iff c).1 checked).2
        exact False.elim (refused (builds s member))
    | error e =>
        cases (validate_error_iff c e).1 checked with
        | duplicate before after s whole first member =>
            rw [whole] at distinct
            exact False.elim (RuleSet.repeat_not_nodup before after s member distinct)
        | invalid before after s cause _ whole passed failed =>
            have fault := (RuleSet.build_fault_iff s cause).1 failed
            exact ⟨before, s, after, cause, whole, passed, failed, fault, rfl⟩

theorem validate_verdict_mixed :
    (let c : Config := ⟨[⟨"x".toList, true, none⟩, ⟨"y".toList, true, some (.string "a:b".toList)⟩,
        ⟨"y".toList, false, none⟩]⟩
      ∃ before s after, c.sets = before ++ s :: after ∧ s.name ∈ names before ∧ s.name = "y".toList ∧
        c.validate = .error (.duplicateName s.name)) ∧
    (let c : Config := ⟨[⟨"y".toList, false, none⟩,
        ⟨"x".toList, true, some (.array [.string "a:b".toList, .string "*-*:*".toList])⟩,
        ⟨"z".toList, true, none⟩]⟩
      ∃ before s after cause, c.sets = before ++ s :: after ∧ s.Fault cause ∧
        c.validate = .error (.invalidRuleSet s.name cause) ∧ s.name = "x".toList ∧
        cause = .segmentMismatch "*-*:*".toList 5 3) := by
  constructor
  · intro c
    have evaluated : c.validate = .error (.duplicateName "y".toList) := rfl
    obtain ⟨before, s, after, whole, -, member, refused⟩ := (validate_verdict c).2.1 (by decide)
    have named := Error.duplicateName.inj (Except.error.inj (refused.symm.trans evaluated))
    exact ⟨before, s, after, whole, member, named, refused⟩
  · intro c
    have evaluated : c.validate =
        .error (.invalidRuleSet "x".toList (.segmentMismatch "*-*:*".toList 5 3)) := rfl
    have unruled : ¬ RuleSet.Builds ⟨"z".toList, true, none⟩ := by
      intro builds
      obtain ⟨r, built⟩ := builds
      cases built
    obtain ⟨before, s, after, cause, whole, -, -, fault, refused⟩ :=
      (validate_verdict c).2.2.1 (by decide) ⟨_, by simp [c], unruled⟩
    obtain ⟨named, faulty⟩ := Error.invalidRuleSet.inj (Except.error.inj (refused.symm.trans evaluated))
    exact ⟨before, s, after, cause, whole, fault, refused, named, faulty⟩

end Config

end WildcardRules
