import WildcardRules.Proofs.RuleSet
import WildcardRules.Proofs.Wildcard

set_option autoImplicit false

namespace WildcardRules.Replacer

def Decides (r : Replacer) (value : Text) (rule : Rule) (result : Text) : Prop :=
  ∃ before after, r.rules = before ++ rule :: after ∧
    (∀ earlier ∈ before, earlier.apply value = none) ∧ rule.apply value = some result

def Resultless (r : Replacer) (value : Text) : Prop :=
  (∀ rule ∈ r.rules, rule.apply value = none) ∨
    ∃ rule result, r.Decides value rule result ∧ rule.Vanishes value

def firstResult? (r : Replacer) (value : Text) : Option Text :=
  r.rules.findSome? fun rule => rule.apply value

variable (r : Replacer) (value : Text)

theorem first_result_eq : r.firstResult? value = (r.firstMatch? value).map Prod.snd := by
  rw [firstResult?, firstMatch?, List.map_findSome?]
  congr 1
  funext rule
  simp [Function.comp_def]

theorem replace_eq (inhabited : r.rules ≠ []) :
    r.replace value =
      match r.firstResult? value.normalizeBrackets with
      | some (c :: result) => .ok (c :: result)
      | _ => if r.required then .error ⟨value.normalizeBrackets, r.patterns⟩
          else .ok value.normalizeBrackets := by
  rw [replace, isIdentity, List.isEmpty_eq_false_iff.2 inhabited, first_result_eq]
  cases found : r.firstMatch? value.normalizeBrackets with
  | none => simp [found]
  | some decided =>
      obtain ⟨rule, result⟩ := decided
      cases result with
      | nil => simp [found]
      | cons c result => simp [found]

theorem first_match_some_iff (rule : Rule) (result : Text) :
    r.firstMatch? value = some (rule, result) ↔ r.Decides value rule result := by
  simp only [firstMatch?, List.findSome?_eq_some_iff, Option.map_eq_some_iff, Option.map_eq_none_iff,
    Prod.mk.injEq, Decides]
  constructor
  · intro found
    obtain ⟨before, first, after, whole, ⟨made, applied, rfl, rfl⟩, skipped⟩ := found
    exact ⟨before, after, whole, skipped, applied⟩
  · intro decides
    obtain ⟨before, after, whole, skipped, applied⟩ := decides
    exact ⟨before, rule, after, whole, ⟨result, applied, rfl, rfl⟩, skipped⟩

theorem first_match_none_iff :
    r.firstMatch? value = none ↔ ∀ rule ∈ r.rules, rule.apply value = none := by
  simp only [firstMatch?, List.findSome?_eq_none_iff, Option.map_eq_none_iff]

theorem decided_or_unmatched :
    (∃ rule result, r.Decides value rule result) ∨ ∀ rule ∈ r.rules, rule.apply value = none := by
  cases found : r.firstMatch? value with
  | none => exact .inr ((first_match_none_iff r value).1 found)
  | some decided => exact .inl ⟨decided.1, decided.2, (first_match_some_iff r value _ _).1 found⟩

theorem decides_member (rule : Rule) (result : Text) (decides : r.Decides value rule result) :
    rule ∈ r.rules := by
  obtain ⟨before, after, whole, -, -⟩ := decides
  simp [whole]

theorem decides_alone (rule : Rule) (result : Text) (alone : r.rules = [rule])
    (applied : rule.apply value = some result) : r.Decides value rule result :=
  ⟨[], [], alone, by simp, applied⟩

theorem replace_of_result (rule : Rule) (result : Text) (something : result ≠ [])
    (decides : r.Decides value.normalizeBrackets rule result) : r.replace value = .ok result := by
  have inhabited : r.rules ≠ [] := List.ne_nil_of_mem (decides_member r _ rule result decides)
  have found := (first_match_some_iff r _ rule result).2 decides
  rw [replace, isIdentity, List.isEmpty_eq_false_iff.2 inhabited]
  cases result with
  | nil => exact absurd rfl something
  | cons c result => simp [found]

theorem replace_of_no_result (inhabited : r.rules ≠ [])
    (fruitless : (∀ rule ∈ r.rules, rule.apply value.normalizeBrackets = none) ∨
      ∃ rule, r.Decides value.normalizeBrackets rule []) :
    r.replace value = if r.required then .error ⟨value.normalizeBrackets, r.patterns⟩
      else .ok value.normalizeBrackets := by
  rw [replace, isIdentity, List.isEmpty_eq_false_iff.2 inhabited]
  rcases fruitless with unmatched | ⟨rule, decides⟩
  · simp [(first_match_none_iff r _).2 unmatched]
  · simp [(first_match_some_iff r _ rule []).2 decides]

theorem replace_before_later (before after later : List Rule) (rule : Rule) (result : Text)
    (whole : r.rules = before ++ rule :: after)
    (skipped : ∀ earlier ∈ before, earlier.apply value.normalizeBrackets = none)
    (applied : rule.apply value.normalizeBrackets = some result) :
    replace { r with rules := before ++ rule :: later } value = r.replace value := by
  have found := (first_match_some_iff r _ rule result).2 ⟨before, after, whole, skipped, applied⟩
  have again := (first_match_some_iff { r with rules := before ++ rule :: later } _ rule result).2
    ⟨before, later, rfl, skipped, applied⟩
  simp [replace, isIdentity, whole, found, again]

section

variable {r} {input : RuleInput} {options : Options} (built : build input options = .ok r)

include built

theorem built_empty_iff (rule : Rule) (member : rule ∈ r.rules) :
    rule.apply value = some [] ↔ rule.Vanishes value := by
  obtain ⟨pattern, present, compiled⟩ := built_rule built rule member
  exact Rule.apply_eq_nil_iff pattern _ rule value (input.listed_nonempty pattern present) compiled

theorem resultless_iff :
    r.Resultless value ↔ (∀ rule ∈ r.rules, rule.apply value = none) ∨ ∃ rule, r.Decides value rule [] := by
  apply or_congr_right
  constructor
  · intro decided
    obtain ⟨rule, result, decides, vanishes⟩ := decided
    have empty := (built_empty_iff value built rule (decides_member r value rule result decides)).2 vanishes
    obtain ⟨before, after, whole, skipped, -⟩ := decides
    exact ⟨rule, before, after, whole, skipped, empty⟩
  · intro decided
    obtain ⟨rule, decides⟩ := decided
    have member := decides_member r value rule [] decides
    obtain ⟨before, after, whole, skipped, applied⟩ := decides
    exact ⟨rule, [], ⟨before, after, whole, skipped, applied⟩,
      (built_empty_iff value built rule member).1 applied⟩

theorem replace_of_resultless (inhabited : r.rules ≠ []) (resultless : r.Resultless value.normalizeBrackets) :
    r.replace value = if r.required then .error ⟨value.normalizeBrackets, r.patterns⟩
      else .ok value.normalizeBrackets :=
  replace_of_no_result r value inhabited ((resultless_iff value.normalizeBrackets built).1 resultless)

theorem replace_of_not_resultless (resultful : ¬ r.Resultless value.normalizeBrackets) :
    ∃ rule result, r.Decides value.normalizeBrackets rule result ∧ result ≠ [] ∧
      r.replace value = .ok result := by
  rw [resultless_iff value.normalizeBrackets built] at resultful
  obtain ⟨matched, lasting⟩ := not_or.1 resultful
  obtain ⟨rule, result, decides⟩ := (decided_or_unmatched r value.normalizeBrackets).resolve_right matched
  have something : result ≠ [] := by
    intro empty
    subst empty
    exact lasting ⟨rule, decides⟩
  exact ⟨rule, result, decides, something, replace_of_result r value rule result something decides⟩

theorem replace_error_iff (inhabited : r.rules ≠ []) (e : NoMatch) :
    r.replace value = .error e ↔ r.required = true ∧ r.Resultless value.normalizeBrackets ∧
      e = ⟨value.normalizeBrackets, r.patterns⟩ := by
  by_cases resultless : r.Resultless value.normalizeBrackets
  · rw [replace_of_resultless value built inhabited resultless]
    by_cases required : r.required = true
    · simp [required, resultless, eq_comm]
    · simp [required]
  · obtain ⟨rule, result, -, -, replaced⟩ := replace_of_not_resultless value built resultless
    simp [replaced, resultless]

theorem replace_empty (inhabited : r.rules ≠ []) (empty : r.replace value = .ok []) :
    r.required = false ∧ value = [] := by
  by_cases resultless : r.Resultless value.normalizeBrackets
  · rw [replace_of_resultless value built inhabited resultless] at empty
    by_cases required : r.required = true
    · rw [if_pos required] at empty
      cases empty
    · rw [if_neg required] at empty
      exact ⟨by simpa using required, List.map_eq_nil_iff.1 (Except.ok.inj empty)⟩
  · obtain ⟨rule, result, -, something, replaced⟩ := replace_of_not_resultless value built resultless
    exact absurd (Except.ok.inj (replaced.symm.trans empty)) something

theorem constant_never_resultless (rule : Rule) (member : rule ∈ r.rules) (constant : rule.kind = .constant) :
    ¬ r.Resultless value := by
  obtain ⟨pattern, present, compiled⟩ := built_rule built rule member
  obtain ⟨single, plain, action⟩ := Rule.constant_action compiled constant
  have alone : r.rules.length ≤ 1 := Nat.le_trans (Nat.le_of_eq (built_patterns built).2) single
  intro resultless
  rcases resultless with unmatched | ⟨other, result, decides, vanishes⟩
  · have skipped := unmatched rule member
    simp [Rule.apply, action] at skipped
  · have otherMember := decides_member r value other result decides
    have same : other = rule := by
      obtain ⟨only, whole⟩ := List.length_eq_one_iff.1 (Nat.le_antisymm alone (List.length_pos_of_mem member))
      rw [whole, List.mem_singleton] at member otherMember
      rw [member, otherMember]
    rw [same] at vanishes
    cases constant.symm.trans vanishes.1

end

theorem replace_outcome {r : Replacer} {input : RuleInput} {options : Options} (value : Text)
    (built : build input options = .ok r) (inhabited : r.rules ≠ []) :
    let normal := value.normalizeBrackets
    ((∃ e, r.replace value = .error e) ↔ r.required = true ∧ r.Resultless normal) ∧
    (∀ e, r.replace value = .error e → e = ⟨normal, input.listed⟩) ∧
    (r.Resultless normal → r.required = false → r.replace value = .ok normal) ∧
    (¬ r.Resultless normal → ∃ rule result, r.Decides normal rule result ∧ result ≠ [] ∧
      r.replace value = .ok result) ∧
    (∀ before rule after result, r.rules = before ++ rule :: after →
      (∀ earlier ∈ before, earlier.apply normal = none) → rule.apply normal = some result →
      ∀ later, replace { r with rules := before ++ rule :: later } value = r.replace value) ∧
    (∀ rule ∈ r.rules, rule.kind ≠ .wildcard → ∀ v, rule.apply v ≠ some []) ∧
    ((∃ rule ∈ r.rules, rule.kind = .constant) → ∃ result, r.replace value = .ok result) ∧
    (r.replace value = .ok [] → r.required = false ∧ value = []) := by
  intro normal
  have failed := replace_error_iff value built inhabited
  refine ⟨?_, ?_, ?_, replace_of_not_resultless value built, ?_, ?_, ?_,
    replace_empty value built inhabited⟩
  · constructor
    · intro failure
      obtain ⟨e, error⟩ := failure
      obtain ⟨required, resultless, -⟩ := (failed e).1 error
      exact ⟨required, resultless⟩
    · intro both
      obtain ⟨required, resultless⟩ := both
      exact ⟨_, (failed _).2 ⟨required, resultless, rfl⟩⟩
  · intro e error
    rw [← (built_patterns built).1]
    exact ((failed e).1 error).2.2
  · intro resultless optional
    rw [replace_of_resultless value built inhabited resultless, if_neg (by simp [optional])]
  · intro before rule after result whole skipped applied later
    exact replace_before_later r value before after later rule result whole skipped applied
  · intro rule member starless v empty
    exact starless ((built_empty_iff v built rule member).1 empty).1
  · intro held
    obtain ⟨rule, member, constant⟩ := held
    have resultful := constant_never_resultless normal built rule member constant
    obtain ⟨_, result, -, -, replaced⟩ := replace_of_not_resultless value built resultful
    exact ⟨result, replaced⟩

-- The star is left empty and so is the result, and the rule that takes anything is not asked. The value
-- with the backslash is another one: the literal stands for a plain colon.
theorem replace_outcome_swallowed :
    ∃ r rule, build (.many ["a\\:f[*:*".toList, "*:g".toList]) {} = .ok r ∧ r.rules ≠ [] ∧
      rule.pattern = "a\\:f[*:*".toList ∧ r.Decides "a:f(".toList rule [] ∧ rule.Vanishes "a:f(".toList ∧
      r.replace "a:f[".toList = .error ⟨"a:f(".toList, ["a\\:f[*:*".toList, "*:g".toList]⟩ ∧
      r.replace "a\\:f[".toList = .ok "g".toList := by
  let rule : Rule := ⟨"a\\:f[*:*".toList, .wildcard ⟨"a:f(".toList, [[]]⟩ ⟨[], [[]]⟩⟩
  let r : Replacer := ⟨none, true, ["a\\:f[*:*".toList, "*:g".toList],
    [rule, ⟨"*:g".toList, .wildcard ⟨[], [[]]⟩ ⟨"g".toList, []⟩⟩]⟩
  have built : build (.many ["a\\:f[*:*".toList, "*:g".toList]) {} = .ok r := by decide
  have decides : r.Decides "a:f(".toList rule [] := ⟨[], _, rfl, by simp, by decide⟩
  have vanishes : rule.Vanishes "a:f(".toList :=
    ⟨rfl, "a\\:f[*".toList, "*".toList, by decide, by simp, by decide⟩
  obtain ⟨failsIff, told, -⟩ := replace_outcome "a:f[".toList built (by simp [r])
  obtain ⟨e, failed⟩ := failsIff.2 ⟨rfl, .inr ⟨rule, [], decides, vanishes⟩⟩
  refine ⟨r, rule, built, by simp [r], rfl, decides, vanishes, ?_, by decide⟩
  rw [failed, told e failed]
  rfl

end WildcardRules.Replacer
