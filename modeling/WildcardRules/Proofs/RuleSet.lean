import WildcardRules.Proofs.Compilation
import WildcardRules.Proofs.Traversal
import WildcardRules.Replacer

set_option autoImplicit false

namespace WildcardRules

open Pattern

def RuleInput.listed (input : RuleInput) : List Text := input.toList.filter fun rule => !rule.isEmpty

theorem RuleInput.listed_nonempty (input : RuleInput) : ∀ pattern ∈ input.listed, pattern ≠ [] := by
  intro pattern member
  simpa using (List.mem_filter.1 member).2

theorem RuleInput.validate_eq (input : RuleInput) (name : Option Text) (required : Bool) :
    input.validate name required =
      if required && input.listed.isEmpty then .error (.emptyRuleSet name) else .ok input.listed := rfl

namespace Rule

theorem compile_all_ok_iff (patterns : List Text) (rules : List Rule) :
    compileAll patterns = .ok rules ↔
      List.Forall₂ (fun pattern rule => Compiled pattern patterns.length rule) patterns rules := by
  rw [compileAll, map_m_ok_iff_pointwise]
  simp only [compile_ok_iff]

theorem compile_all_error_iff (patterns : List Text) (error : BuildError) :
    compileAll patterns = .error error ↔ ∃ before pattern after, patterns = before ++ pattern :: after ∧
      (∀ p ∈ before, ∀ e, ¬ Fault p patterns.length e) ∧ Fault pattern patterns.length error := by
  rw [compileAll, map_m_error_iff]
  simp only [faultless_iff, compile_error_iff]

theorem fault_of_stars (n count : Nat) (target : Text) (something : target ≠ []) (plain : '*' ∉ target)
    (many : Regex.sizeLimit < n * 1104) :
    Fault (joined (List.replicate n '*') target) count
      (.expressionTooLarge (joined (List.replicate n '*') target)) := by
  obtain ⟨rest, rfl⟩ : ∃ rest, n = rest + 1 := ⟨n - 1, by simp only [Regex.sizeLimit] at many; omega⟩
  have isSource : IsSource (List.replicate (rest + 1) '*') := by
    refine is_source_of_colonless _ (by simp) ?_ (by simp [List.mem_replicate])
    rw [List.getLast?_replicate, if_neg (by omega)]
    decide
  obtain ⟨notBare, first⟩ := (read_eq_pair_iff _ _ _).1 (read_joined _ target isSource something)
  have stars : (List.replicate (rest + 1) '*').count '*' = rest + 1 := List.count_replicate_self
  refine .tooLarge _ target notBare first (by omega) (.inl (List.count_eq_zero.2 plain)) ?_
  exact beyond_limit_of_stars _ (by rwa [stars])

theorem compile_all_ok_of_faultless (patterns : List Text)
    (faultless : ∀ p ∈ patterns, ∀ e, ¬ Fault p patterns.length e) :
    ∃ rules, compileAll patterns = .ok rules := by
  apply map_m_ok_of_all
  intro p member
  exact (faultless_iff p patterns.length).1 (faultless p member)

end Rule

namespace Replacer

variable (input : RuleInput) (options : Options)

theorem build_of_listed (other : RuleInput) (same : input.listed = other.listed) :
    build input options = build other options := by
  rw [build, build, input.validate_eq, other.validate_eq, same]

theorem build_empty (required : options.required = true) (none : input.listed = []) :
    build input options = .error (.emptyRuleSet options.name) := by
  rw [build, input.validate_eq, required, none]
  rfl

theorem build_listed (present : ¬ (options.required = true ∧ input.listed = [])) :
    build input options = (Rule.compileAll input.listed).map fun rules =>
      ⟨options.name, options.required, input.listed, rules⟩ := by
  have kept : (options.required && input.listed.isEmpty) = false := by
    rw [← Bool.not_eq_true, Bool.and_eq_true, List.isEmpty_iff]
    exact present
  rw [build, input.validate_eq, kept]
  change (Rule.compileAll input.listed).bind _ = _
  cases Rule.compileAll input.listed <;> rfl

theorem build_ok_iff (r : Replacer) :
    build input options = .ok r ↔ ¬ (options.required = true ∧ input.listed = []) ∧
      r.name = options.name ∧ r.required = options.required ∧ r.patterns = input.listed ∧
      List.Forall₂ (fun p rule => Rule.Compiled p input.listed.length rule) input.listed r.rules := by
  rw [← Rule.compile_all_ok_iff]
  by_cases absent : options.required = true ∧ input.listed = []
  · simp [build_empty input options absent.1 absent.2, absent]
  · rw [build_listed input options absent]
    cases compiled : Rule.compileAll input.listed with
    | error e => simp [Except.map]
    | ok rules =>
        simp only [Except.map, Except.ok.injEq]
        constructor
        · intro same
          subst same
          exact ⟨absent, rfl, rfl, rfl, rfl⟩
        · intro fields
          obtain ⟨-, nameEq, requiredEq, patternsEq, rfl⟩ := fields
          rw [← nameEq, ← requiredEq, ← patternsEq]

variable {input options} in
theorem built_rule {r : Replacer} (built : build input options = .ok r) (rule : Rule)
    (member : rule ∈ r.rules) :
    ∃ pattern ∈ input.listed, Rule.Compiled pattern input.listed.length rule := by
  obtain ⟨-, -, -, -, pointwise⟩ := (build_ok_iff input options r).1 built
  exact pointwise_member pointwise rule member

variable {input options} in
theorem built_patterns {r : Replacer} (built : build input options = .ok r) :
    r.patterns = input.listed ∧ r.rules.length = input.listed.length := by
  obtain ⟨-, -, -, patternsEq, pointwise⟩ := (build_ok_iff input options r).1 built
  exact ⟨patternsEq, pointwise.length_eq.symm⟩

theorem build_alone (pattern : Text) (rule : Rule) (handed : input.toList = [pattern]) (nonempty : pattern ≠ [])
    (compiled : Rule.Compiled pattern 1 rule) : ∃ r, build input options = .ok r ∧ r.rules = [rule] := by
  have listed : input.listed = [pattern] := by
    rw [RuleInput.listed, handed]
    simp [nonempty]
  refine ⟨⟨options.name, options.required, [pattern], [rule]⟩, ?_, rfl⟩
  rw [build_ok_iff, listed]
  exact ⟨by simp, rfl, rfl, rfl, .cons compiled .nil⟩

theorem build_error_iff (error : BuildError) :
    build input options = .error error ↔
      (options.required = true ∧ input.listed = [] ∧ error = .emptyRuleSet options.name) ∨
      ∃ before pattern after, input.listed = before ++ pattern :: after ∧
        (∀ p ∈ before, ∀ e, ¬ Rule.Fault p input.listed.length e) ∧
        Rule.Fault pattern input.listed.length error := by
  rw [← Rule.compile_all_error_iff]
  by_cases absent : options.required = true ∧ input.listed = []
  · rw [build_empty input options absent.1 absent.2, absent.2]
    have passed : Rule.compileAll [] = .ok [] := rfl
    simp [passed, absent.1, eq_comm]
  · rw [build_listed input options absent]
    cases compiled : Rule.compileAll input.listed with
    | error e =>
        simp only [Except.map, Except.error.injEq]
        exact ⟨.inr, fun either => either.resolve_left fun empty => absent ⟨empty.1, empty.2.1⟩⟩
    | ok rules =>
        simp only [Except.map, reduceCtorEq, or_false, false_iff]
        exact fun empty => absent ⟨empty.1, empty.2.1⟩

-- An error is told exactly, and so is what comes out where there is none. The fault of a pattern is
-- told with the number of all patterns, since a bare value is one only among others.
theorem build_verdict :
    (∀ error, build input options = .error error ↔
      (options.required = true ∧ input.listed = [] ∧ error = .emptyRuleSet options.name) ∨
      ∃ before pattern after, input.listed = before ++ pattern :: after ∧
        (∀ p ∈ before, ∀ e, ¬ Rule.Fault p input.listed.length e) ∧
        Rule.Fault pattern input.listed.length error) ∧
    (¬ (options.required = true ∧ input.listed = []) →
      (∀ p ∈ input.listed, ∀ e, ¬ Rule.Fault p input.listed.length e) →
      ∃ r, build input options = .ok r ∧ r.name = options.name ∧ r.required = options.required ∧
        r.patterns = input.listed ∧
        List.Forall₂ (fun p rule => rule.pattern = p ∧ ∀ kind, rule.kind = kind ↔ Rule.Shape p kind)
          input.listed r.rules) := by
  refine ⟨build_error_iff input options, ?_⟩
  intro present faultless
  obtain ⟨rules, compiled⟩ := Rule.compile_all_ok_of_faultless input.listed faultless
  have pointwise := (Rule.compile_all_ok_iff input.listed rules).1 compiled
  refine ⟨⟨options.name, options.required, input.listed, rules⟩, ?_, rfl, rfl, rfl, ?_⟩
  · exact (build_ok_iff input options _).2 ⟨present, rfl, rfl, rfl, pointwise⟩
  · apply pointwise.imp
    intro p rule each
    exact ⟨Rule.compiled_pattern each, fun kind => (Rule.compiled_shape_iff each kind).symm⟩

-- Two rules are built here. The bare value is the first fault there, in spite of the stars that do not
-- match behind it, and so many stars make an expression that is too large.
theorem build_verdict_mixed :
    (∃ r, build (.many ["a\\:b:c".toList, [], "*:g".toList]) {} = .ok r ∧
      r.patterns = ["a\\:b:c".toList, "*:g".toList]) ∧
    (∃ before pattern after, ["*:g".toList, "x:".toList, "a*:**".toList] = before ++ pattern :: after ∧
      (∀ p ∈ before, ∀ e, ¬ Rule.Fault p 3 e) ∧
      Rule.Fault pattern 3 (.multipleBareValues "x:".toList 3)) ∧
    build (.single (joined (List.replicate 12000 '*') "x".toList)) {} =
      .error (.expressionTooLarge (joined (List.replicate 12000 '*') "x".toList)) := by
  refine ⟨?_, ?_, ?_⟩
  · have faultless : ∀ p ∈ ["a\\:b:c".toList, "*:g".toList], ∀ e, ¬ Rule.Fault p 2 e := by
      intro p member
      refine (Rule.faultless_iff p 2).2 ?_
      rcases List.mem_pair.1 member with same | same
      · rw [same]
        exact ⟨⟨"a\\:b:c".toList, .exact "a\\:b".toList "c".toList⟩, rfl⟩
      · rw [same]
        exact ⟨⟨"*:g".toList, .wildcard ⟨[], [[]]⟩ ⟨"g".toList, []⟩⟩, rfl⟩
    obtain ⟨r, built, -, -, patterns, -⟩ :=
      (build_verdict (.many ["a\\:b:c".toList, [], "*:g".toList]) {}).2 (by decide) faultless
    exact ⟨r, built, patterns⟩
  · have refused : build (.many ["*:g".toList, "x:".toList, "a*:**".toList]) {} =
        .error (.multipleBareValues "x:".toList 3) := rfl
    obtain ⟨_, _, absurdity⟩ | found := ((build_verdict _ _).1 _).1 refused
    · cases absurdity
    · exact found
  · have alone : (RuleInput.single (joined (List.replicate 12000 '*') "x".toList)).listed =
        [joined (List.replicate 12000 '*') "x".toList] := rfl
    refine ((build_verdict _ _).1 _).2 (.inr ⟨[], _, [], alone, List.forall_mem_nil _, ?_⟩)
    exact Rule.fault_of_stars 12000 _ "x".toList (by decide) (by decide) (by decide)

end Replacer

end WildcardRules
