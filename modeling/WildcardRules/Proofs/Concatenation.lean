import WildcardRules.Proofs.Dispatch

set_option autoImplicit false

namespace WildcardRules.Replacer

def answer (r : Replacer) (value : Text) : Except Text Text := (r.replace value).mapError NoMatch.value

theorem answer_of_identity (r : Replacer) (value : Text) (empty : r.rules = []) :
    r.answer value = .ok value := by
  rw [answer, replace, isIdentity, empty]
  rfl

theorem replace_of_results (r s : Replacer) (value : Text) (inhabited : r.rules ≠ []) (other : s.rules ≠ [])
    (required : r.required = s.required)
    (same : r.firstResult? value.normalizeBrackets = s.firstResult? value.normalizeBrackets) :
    r.replace value = (s.replace value).mapError fun e => { e with patterns := r.patterns } := by
  rw [replace_eq r value inhabited, replace_eq s value other, same, required]
  cases s.firstResult? value.normalizeBrackets with
  | none => cases s.required <;> rfl
  | some result =>
      cases result with
      | nil => cases s.required <;> rfl
      | cons c result => rfl

theorem answer_of_results (r s : Replacer) (value : Text) (inhabited : r.rules ≠ []) (other : s.rules ≠ [])
    (required : r.required = s.required)
    (same : r.firstResult? value.normalizeBrackets = s.firstResult? value.normalizeBrackets) :
    r.answer value = s.answer value := by
  rw [answer, answer, replace_of_results r s value inhabited other required same]
  cases s.replace value <;> rfl

theorem answer_congr (r s : Replacer) (value : Text) (inhabited : r.rules ≠ []) (other : s.rules ≠ [])
    (required : r.required = s.required)
    (same : r.firstMatch? value.normalizeBrackets = s.firstMatch? value.normalizeBrackets) :
    r.answer value = s.answer value := by
  apply answer_of_results r s value inhabited other required
  rw [first_result_eq, first_result_eq, same]

theorem first_match_append (r first second : Replacer) (value : Text)
    (whole : r.rules = first.rules ++ second.rules) :
    r.firstMatch? value = (first.firstMatch? value).or (second.firstMatch? value) := by
  rw [firstMatch?, whole, List.findSome?_append]
  rfl

theorem listed_many (rules : List Text) (nonempty : ∀ p ∈ rules, p ≠ []) :
    (RuleInput.many rules).listed = rules := by
  apply List.filter_eq_self.2
  intro p member
  simp [nonempty p member]

theorem build_many_ok_iff (rules : List Text) (options : Options) (r : Replacer) (inhabited : rules ≠ [])
    (nonempty : ∀ p ∈ rules, p ≠ []) :
    build (.many rules) options = .ok r ↔
      r.name = options.name ∧ r.required = options.required ∧ r.patterns = rules ∧
      List.Forall₂ (fun p rule => Rule.Compiled p rules.length rule) rules r.rules := by
  rw [build_ok_iff, listed_many rules nonempty]
  simp [inhabited]

section

variable (rules more : List Text) (options : Options) (inhabited : rules ≠ []) (moreInhabited : more ≠ [])
  (nonempty : ∀ p ∈ rules ++ more, p ≠ [])

include inhabited moreInhabited

theorem several : 1 < (rules ++ more).length := by
  have one := List.length_pos_iff.2 inhabited
  have another := List.length_pos_iff.2 moreInhabited
  rw [List.length_append]
  omega

include nonempty

theorem build_append_ok_iff (r : Replacer) :
    build (.many (rules ++ more)) options = .ok r ↔
      ∃ first second, build (.many rules) options = .ok first ∧
        build (.many more) options = .ok second ∧
        (∀ rule ∈ first.rules ++ second.rules, rule.kind ≠ .constant) ∧
        r = ⟨options.name, options.required, rules ++ more, first.rules ++ second.rules⟩ := by
  have nonemptyRules : ∀ p ∈ rules, p ≠ [] := fun p member => nonempty p (by simp [member])
  have nonemptyMore : ∀ p ∈ more, p ≠ [] := fun p member => nonempty p (by simp [member])
  rw [build_many_ok_iff (rules ++ more) options r (by simp [inhabited]) nonempty]
  constructor
  · intro accepted
    obtain ⟨nameEq, requiredEq, patternsEq, pointwise⟩ := accepted
    have notConstant : ∀ rule ∈ r.rules, rule.kind ≠ .constant := by
      intro rule member
      obtain ⟨p, -, compiled⟩ := pointwise_member pointwise rule member
      exact Rule.compiled_unhidden compiled (several rules more inhabited moreInhabited)
    obtain ⟨us, vs, front, back, whole⟩ := (pointwise_append_iff rules more r.rules).1 pointwise
    rw [whole] at notConstant
    refine ⟨⟨options.name, options.required, rules, us⟩, ⟨options.name, options.required, more, vs⟩,
      ?_, ?_, notConstant, ?_⟩
    · refine (build_many_ok_iff rules options _ inhabited nonemptyRules).2 ⟨rfl, rfl, rfl, ?_⟩
      exact pointwise_imp front fun p rule member compiled =>
        Rule.compiled_recount compiled (notConstant rule (by simp [member])) rules.length
    · refine (build_many_ok_iff more options _ moreInhabited nonemptyMore).2 ⟨rfl, rfl, rfl, ?_⟩
      exact pointwise_imp back fun p rule member compiled =>
        Rule.compiled_recount compiled (notConstant rule (by simp [member])) more.length
    · rw [← nameEq, ← requiredEq, ← patternsEq, ← whole]
  · intro parts
    obtain ⟨first, second, builtFirst, builtSecond, notConstant, rfl⟩ := parts
    obtain ⟨-, -, -, front⟩ := (build_many_ok_iff rules options first inhabited nonemptyRules).1 builtFirst
    obtain ⟨-, -, -, back⟩ := (build_many_ok_iff more options second moreInhabited nonemptyMore).1 builtSecond
    refine ⟨rfl, rfl, rfl, List.rel_append ?_ ?_⟩
    · exact pointwise_imp front fun p rule member compiled =>
        Rule.compiled_recount compiled (notConstant rule (by simp [member])) _
    · exact pointwise_imp back fun p rule member compiled =>
        Rule.compiled_recount compiled (notConstant rule (by simp [member])) _

end

theorem built_inhabited {r : Replacer} {rules : List Text} {options : Options} (inhabited : rules ≠ [])
    (nonempty : ∀ p ∈ rules, p ≠ []) (built : build (.many rules) options = .ok r) : r.rules ≠ [] := by
  obtain ⟨-, -, -, pointwise⟩ := (build_many_ok_iff rules options r inhabited nonempty).1 built
  rw [← List.length_pos_iff, ← pointwise.length_eq]
  exact List.length_pos_iff.2 inhabited

theorem built_required {r : Replacer} {input : RuleInput} {options : Options}
    (built : build input options = .ok r) : r.required = options.required :=
  ((build_ok_iff input options r).1 built).2.2.1

theorem first_match_applied (r : Replacer) (value : Text)
    (applies : ∃ rule ∈ r.rules, (rule.apply value).isSome) : (r.firstMatch? value).isSome := by
  obtain ⟨rule, member, applied⟩ := applies
  cases found : r.firstMatch? value with
  | none =>
      rw [(first_match_none_iff r value).1 found rule member] at applied
      cases applied
  | some decided => rfl

theorem answer_append (r first second : Replacer) (value : Text) (inhabited : first.rules ≠ [])
    (moreInhabited : second.rules ≠ []) (whole : r.rules = first.rules ++ second.rules)
    (requiredFirst : r.required = first.required) (requiredSecond : r.required = second.required) :
    ((∃ rule ∈ first.rules, (rule.apply value.normalizeBrackets).isSome) →
      r.answer value = first.answer value) ∧
    ((∀ rule ∈ first.rules, rule.apply value.normalizeBrackets = none) →
      r.answer value = second.answer value) := by
  have either := first_match_append r first second value.normalizeBrackets whole
  have whole_inhabited : r.rules ≠ [] := by simp [whole, inhabited]
  constructor
  · intro applies
    have decided := first_match_applied first value.normalizeBrackets applies
    rw [Option.or_of_isSome decided] at either
    exact answer_congr r first value whole_inhabited inhabited requiredFirst either
  · intro skipped
    have undecided := (first_match_none_iff first value.normalizeBrackets).2 skipped
    rw [undecided, Option.none_or] at either
    exact answer_congr r second value whole_inhabited moreInhabited requiredSecond either

theorem concatenation (rules more : List Text) (options : Options) (inhabited : rules ≠ [])
    (moreInhabited : more ≠ []) (nonempty : ∀ p ∈ rules ++ more, p ≠ []) :
    ((∃ r, build (.many (rules ++ more)) options = .ok r) ↔
      ∃ first second, build (.many rules) options = .ok first ∧
        build (.many more) options = .ok second ∧
        ∀ rule ∈ first.rules ++ second.rules, rule.kind ≠ .constant) ∧
    ∀ r first second, build (.many (rules ++ more)) options = .ok r →
      build (.many rules) options = .ok first → build (.many more) options = .ok second →
      ∀ value,
        ((∃ rule ∈ first.rules, (rule.apply value.normalizeBrackets).isSome) →
          r.answer value = first.answer value) ∧
        ((∀ rule ∈ first.rules, rule.apply value.normalizeBrackets = none) →
          r.answer value = second.answer value) := by
  have accepted := build_append_ok_iff rules more options inhabited moreInhabited nonempty
  constructor
  · constructor
    · intro whole
      obtain ⟨r, built⟩ := whole
      obtain ⟨first, second, builtFirst, builtSecond, notConstant, -⟩ := (accepted r).1 built
      exact ⟨first, second, builtFirst, builtSecond, notConstant⟩
    · intro parts
      obtain ⟨first, second, builtFirst, builtSecond, notConstant⟩ := parts
      exact ⟨_, (accepted _).2 ⟨first, second, builtFirst, builtSecond, notConstant, rfl⟩⟩
  · intro r first second built builtFirst builtSecond value
    obtain ⟨first', second', againFirst, againSecond, -, whole⟩ := (accepted r).1 built
    cases builtFirst.symm.trans againFirst
    cases builtSecond.symm.trans againSecond
    refine answer_append r first second value ?_ ?_ (by rw [whole]) ?_ ?_
    · exact built_inhabited inhabited (fun p member => nonempty p (by simp [member])) builtFirst
    · exact built_inhabited moreInhabited (fun p member => nonempty p (by simp [member])) builtSecond
    · rw [built_required built, built_required builtFirst]
    · rw [built_required built, built_required builtSecond]

-- The first rule applies and leaves nothing, so the rule that the second part would have applied does
-- not help the whole.
theorem concatenation_swallowed :
    ∃ r first second, build (.many ["f[*:*".toList, "*:g".toList]) {} = .ok r ∧
      build (.many ["f[*:*".toList]) {} = .ok first ∧ build (.many ["*:g".toList]) {} = .ok second ∧
      r.answer "f[".toList = first.answer "f[".toList ∧ first.answer "f[".toList = .error "f(".toList ∧
      second.answer "f[".toList = .ok "g".toList ∧ r.answer "g[".toList = second.answer "g[".toList := by
  obtain ⟨first, second, builtFirst, builtSecond, plain, applies, failed, answered, skipped⟩ :
      ∃ first second, build (.many ["f[*:*".toList]) {} = .ok first ∧
        build (.many ["*:g".toList]) {} = .ok second ∧
        (∀ rule ∈ first.rules ++ second.rules, rule.kind ≠ .constant) ∧
        (∃ rule ∈ first.rules, (rule.apply (Text.normalizeBrackets "f[".toList)).isSome) ∧
        first.answer "f[".toList = .error "f(".toList ∧ second.answer "f[".toList = .ok "g".toList ∧
        ∀ rule ∈ first.rules, rule.apply (Text.normalizeBrackets "g[".toList) = none :=
    ⟨⟨none, true, ["f[*:*".toList], [⟨"f[*:*".toList, .wildcard ⟨"f(".toList, [[]]⟩ ⟨[], [[]]⟩⟩]⟩,
      ⟨none, true, ["*:g".toList], [⟨"*:g".toList, .wildcard ⟨[], [[]]⟩ ⟨"g".toList, []⟩⟩]⟩, by decide⟩
  obtain ⟨accepted, agrees⟩ := concatenation ["f[*:*".toList] ["*:g".toList] {} (by decide) (by decide)
    (by decide)
  obtain ⟨r, built⟩ := accepted.2 ⟨first, second, builtFirst, builtSecond, plain⟩
  have agree := agrees r first second built builtFirst builtSecond
  exact ⟨r, first, second, built, builtFirst, builtSecond, (agree _).1 applies, failed, answered,
    (agree _).2 skipped⟩

end WildcardRules.Replacer
