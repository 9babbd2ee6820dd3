import WildcardRules.Proofs.Concatenation
import WildcardRules.Proofs.Selection

set_option autoImplicit false

namespace WildcardRules

namespace Rule

open Pattern

variable {pattern : Text} {count : Nat} {rule : Rule}

theorem compiled_constant_value (nonempty : pattern ≠ []) (compiled : Compiled pattern count rule) (value : Text)
    (action : rule.action = .constant value) : value ≠ [] := by
  cases compiled with
  | constant bare read single =>
      cases action
      exact unescape_nonempty bare (bare_value_nonempty pattern bare nonempty read)
  | exact source target pair plain => cases action
  | wildcard source target pair starred counts small => cases action

theorem compiled_exact_texts (compiled : Compiled pattern count rule) (source target : Text)
    (action : rule.action = .exact source target) : source ≠ [] ∧ target ≠ [] ∧ '*' ∉ source := by
  cases compiled with
  | constant bare read single => cases action
  | exact source target pair plain =>
      cases action
      obtain ⟨halves, something⟩ := split_of_pair pattern source target pair
      exact ⟨(split_is_source pattern source target halves).nonempty, something, List.count_eq_zero.1 plain⟩
  | wildcard source target pair starred counts small => cases action

theorem compiled_wildcard_stars (compiled : Compiled pattern count rule) (source target : Template)
    (action : rule.action = .wildcard source target) :
    (target.stars = 0 ∨ target.stars = source.stars) ∧ ∃ s t, split? rule.pattern = some (s, t) ∧
      source.stars = s.count '*' ∧ target.stars = t.count '*' := by
  cases compiled with
  | constant bare read single => cases action
  | exact source target pair plain => cases action
  | wildcard source target pair starred counts small =>
      cases action
      have halves := (split_of_pair pattern source target pair).1
      have given : ((Template.ofText source).mapLiterals readLiteral).stars = source.count '*' := by
        rw [Template.stars_map_literals, Template.stars_of_text]
      have wanted : (Template.ofText target).stars = target.count '*' := Template.stars_of_text target
      exact ⟨by rwa [given, wanted], source, target, halves, given, wanted⟩

end Rule

namespace Replacer

structure Invariant (r : Replacer) : Prop where
  lengths : r.patterns.length = r.rules.length
  labelled : ∀ (i : Nat) (rule : Rule), r.rules[i]? = some rule → r.patterns[i]? = some rule.pattern
  nonempty : ∀ pattern ∈ r.patterns, pattern ≠ []
  unhidden : 2 ≤ r.rules.length → ∀ rule ∈ r.rules, rule.kind ≠ .constant
  optional : r.isIdentity = true → r.required = false
  constants : ∀ rule ∈ r.rules, ∀ value, rule.action = .constant value → value ≠ []
  exacts : ∀ rule ∈ r.rules, ∀ source target, rule.action = .exact source target →
    source ≠ [] ∧ target ≠ [] ∧ '*' ∉ source
  wildcards : ∀ rule ∈ r.rules, ∀ source target, rule.action = .wildcard source target →
    (target.stars = 0 ∨ target.stars = source.stars) ∧ ∃ s t, Pattern.split? rule.pattern = some (s, t) ∧
      source.stars = s.count '*' ∧ target.stars = t.count '*'

inductive Made (r : Replacer) : Prop where
  | build (input : RuleInput) (options : Options) : Replacer.build input options = .ok r → Made r
  | ofSet (s : RuleSet) : s.build = .ok r → Made r
  | selected (c : Config) (name : Text) : c.build name = .ok r → Made r
  | listed (c : Config) (replacers : List Replacer) : c.buildAll = .ok replacers → r ∈ replacers → Made r

theorem made_of_config_build (c : Config) (name : Text) (r : Replacer) (built : c.build name = .ok r) :
    ∃ s ∈ c.sets, s.build = .ok r := by
  obtain ⟨s, found, own⟩ := (Config.build_ok_iff c name r).1 built
  exact ⟨s, List.mem_of_find?_eq_some found, own⟩

theorem built_of_made (r : Replacer) (made : Made r) :
    ∃ input options, Replacer.build input options = .ok r := by
  cases made with
  | build input options built => exact ⟨input, options, built⟩
  | ofSet s built => exact ⟨s.input, s.options, built⟩
  | selected c name built =>
      obtain ⟨s, -, own⟩ := made_of_config_build c name r built
      exact ⟨s.input, s.options, own⟩
  | listed c replacers built member =>
      obtain ⟨s, -, own⟩ := pointwise_member ((Config.build_all_ok_iff c replacers).1 built) r member
      exact ⟨s.input, s.options, own⟩

section

variable {r : Replacer} {input : RuleInput} {options : Options} (built : build input options = .ok r)

include built

theorem built_labelled : List.Forall₂ (fun pattern rule => rule.pattern = pattern) r.patterns r.rules := by
  obtain ⟨-, -, -, patternsEq, pointwise⟩ := (build_ok_iff input options r).1 built
  rw [patternsEq]
  exact pointwise.imp fun pattern rule compiled => Rule.compiled_pattern compiled

theorem built_nonempty : ∀ pattern ∈ r.patterns, pattern ≠ [] := by
  rw [(built_patterns built).1]
  exact input.listed_nonempty

theorem built_unhidden (several : 2 ≤ r.rules.length) (rule : Rule) (member : rule ∈ r.rules) :
    rule.kind ≠ .constant := by
  obtain ⟨pattern, -, compiled⟩ := built_rule built rule member
  rw [(built_patterns built).2] at several
  exact Rule.compiled_unhidden compiled several

theorem built_optional (identity : r.isIdentity = true) : r.required = false := by
  obtain ⟨present, -, requiredEq, -, pointwise⟩ := (build_ok_iff input options r).1 built
  have unlisted : input.listed = [] := (pointwise_nil_iff pointwise).2 (List.isEmpty_iff.1 identity)
  rw [requiredEq, ← Bool.not_eq_true]
  exact fun required => present ⟨required, unlisted⟩

theorem built_invariant : r.Invariant where
  lengths := (built_labelled built).length_eq
  labelled := by
    intro i rule found
    obtain ⟨pattern, own, labelled⟩ := pointwise_at (built_labelled built).flip i rule found
    rw [own, labelled]
  nonempty := built_nonempty built
  unhidden := built_unhidden built
  optional := built_optional built
  constants := by
    intro rule member
    obtain ⟨pattern, present, compiled⟩ := built_rule built rule member
    exact Rule.compiled_constant_value (input.listed_nonempty pattern present) compiled
  exacts := by
    intro rule member
    obtain ⟨pattern, -, compiled⟩ := built_rule built rule member
    exact Rule.compiled_exact_texts compiled
  wildcards := by
    intro rule member
    obtain ⟨pattern, -, compiled⟩ := built_rule built rule member
    exact Rule.compiled_wildcard_stars compiled

theorem rebuild : build (.many r.patterns) ⟨r.name, r.required⟩ = .ok r := by
  have kept := listed_many r.patterns (built_nonempty built)
  obtain ⟨present, -, requiredEq, patternsEq, pointwise⟩ := (build_ok_iff input options r).1 built
  rw [← patternsEq, ← requiredEq] at present
  rw [← patternsEq] at pointwise
  rw [build_ok_iff, kept]
  exact ⟨present, rfl, rfl, rfl, pointwise⟩

end

theorem made_invariant (r : Replacer) (made : r.Made) :
    r.Invariant ∧ build (.many r.patterns) ⟨r.name, r.required⟩ = .ok r := by
  obtain ⟨input, options, built⟩ := built_of_made r made
  exact ⟨built_invariant built, rebuild built⟩

theorem made_invariant_selected :
    let c : Config := ⟨[⟨"n".toList, false, some (.array
      [.string "ns\\:[*:id-*".toList, .boolean true, .string [], .string "a:b*".toList])⟩]⟩
    ∃ r, c.build "n".toList = .ok r ∧ r.Invariant ∧ r.patterns = ["ns\\:[*:id-*".toList, "a:b*".toList] ∧
      build (.many ["ns\\:[*:id-*".toList, "a:b*".toList]) ⟨some "n".toList, false⟩ = .ok r := by
  intro c
  obtain ⟨r, built, patterns, name, required⟩ : ∃ r, c.build "n".toList = .ok r ∧
      r.patterns = ["ns\\:[*:id-*".toList, "a:b*".toList] ∧ r.name = some "n".toList ∧ r.required = false :=
    ⟨⟨some "n".toList, false, ["ns\\:[*:id-*".toList, "a:b*".toList],
      [⟨"ns\\:[*:id-*".toList, .wildcard ⟨"ns:(".toList, [[]]⟩ ⟨"id-".toList, [[]]⟩⟩,
        ⟨"a:b*".toList, .exact "a".toList "b*".toList⟩]⟩, rfl, rfl, rfl, rfl⟩
  obtain ⟨invariant, again⟩ := made_invariant r (.selected c "n".toList built)
  rw [patterns, name, required] at again
  exact ⟨r, built, invariant, patterns, again⟩

end Replacer

end WildcardRules
