import WildcardRules.Config
import WildcardRules.Proofs.RuleSet

set_option autoImplicit false

namespace WildcardRules

inductive Noisy {α : Type} (noise : α → Prop) : List α → List α → Prop where
  | done : Noisy noise [] []
  | keep (x : α) (xs ys : List α) : Noisy noise xs ys → Noisy noise (x :: xs) (x :: ys)
  | noise (x : α) (xs ys : List α) : noise x → Noisy noise xs ys → Noisy noise xs (x :: ys)

def Text.IsNoise (t : Text) : Prop := t = []

def Toml.Value.IsNoise (value : Toml.Value) : Prop := ∀ text, value = .string text → text.IsNoise

theorem Toml.Value.text_eq_some_iff (value : Toml.Value) (text : Text) :
    value.text? = some text ↔ value = .string text := by
  cases value <;> simp [text?]

theorem texts_noisy (items others : List Toml.Value) (noisy : Noisy Toml.Value.IsNoise items others) :
    Noisy Text.IsNoise (items.filterMap Toml.Value.text?) (others.filterMap Toml.Value.text?) := by
  induction noisy with
  | done => exact .done
  | keep value xs ys _ ih =>
      cases own : value.text? with
      | none => simpa [own] using ih
      | some text => simpa [own] using Noisy.keep text _ _ ih
  | noise value xs ys none _ ih =>
      cases own : value.text? with
      | none => simpa [own] using ih
      | some text =>
          have empty := none text ((Toml.Value.text_eq_some_iff value text).1 own)
          simpa [own] using Noisy.noise text _ _ empty ih

namespace RuleInput

theorem listed_noisy (rules others : List Text) (noisy : Noisy Text.IsNoise rules others) :
    (many others).listed = (many rules).listed := by
  simp only [listed, toList]
  induction noisy with
  | done => rfl
  | keep rule xs ys _ ih => rw [List.filter_cons, List.filter_cons, ih]
  | noise rule xs ys empty _ ih =>
      rw [List.filter_cons, if_neg, ih]
      simp [show rule = [] from empty]

structure Interchangeable (input other : RuleInput) : Prop where
  validate : ∀ name required, input.validate name required = other.validate name required
  build : ∀ options, Replacer.build input options = Replacer.build other options

theorem interchangeable_of_listed (input other : RuleInput) (same : input.listed = other.listed) :
    input.Interchangeable other := by
  refine ⟨?_, fun options => Replacer.build_of_listed input options other same⟩
  intro name required
  rw [input.validate_eq, other.validate_eq, same]

theorem of_toml_ruleless (value : Toml.Value) (noText : ∀ text, value ≠ .string text)
    (noArray : ∀ items, value ≠ .array items) : ofToml value = .none := by
  cases value with
  | string text => exact absurd rfl (noText text)
  | array items => exact absurd rfl (noArray items)
  | integer _ => rfl
  | float _ => rfl
  | boolean _ => rfl
  | dateTime _ => rfl
  | table _ => rfl

theorem validate_again (input : RuleInput) (name : Option Text) (required : Bool) (rules : List Text)
    (accepted : input.validate name required = .ok rules) : (many rules).validate name required = .ok rules := by
  have kept : (many input.listed).listed = input.listed := by simp [listed, toList]
  rw [validate_eq] at accepted
  split at accepted
  · cases accepted
  · rename_i present
    rw [← Except.ok.inj accepted, validate_eq, kept, if_neg present]

end RuleInput

namespace RuleSet

open RuleInput

def Ruleless (s : RuleSet) : Prop :=
  ∀ value, s.rules = some value → (∀ text, value ≠ .string text) ∧ ∀ items, value ≠ .array items

theorem input_noisy (name : Text) (required : Bool) (items others : List Toml.Value)
    (noisy : Noisy Toml.Value.IsNoise items others) :
    (input ⟨name, required, some (.array others)⟩).Interchangeable
      (input ⟨name, required, some (.array items)⟩) :=
  interchangeable_of_listed _ _ (listed_noisy _ _ (texts_noisy items others noisy))

theorem input_ruleless (s : RuleSet) (ruleless : s.Ruleless) : s.input.Interchangeable (.many []) := by
  apply interchangeable_of_listed
  rw [input]
  cases declared : s.rules with
  | none => rfl
  | some value =>
      obtain ⟨noText, noArray⟩ := ruleless value declared
      simp only [of_toml_ruleless value noText noArray]
      rfl

end RuleSet

namespace Replacer

open RuleInput (Interchangeable)

theorem noise_invisible :
    (∀ rules others : List Text, Noisy Text.IsNoise rules others →
      Interchangeable (.many others) (.many rules)) ∧
    (∀ (name : Text) (required : Bool) (items others : List Toml.Value), Noisy Toml.Value.IsNoise items others →
      let noisy : RuleSet := ⟨name, required, some (.array others)⟩
      let plain : RuleSet := ⟨name, required, some (.array items)⟩
      Interchangeable noisy.input plain.input ∧ noisy.build = plain.build) ∧
    (∀ rule, Interchangeable (.single rule) (.many [rule])) ∧
    Interchangeable .none (.many []) ∧
    (∀ s : RuleSet, s.Ruleless → Interchangeable s.input (.many []) ∧
      s.build = build (.many []) ⟨some s.name, s.required⟩) ∧
    ∀ (input : RuleInput) (name : Option Text) (required : Bool) (rules : List Text),
      input.validate name required = .ok rules → (RuleInput.many rules).validate name required = .ok rules := by
  refine ⟨?_, ?_, ?_, ?_, ?_, RuleInput.validate_again⟩
  · intro rules others noisy
    exact RuleInput.interchangeable_of_listed _ _ (RuleInput.listed_noisy rules others noisy)
  · intro name required items others noisy
    have same := RuleSet.input_noisy name required items others noisy
    exact ⟨same, same.build ⟨some name, required⟩⟩
  · intro rule
    exact RuleInput.interchangeable_of_listed _ _ rfl
  · exact RuleInput.interchangeable_of_listed _ _ rfl
  · intro s ruleless
    have same := RuleSet.input_ruleless s ruleless
    exact ⟨same, same.build ⟨some s.name, s.required⟩⟩

theorem noise_invisible_bare :
    build (.many [[], "a".toList, []]) {} =
      .ok ⟨none, true, ["a".toList], [⟨"a".toList, .constant "a".toList⟩]⟩ ∧
    RuleSet.build ⟨"n".toList, true, some (.array
      [.boolean true, .string "a".toList, .string [], .array [.string "c".toList], .string "b".toList])⟩ =
        .error (.multipleBareValues "a".toList 2) ∧
    RuleSet.build ⟨"n".toList, true, some (.boolean true)⟩ = .error (.emptyRuleSet (some "n".toList)) ∧
    (RuleInput.many ["a".toList, "b:c".toList]).validate none true = .ok ["a".toList, "b:c".toList] := by
  obtain ⟨texts, values, -, -, ruleless, again⟩ := noise_invisible
  refine ⟨?_, ?_, ?_, ?_⟩
  · have noisy : Noisy Text.IsNoise ["a".toList] [[], "a".toList, []] :=
      .noise _ _ _ rfl (.keep _ _ _ (.noise _ _ _ rfl .done))
    exact ((texts _ _ noisy).build {}).trans rfl
  · have noisy : Noisy Toml.Value.IsNoise [.string "a".toList, .string "b".toList]
        [.boolean true, .string "a".toList, .string [], .array [.string "c".toList], .string "b".toList] := by
      refine .noise _ _ _ ?_ (.keep _ _ _ (.noise _ _ _ ?_ (.noise _ _ _ ?_ (.keep _ _ _ .done))))
      · intro text same
        cases same
      · intro text same
        cases same
        rfl
      · intro text same
        cases same
    exact (values "n".toList true _ _ noisy).2.trans rfl
  · have none : RuleSet.Ruleless ⟨"n".toList, true, some (.boolean true)⟩ := by
      intro value declared
      cases declared
      exact ⟨by simp, by simp⟩
    exact (ruleless _ none).2.trans rfl
  · exact again (.many ["a".toList, [], "b:c".toList]) none true _ rfl

end Replacer

end WildcardRules
