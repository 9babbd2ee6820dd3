import WildcardRules.Proofs.Captures
import WildcardRules.Proofs.Limit
import WildcardRules.Proofs.Separator

set_option autoImplicit false

namespace WildcardRules.Rule

open Pattern

variable (pattern : Text) (count : Nat)

inductive Fault : BuildError → Prop where
  | bare : Bare pattern → 1 < count → Fault (.multipleBareValues pattern count)
  | mismatch (source target : Text) : ¬ Bare pattern → SeparatesFirst pattern source target →
      1 ≤ source.count '*' → 1 ≤ target.count '*' → source.count '*' ≠ target.count '*' →
      Fault (.segmentMismatch pattern (2 * source.count '*' + 1) (2 * target.count '*' + 1))
  | tooLarge (source target : Text) : ¬ Bare pattern → SeparatesFirst pattern source target →
      1 ≤ source.count '*' → target.count '*' = 0 ∨ target.count '*' = source.count '*' →
      ¬ WithinLimit source → Fault (.expressionTooLarge pattern)

inductive Compiled : Rule → Prop where
  | constant (value : Text) : read pattern = .bare value → count ≤ 1 →
      Compiled ⟨pattern, .constant (Text.unescape value)⟩
  | exact (source target : Text) : read pattern = .pair source target → source.count '*' = 0 →
      Compiled ⟨pattern, .exact source target⟩
  | wildcard (source target : Text) : read pattern = .pair source target → source.count '*' ≠ 0 →
      target.count '*' = 0 ∨ target.count '*' = source.count '*' →
      WithinLimit source →
      Compiled ⟨pattern, .wildcard ((Template.ofText source).mapLiterals readLiteral)
        (Template.ofText target)⟩

inductive Shape : Kind → Prop where
  | constant : Bare pattern → Shape .constant
  | exact (source target : Text) : ¬ Bare pattern → SeparatesFirst pattern source target →
      '*' ∉ source → Shape .exact
  | wildcard (source target : Text) : ¬ Bare pattern → SeparatesFirst pattern source target →
      '*' ∈ source → Shape .wildcard

theorem compile_bare (value : Text) (bare : read pattern = .bare value) :
    compile pattern count = if 1 < count then .error (.multipleBareValues pattern count)
      else .ok ⟨pattern, .constant (Text.unescape value)⟩ := by
  rw [compile, bare]

theorem compile_pair (source target : Text) (pair : read pattern = .pair source target) :
    compile pattern count =
      if source.count '*' = 0 then .ok ⟨pattern, .exact source target⟩
      else if 0 < target.count '*' ∧ target.count '*' ≠ source.count '*' then
        .error (.segmentMismatch pattern (2 * source.count '*' + 1) (2 * target.count '*' + 1))
      else if ¬ WithinLimit source then .error (.expressionTooLarge pattern)
      else .ok ⟨pattern, .wildcard ((Template.ofText source).mapLiterals readLiteral)
        (Template.ofText target)⟩ := by
  simp only [compile, pair, Template.length_segments, Template.stars_of_text, within_limit_iff, Nat.not_le]

theorem compile_of_compiled (rule : Rule) (compiled : Compiled pattern count rule) :
    compile pattern count = .ok rule := by
  cases compiled with
  | constant value bare single => rw [compile_bare pattern count value bare, if_neg (by omega)]
  | exact source target pair plain => rw [compile_pair pattern count source target pair, if_pos plain]
  | wildcard source target pair starred counts small =>
      rw [compile_pair pattern count source target pair, if_neg starred, if_neg (by omega),
        if_neg (not_not_intro small)]

theorem compile_of_fault (error : BuildError) (fault : Fault pattern count error) :
    compile pattern count = .error error := by
  cases fault with
  | bare bare several =>
      obtain ⟨value, form⟩ := (bare_iff_read pattern).1 bare
      rw [compile_bare pattern count value form, if_pos several]
  | mismatch source target notBare first starred wanted different =>
      have form := (read_eq_pair_iff pattern source target).2 ⟨notBare, first⟩
      rw [compile_pair pattern count source target form, if_neg (by omega), if_pos (by omega)]
  | tooLarge source target notBare first starred counts large =>
      have form := (read_eq_pair_iff pattern source target).2 ⟨notBare, first⟩
      rw [compile_pair pattern count source target form, if_neg (by omega), if_neg (by omega),
        if_pos large]

theorem compiled_or_fault : (∃ rule, Compiled pattern count rule) ∨ ∃ error, Fault pattern count error := by
  cases form : read pattern with
  | bare value =>
      by_cases several : 1 < count
      · exact .inr ⟨_, .bare ((bare_iff_read pattern).2 ⟨value, form⟩) several⟩
      · exact .inl ⟨_, .constant value form (by omega)⟩
  | pair source target =>
      obtain ⟨notBare, first⟩ := (read_eq_pair_iff pattern source target).1 form
      by_cases plain : source.count '*' = 0
      · exact .inl ⟨_, .exact source target form plain⟩
      · by_cases mismatch : 0 < target.count '*' ∧ target.count '*' ≠ source.count '*'
        · exact .inr ⟨_, .mismatch source target notBare first (by omega) (by omega) (by omega)⟩
        · by_cases small : WithinLimit source
          · exact .inl ⟨_, .wildcard source target form plain (by omega) small⟩
          · exact .inr ⟨_, .tooLarge source target notBare first (by omega) (by omega) small⟩

theorem compile_ok_iff (rule : Rule) :
    compile pattern count = .ok rule ↔ Compiled pattern count rule := by
  constructor
  · intro accepted
    rcases compiled_or_fault pattern count with ⟨other, compiled⟩ | ⟨error, fault⟩
    · cases accepted.symm.trans (compile_of_compiled pattern count other compiled)
      exact compiled
    · cases accepted.symm.trans (compile_of_fault pattern count error fault)
  · exact compile_of_compiled pattern count rule

theorem compile_error_iff (error : BuildError) :
    compile pattern count = .error error ↔ Fault pattern count error := by
  constructor
  · intro refused
    rcases compiled_or_fault pattern count with ⟨rule, compiled⟩ | ⟨other, fault⟩
    · cases refused.symm.trans (compile_of_compiled pattern count rule compiled)
    · cases refused.symm.trans (compile_of_fault pattern count other fault)
      exact fault
  · exact compile_of_fault pattern count error

theorem faultless_iff : (∀ error, ¬ Fault pattern count error) ↔ ∃ rule, compile pattern count = .ok rule := by
  constructor
  · intro faultless
    cases compiled : compile pattern count with
    | ok rule => exact ⟨rule, rfl⟩
    | error error => exact absurd ((compile_error_iff pattern count error).1 compiled) (faultless error)
  · intro accepted error fault
    obtain ⟨rule, compiled⟩ := accepted
    cases compiled.symm.trans ((compile_error_iff pattern count error).2 fault)

variable {pattern count}

theorem compiled_pattern {rule : Rule} (compiled : Compiled pattern count rule) : rule.pattern = pattern := by
  cases compiled <;> rfl

theorem constant_action {rule : Rule} (compiled : Compiled pattern count rule)
    (constant : rule.kind = .constant) : count ≤ 1 ∧ ∃ value, rule.action = .constant value := by
  cases compiled with
  | constant value bare single => exact ⟨single, Text.unescape value, rfl⟩
  | exact source target pair plain => simp [kind] at constant
  | wildcard source target pair starred counts small => simp [kind] at constant

theorem compiled_unhidden {rule : Rule} (compiled : Compiled pattern count rule) (several : 2 ≤ count) :
    rule.kind ≠ .constant := by
  intro constant
  have single := (constant_action compiled constant).1
  omega

theorem compiled_recount {rule : Rule} (compiled : Compiled pattern count rule)
    (notConstant : rule.kind ≠ .constant) (other : Nat) : Compiled pattern other rule := by
  cases compiled with
  | constant value bare single => exact absurd rfl notConstant
  | exact source target pair plain => exact .exact source target pair plain
  | wildcard source target pair starred counts small =>
      exact .wildcard source target pair starred counts small

theorem compiled_shape {rule : Rule} (compiled : Compiled pattern count rule) :
    Shape pattern rule.kind := by
  cases compiled with
  | constant value bare single => exact .constant ((bare_iff_read pattern).2 ⟨value, bare⟩)
  | exact source target pair plain =>
      obtain ⟨notBare, first⟩ := (read_eq_pair_iff pattern source target).1 pair
      exact .exact source target notBare first (List.count_eq_zero.1 plain)
  | wildcard source target pair starred counts small =>
      obtain ⟨notBare, first⟩ := (read_eq_pair_iff pattern source target).1 pair
      exact .wildcard source target notBare first (List.count_pos_iff.1 (by omega))

theorem shape_unique {one other : Kind} (shape : Shape pattern one) (again : Shape pattern other) :
    one = other := by
  cases shape with
  | constant bare =>
      cases again with
      | constant _ => rfl
      | exact _ _ notBare _ _ => exact absurd bare notBare
      | wildcard _ _ notBare _ _ => exact absurd bare notBare
  | exact source target notBare first plain =>
      cases again with
      | constant bare => exact absurd bare notBare
      | exact _ _ _ _ _ => rfl
      | wildcard s t _ second starred =>
          obtain ⟨rfl, -⟩ := first_unique pattern source target s t first second
          exact absurd starred plain
  | wildcard source target notBare first starred =>
      cases again with
      | constant bare => exact absurd bare notBare
      | exact s t _ second plain =>
          obtain ⟨rfl, -⟩ := first_unique pattern source target s t first second
          exact absurd starred plain
      | wildcard _ _ _ _ _ => rfl

theorem compiled_shape_iff {rule : Rule} (compiled : Compiled pattern count rule) (kind : Kind) :
    Shape pattern kind ↔ rule.kind = kind := by
  constructor
  · intro shape
    exact shape_unique (compiled_shape compiled) shape
  · intro same
    subst same
    exact compiled_shape compiled

end WildcardRules.Rule
