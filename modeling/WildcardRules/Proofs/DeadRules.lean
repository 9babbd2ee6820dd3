import WildcardRules.Proofs.BracketStyle
import WildcardRules.Proofs.Reordering

set_option autoImplicit false

namespace WildcardRules

namespace Rule

open Pattern

variable {count : Nat} {rule other : Rule} {s t target otherTarget : Text}

theorem apply_is_some_iff_of_exact (value : Text) (action : rule.action = .exact s target) :
    (rule.apply value).isSome ↔ value = s := by
  rw [Replacer.apply_of_exact rule s target value action]
  by_cases same : value = s
  · simp [same]
  · simp [same]

end Rule

namespace Replacer

open Pattern (split?)

section

variable {r : Replacer} {input : RuleInput} {options : Options} (built : build input options = .ok r)

include built

end

end Replacer

end WildcardRules
