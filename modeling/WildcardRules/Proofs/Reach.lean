import WildcardRules.Proofs.DeadRules
import WildcardRules.Proofs.Escaping
import WildcardRules.Proofs.Inverses

set_option autoImplicit false

namespace WildcardRules

namespace Rule

open Pattern

theorem exact_action {pattern : Text} {count : Nat} {rule : Rule} (compiled : Compiled pattern count rule)
    (exact : rule.kind = .exact) :
    ∃ source target, rule.action = .exact source target ∧ IsSource source ∧ '*' ∉ source := by
  cases compiled with
  | constant value bare single => cases exact
  | exact source target pair plain =>
      have halves := (split_of_pair pattern source target pair).1
      exact ⟨source, target, rfl, split_is_source pattern source target halves, List.count_eq_zero.1 plain⟩
  | wildcard source target pair starred counts small => cases exact

variable (source target : Text) (count : Nat)

theorem compiled_exact (isSource : IsSource source) (plain : '*' ∉ source) (something : target ≠ []) :
    Compiled (joined source target) count ⟨joined source target, .exact source target⟩ :=
  .exact source target (read_joined source target isSource something) (List.count_eq_zero.2 plain)

def colonSource (s : Text) : Text := Text.escape (s ++ [':']) ++ ['*']

theorem compiled_colon_source (s : Text) (plain : '*' ∉ s) (something : target ≠ [])
    (counts : target.count '*' ≤ 1) (small : WithinLimit (colonSource s)) :
    Compiled (joined (colonSource s) target) count ⟨joined (colonSource s) target,
      .wildcard (Template.around (s.normalizeBrackets ++ [':']) []) (Template.ofText target)⟩ := by
  have starless : ∀ literal ∈ [s ++ [':'], []], '*' ∉ literal := by simp [plain]
  have unguarding : ∀ last, [s ++ [':'], []].getLast? = some last → last.getLast? ≠ some '\\' := by simp
  have stars := Template.stars_around (s ++ [':']) []
  have spelled : ((Template.around (s ++ [':']) []).mapLiterals Text.escape).toText = colonSource s :=
    Template.to_text_around _ _
  have compiled := compile_escaped (Template.around (s ++ [':']) []) target count starless unguarding something
    (by omega) (by rwa [spelled]) (by omega)
  have read : (Template.around (s ++ [':']) []).mapLiterals Text.normalizeBrackets =
      Template.around (s.normalizeBrackets ++ [':']) [] := by
    simp [Template.around, Template.mapLiterals, Text.roundBracket]
  rw [spelled, read] at compiled
  exact (compile_ok_iff _ count _).1 compiled

end Rule

namespace Replacer

open Pattern (IsSource Separates joined)

theorem exact_applies_to_source {r : Replacer} {input : RuleInput} {options : Options}
    (built : build input options = .ok r) (rule : Rule) (member : rule ∈ r.rules) (exact : rule.kind = .exact)
    (value : Text) (applies : (rule.apply value).isSome) : IsSource value ∧ '*' ∉ value := by
  obtain ⟨pattern, -, compiled⟩ := built_rule built rule member
  obtain ⟨source, target, action, isSource, plain⟩ := Rule.exact_action compiled exact
  have same := (Rule.apply_is_some_iff_of_exact value action).1 applies
  rw [same]
  exact ⟨isSource, plain⟩

theorem exact_rule_reaches (v target : Text) (options : Options) (isSource : IsSource v.normalizeBrackets)
    (plain : '*' ∉ v.normalizeBrackets) (something : target ≠ []) :
    ∃ r rule, build (.single (joined v.normalizeBrackets target)) options = .ok r ∧ rule.kind = .exact ∧
      r.Decides v.normalizeBrackets rule target ∧ r.replace v = .ok target := by
  let rule : Rule := ⟨joined v.normalizeBrackets target, .exact v.normalizeBrackets target⟩
  have compiled := Rule.compiled_exact v.normalizeBrackets target 1 isSource plain something
  obtain ⟨r, built, alone⟩ := build_alone (.single _) options _ rule rfl (by simp [joined]) compiled
  have decides := decides_alone r v.normalizeBrackets rule target alone (if_pos rfl)
  exact ⟨r, rule, built, rfl, decides, replace_of_result r v rule target something decides⟩

theorem colon_source_reaches (v s t target : Text) (options : Options) (whole : v.normalizeBrackets = joined s t)
    (plain : '*' ∉ s) (inline : t.OneLine) (something : target ≠ []) (counts : target.count '*' ≤ 1)
    (small : Rule.WithinLimit (Rule.colonSource s)) :
    ∃ r rule, build (.single (joined (Rule.colonSource s) target)) options = .ok r ∧ rule.kind = .wildcard ∧
      ∃ result, r.Decides v.normalizeBrackets rule result := by
  let source := Template.around (s.normalizeBrackets ++ [':']) []
  let rule : Rule := ⟨joined (Rule.colonSource s) target, .wildcard source (Template.ofText target)⟩
  have compiled := Rule.compiled_colon_source target 1 s plain something counts small
  obtain ⟨r, built, alone⟩ := build_alone (.single _) options _ rule rfl (by simp [joined]) compiled
  have round : s.normalizeBrackets = s := by
    have again := Text.normalize_brackets_normalize_brackets v
    rw [whole, joined, Text.normalize_brackets_append] at again
    exact (List.append_inj again (by simp [Text.normalizeBrackets])).1
  have captured : source.captures? v.normalizeBrackets = some [t] :=
    (Template.captures_around _ _ _ _).2 ⟨t, rfl, inline, by simp [whole, round, joined]⟩
  have applied := Rule.apply_of_captures rule source _ v.normalizeBrackets [t] rfl captured
  exact ⟨r, rule, built, rfl, _, decides_alone r _ rule _ alone applied⟩

theorem exact_reach (v : Text) :
    let value := v.normalizeBrackets
    ((∃ input options r, build input options = .ok r ∧
      ∃ rule ∈ r.rules, rule.kind = .exact ∧ (rule.apply value).isSome) ↔ IsSource value ∧ '*' ∉ value) ∧
    (IsSource value → '*' ∉ value → ∀ target options, target ≠ [] →
      ∃ r rule, build (.single (joined value target)) options = .ok r ∧ rule.kind = .exact ∧
        r.Decides value rule target ∧ r.replace v = .ok target) ∧
    ∀ s t, Separates value s t →
      (∀ input options r, build input options = .ok r → ∀ rule ∈ r.rules, rule.kind = .exact →
        rule.apply value = none) ∧
      ('*' ∉ s → t.OneLine → ∀ target options, target ≠ [] → target.count '*' ≤ 1 →
        Rule.WithinLimit (Rule.colonSource s) →
        ∃ r rule, build (.single (joined (Rule.colonSource s) target)) options = .ok r ∧
          rule.kind = .wildcard ∧ ∃ result, r.Decides value rule result) := by
  intro value
  refine ⟨⟨?_, ?_⟩, ?_, ?_⟩
  · intro reached
    obtain ⟨input, options, r, built, rule, member, exact, applies⟩ := reached
    exact exact_applies_to_source built rule member exact value applies
  · intro both
    obtain ⟨r, rule, built, exact, decides, -⟩ := exact_rule_reaches v ['x'] {} both.1 both.2 (by simp)
    have member := decides_member r value rule _ decides
    obtain ⟨before, after, -, -, applied⟩ := decides
    exact ⟨_, {}, r, built, rule, member, exact, by rw [applied]; rfl⟩
  · intro isSource plain target options
    exact exact_rule_reaches v target options isSource plain
  · intro s t separates
    constructor
    · intro input options r built rule member exact
      cases applied : rule.apply value with
      | none => rfl
      | some result =>
          obtain ⟨isSource, -⟩ := exact_applies_to_source built rule member exact value (by rw [applied]; rfl)
          rcases isSource.guarded s t separates.whole with leads | guard
          · exact absurd leads separates.nonempty
          · exact absurd guard separates.unguarded
    · intro plain inline target options
      exact colon_source_reaches v s t target options separates.whole plain inline

theorem exact_reach_guarded :
    (∃ r rule, build (.single ":a\\:(:x".toList) {} = .ok r ∧ rule.kind = .exact ∧
      r.Decides ":a\\:(".toList rule "x".toList ∧ r.replace ":a\\:[".toList = .ok "x".toList) ∧
    (∀ input options r, build input options = .ok r → ∀ rule ∈ r.rules, rule.kind = .exact →
      rule.apply "ns:a".toList = none) ∧
    ∃ r rule, build (.single "ns\\:*:y*".toList) {} = .ok r ∧ rule.kind = .wildcard ∧
      ∃ result, r.Decides "ns:a".toList rule result := by
  have isSource : IsSource ":a\\:(".toList :=
    Pattern.split_is_source ":a\\:(:x".toList ":a\\:(".toList "x".toList (by decide)
  have separates : Separates "ns:a".toList "ns".toList "a".toList := ⟨rfl, by decide, by decide⟩
  obtain ⟨-, reached, -⟩ := exact_reach ":a\\:[".toList
  obtain ⟨-, -, beyond⟩ := exact_reach "ns:a".toList
  obtain ⟨unreached, starred⟩ := beyond "ns".toList "a".toList separates
  exact ⟨reached isSource (by decide) "x".toList {} (by decide), unreached,
    starred (by decide) (by decide) "y*".toList {} (by decide) (by decide) (by decide)⟩

end Replacer

end WildcardRules
