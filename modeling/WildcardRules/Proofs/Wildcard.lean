import WildcardRules.Proofs.Compilation

set_option autoImplicit false

namespace WildcardRules.Rule

open Pattern

theorem wildcard_action (pattern : Text) (count : Nat) (rule : Rule)
    (compiled : compile pattern count = .ok rule) (wildcard : rule.kind = .wildcard) :
    ∃ source target, read pattern = .pair source target ∧ source.count '*' ≠ 0 ∧
      (target.count '*' = 0 ∨ target.count '*' = source.count '*') ∧
      rule.action = .wildcard ((Template.ofText source).mapLiterals readLiteral)
        (Template.ofText target) := by
  cases (compile_ok_iff pattern count rule).1 compiled with
  | constant value bare single => simp [kind] at wildcard
  | exact source target pair plain => simp [kind] at wildcard
  | wildcard source target pair starred counts small =>
      exact ⟨source, target, pair, starred, counts, rfl⟩

theorem apply_eq_some_iff_of_wildcard (rule : Rule) (source target : Template) (value result : Text)
    (action : rule.action = .wildcard source target) :
    rule.apply value = some result ↔
      ∃ captures, source.Shortest value captures ∧ target.fill captures = result := by
  rw [apply, action]
  simp only [Option.map_eq_some_iff, Template.captures_eq_some_iff]

theorem apply_of_captures (rule : Rule) (source target : Template) (value : Text) (captures : List Text)
    (action : rule.action = .wildcard source target) (captured : source.captures? value = some captures) :
    rule.apply value = some (target.fill captures) := by
  rw [apply, action]
  simp only [captured, Option.map_some]

theorem apply_is_some_iff_of_wildcard (rule : Rule) (source target : Template) (value : Text)
    (action : rule.action = .wildcard source target) :
    (rule.apply value).isSome ↔ ∃ captures, source.Fits value captures := by
  rw [apply, action]
  simp only [Option.isSome_map, Template.captures_is_some_iff]

-- The layouts are told by the texts they spell and by literals without stars. A rule whose target has
-- stars has a capture for every one of them.
theorem wildcard_meaning (pattern : Text) (count : Nat) (rule : Rule)
    (compiled : compile pattern count = .ok rule) (wildcard : rule.kind = .wildcard) :
    ∃ source target : Template,
      split? pattern = some (source.toText, target.toText) ∧
      (∀ literal ∈ source.literals, '*' ∉ literal) ∧ (∀ literal ∈ target.literals, '*' ∉ literal) ∧
      1 ≤ source.stars ∧ (target.stars = 0 ∨ target.stars = source.stars) ∧
      ∀ value,
        ((rule.apply value).isSome ↔
          ∃ captures, (source.mapLiterals readLiteral).Fits value captures) ∧
        ∀ result, rule.apply value = some result →
          ∃ captures, (source.mapLiterals readLiteral).Shortest value captures ∧
            (target.stars = 0 → result = target.toText) ∧
            (target.stars ≠ 0 → captures.length = target.stars ∧
              result = target.head ++ (List.zipWith (· ++ ·) captures target.tail).flatten) := by
  obtain ⟨source, target, pair, starred, counts, action⟩ :=
    wildcard_action pattern count rule compiled wildcard
  refine ⟨Template.ofText source, Template.ofText target, ?_, Template.literals_of_text_plain source,
    Template.literals_of_text_plain target, ?_, ?_, ?_⟩
  · rw [Template.to_text_of_text, Template.to_text_of_text]
    exact (split_of_pair pattern source target pair).1
  · rw [Template.stars_of_text]
    omega
  · rwa [Template.stars_of_text, Template.stars_of_text]
  · intro value
    refine ⟨apply_is_some_iff_of_wildcard rule _ _ value action, ?_⟩
    intro result applied
    obtain ⟨captures, shortest, filled⟩ :=
      (apply_eq_some_iff_of_wildcard rule _ _ value result action).1 applied
    refine ⟨captures, shortest, ?_, ?_⟩
    · intro plain
      rw [Template.to_text_of_text, ← filled]
      exact Template.fill_of_text_plain captures target plain
    · intro wanted
      have captured : captures.length = (Template.ofText target).stars := by
        rw [shortest.fits.count, Template.stars_map_literals]
        rw [Template.stars_of_text] at wanted ⊢
        rw [Template.stars_of_text]
        omega
      exact ⟨captured, by rw [← filled, Template.fill_eq_flatten _ captures captured]⟩

theorem wildcard_meaning_bracket :
    ∃ rule, compile "ns\\:*[*:<*|*>".toList 1 = .ok rule ∧ rule.kind = .wildcard ∧
      ∃ source target : Template, split? "ns\\:*[*:<*|*>".toList = some (source.toText, target.toText) ∧
        ∃ captures, (source.mapLiterals readLiteral).Shortest "ns:x(y(z".toList captures ∧
          "<x|y(z>".toList = target.head ++ (List.zipWith (· ++ ·) captures target.tail).flatten := by
  obtain ⟨rule, compiled, wildcard, applied⟩ : ∃ rule, compile "ns\\:*[*:<*|*>".toList 1 = .ok rule ∧
      rule.kind = .wildcard ∧ rule.apply "ns:x(y(z".toList = some "<x|y(z>".toList :=
    ⟨⟨"ns\\:*[*:<*|*>".toList, .wildcard ⟨"ns:".toList, ["(".toList, []]⟩
      ⟨"<".toList, ["|".toList, ">".toList]⟩⟩, rfl, rfl, rfl⟩
  obtain ⟨source, target, separated, -, -, -, -, means⟩ := wildcard_meaning _ 1 rule compiled wildcard
  obtain ⟨captures, shortest, plain, filled⟩ := (means _).2 _ applied
  refine ⟨rule, compiled, wildcard, source, target, separated, captures, shortest, (filled ?_).2⟩
  intro starless
  have halves : split? "ns\\:*[*:<*|*>".toList = some ("ns\\:*[*".toList, "<*|*>".toList) := by decide
  have wanted : target.toText = "<*|*>".toList :=
    (Prod.mk.inj (Option.some.inj (separated.symm.trans halves))).2
  have same := (plain starless).trans wanted
  revert same
  decide

def Vanishes (rule : Rule) (value : Text) : Prop :=
  rule.kind = .wildcard ∧ ∃ source target, split? rule.pattern = some (source, target) ∧
    (∀ c ∈ target, c = '*') ∧
    value = ((Template.ofText source).literals.map readLiteral).flatten

theorem unescape_nonempty (t : Text) (nonempty : t ≠ []) : Text.unescape t ≠ [] := by
  intro empty
  unfold Text.unescape at empty
  split at empty
  · simp at empty
  · simp at empty
  · exact nonempty rfl

theorem starred_of_all_stars (target : Text) (nonempty : target ≠ []) (allStars : ∀ c ∈ target, c = '*') :
    target.count '*' ≠ 0 := by
  cases target with
  | nil => exact absurd rfl nonempty
  | cons c target => simp [allStars c (by simp)]

-- With as many captures as stars, a text is empty only if all of its literals and captures are.
theorem wildcard_empty_iff (source : Template) (target : Text) (value : Text) (nonempty : target ≠ [])
    (counts : target.count '*' = 0 ∨ target.count '*' = source.stars) :
    (∃ captures, source.Shortest value captures ∧ (Template.ofText target).fill captures = []) ↔
      (∀ c ∈ target, c = '*') ∧ value = source.literals.flatten := by
  constructor
  · intro filled
    obtain ⟨captures, shortest, empty⟩ := filled
    by_cases plain : target.count '*' = 0
    · rw [Template.fill_of_text_plain captures target (by rwa [Template.stars_of_text])] at empty
      exact absurd empty nonempty
    · have count : captures.length = (Template.ofText target).stars := by
        rw [shortest.fits.count, Template.stars_of_text]
        omega
      obtain ⟨literalsEmpty, capturesEmpty⟩ := (Template.fill_eq_nil_iff _ captures count).1 empty
      refine ⟨(Template.literals_of_text_empty_iff target).1 literalsEmpty, ?_⟩
      have none : captures = List.replicate source.stars [] :=
        List.eq_replicate_iff.2 ⟨shortest.fits.count, capturesEmpty⟩
      rw [shortest.fits.filled, none, Template.fill_replicate_nil]
  · intro both
    obtain ⟨allStars, rfl⟩ := both
    refine ⟨List.replicate source.stars [], Template.literals_shortest source, ?_⟩
    have starred := starred_of_all_stars target nonempty allStars
    have count : (List.replicate source.stars ([] : Text)).length = (Template.ofText target).stars := by
      rw [List.length_replicate, Template.stars_of_text]
      omega
    refine (Template.fill_eq_nil_iff _ _ count).2 ⟨?_, fun c member => List.eq_of_mem_replicate member⟩
    exact (Template.literals_of_text_empty_iff target).2 allStars

theorem apply_eq_nil_iff (pattern : Text) (count : Nat) (rule : Rule) (value : Text)
    (nonempty : pattern ≠ []) (compiled : Compiled pattern count rule) :
    rule.apply value = some [] ↔ rule.Vanishes value := by
  cases compiled with
  | constant bareValue bare single =>
      have something := unescape_nonempty bareValue (bare_value_nonempty pattern bareValue nonempty bare)
      simp [apply, Vanishes, kind, something]
  | exact source target pair plain =>
      have something := (split_of_pair pattern source target pair).2
      simp [apply, Vanishes, kind, something]
  | wildcard source target pair starred counts small =>
      obtain ⟨halves, something⟩ := split_of_pair pattern source target pair
      rw [apply_eq_some_iff_of_wildcard _ _ _ value [] rfl,
        wildcard_empty_iff _ target value something
          (by rwa [Template.stars_map_literals, Template.stars_of_text])]
      constructor
      · intro both
        obtain ⟨allStars, valueEq⟩ := both
        exact ⟨rfl, source, target, halves, allStars, valueEq⟩
      · intro vanishes
        obtain ⟨-, s, t, otherHalves, allStars, valueEq⟩ := vanishes
        cases halves.symm.trans otherHalves
        exact ⟨allStars, valueEq⟩

end WildcardRules.Rule
