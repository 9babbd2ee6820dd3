import WildcardRules.Proofs.Rebuilding

set_option autoImplicit false

namespace WildcardRules

-- Of results that exclude each other there is at most one, wherever it stands.
theorem find_some_perm {α β : Type} (f : α → Option β) (xs ys : List α) (reordered : xs.Perm ys)
    (apart : xs.Pairwise fun x y => f x = none ∨ f y = none) : xs.findSome? f = ys.findSome? f := by
  induction reordered with
  | nil => rfl
  | @cons x xs ys _ ih =>
      have rest := ih (List.pairwise_cons.1 apart).2
      rw [List.findSome?_cons, List.findSome?_cons, rest]
  | swap x y xs =>
      have either : f y = none ∨ f x = none := (List.pairwise_cons.1 apart).1 x (by simp)
      rcases either with skipped | skipped
      · simp [List.findSome?_cons, skipped]
      · simp [List.findSome?_cons, skipped]
  | @trans xs ys zs first second ihFirst ihSecond =>
      have symmetric : ∀ {x y : α}, (f x = none ∨ f y = none) → f y = none ∨ f x = none := Or.symm
      have between := (first.pairwise_iff symmetric).1 apart
      exact (ihFirst apart).trans (ihSecond between)

def Rule.Apart (rule other : Rule) : Prop :=
  ∀ value : Text, rule.apply value.normalizeBrackets = none ∨ other.apply value.normalizeBrackets = none

namespace Replacer

inductive Alike : Except NoMatch Text → Except NoMatch Text → Prop where
  | ok (result : Text) : Alike (.ok result) (.ok result)
  | error (value : Text) (patterns others : List Text) : patterns.Perm others →
      Alike (.error ⟨value, patterns⟩) (.error ⟨value, others⟩)

theorem replace_alike (r s : Replacer) (value : Text) (required : r.required = s.required)
    (patterns : r.patterns.Perm s.patterns) (rules : r.rules.Perm s.rules)
    (same : r.firstResult? value.normalizeBrackets = s.firstResult? value.normalizeBrackets) :
    Alike (r.replace value) (s.replace value) := by
  by_cases empty : r.rules = []
  · have otherEmpty : s.rules = [] := by
      rw [empty] at rules
      exact rules.nil_eq.symm
    rw [replace, replace, isIdentity, isIdentity, empty, otherEmpty]
    exact .ok value
  · have inhabited : s.rules ≠ [] := by
      intro otherEmpty
      rw [otherEmpty] at rules
      exact empty rules.eq_nil
    have own := replace_of_results s s value inhabited inhabited rfl rfl
    rw [replace_of_results r s value empty inhabited required same]
    cases replaced : s.replace value with
    | ok result => exact .ok result
    | error e =>
        -- The error of a replacer lists its own patterns.
        rw [replaced] at own
        rw [Except.error.inj own]
        exact .error e.value r.patterns s.patterns patterns

theorem build_reordered (rules others : List Text) (options : Options) (r : Replacer)
    (built : build (.many rules) options = .ok r) (reordered : others.Perm rules) :
    ∃ s, build (.many others) options = .ok s ∧ s.required = r.required ∧ s.patterns.Perm r.patterns ∧
      s.rules.Perm r.rules := by
  obtain ⟨present, -, required, patterns, pointwise⟩ := (build_ok_iff (.many rules) options r).1 built
  have listed : (RuleInput.many others).listed.Perm (RuleInput.many rules).listed := reordered.filter _
  obtain ⟨compiled, pointwiseOther, ruleOrder⟩ := List.perm_comp_forall₂ listed pointwise
  have otherPresent : ¬ (options.required = true ∧ (RuleInput.many others).listed = []) := by
    intro absent
    rw [absent.2] at listed
    exact present ⟨absent.1, listed.nil_eq.symm⟩
  rw [← listed.length_eq] at pointwiseOther
  refine ⟨⟨options.name, options.required, (RuleInput.many others).listed, compiled⟩, ?_, required.symm, ?_,
    ruleOrder⟩
  · exact (build_ok_iff (.many others) options _).2 ⟨otherPresent, rfl, rfl, rfl, pointwiseOther⟩
  · rwa [patterns]

theorem replace_reordered (r s : Replacer) (apart : r.rules.Pairwise Rule.Apart)
    (required : s.required = r.required) (patterns : s.patterns.Perm r.patterns) (rules : s.rules.Perm r.rules)
    (value : Text) : Alike (s.replace value) (r.replace value) := by
  have single : r.rules.Pairwise fun rule other =>
      rule.apply value.normalizeBrackets = none ∨ other.apply value.normalizeBrackets = none :=
    apart.imp fun each => each value
  have same := find_some_perm (fun rule => rule.apply value.normalizeBrackets) r.rules s.rules rules.symm single
  exact replace_alike s r value required patterns rules same.symm

def Tabulates (r : Replacer) (entries : List (Text × Text)) : Prop :=
  List.Forall₂ (fun entry rule => rule.action = .exact entry.1 entry.2) entries r.rules

section

variable (r : Replacer) (entries : List (Text × Text)) (tabulates : r.Tabulates entries)

theorem apply_of_exact (rule : Rule) (source target value : Text) (action : rule.action = .exact source target) :
    rule.apply value = if value = source then some target else none := by
  rw [Rule.apply, action]

include tabulates

theorem apart_of_distinct (distinct : (entries.map Prod.fst).Nodup) : r.rules.Pairwise Rule.Apart := by
  unfold Tabulates at tabulates
  generalize r.rules = rules at tabulates ⊢
  induction tabulates with
  | nil => exact .nil
  | @cons entry rule entries rules head tail ih =>
      obtain ⟨absent, others⟩ := List.nodup_cons.1 distinct
      refine List.pairwise_cons.2 ⟨?_, ih others⟩
      intro other member value
      obtain ⟨later, present, action⟩ := pointwise_member tail other member
      have different : entry.1 ≠ later.1 := fun same => absent (List.mem_map.2 ⟨later, present, same.symm⟩)
      rw [apply_of_exact rule _ _ _ head, apply_of_exact other _ _ _ action]
      by_cases first : value.normalizeBrackets = entry.1
      · exact .inr (if_neg fun second => different (first.symm.trans second))
      · exact .inl (if_neg first)

theorem unmatched_of_absent (value : Text) (absent : ∀ entry ∈ entries, entry.1 ≠ value) :
    ∀ rule ∈ r.rules, rule.apply value = none := by
  intro rule member
  obtain ⟨entry, present, action⟩ := pointwise_member tabulates rule member
  rw [apply_of_exact rule _ _ _ action, if_neg fun same => absent entry present same.symm]

theorem decides_of_present (distinct : (entries.map Prod.fst).Nodup) (entry : Text × Text)
    (present : entry ∈ entries) : ∃ rule, r.Decides entry.1 rule entry.2 := by
  obtain ⟨before, after, whole⟩ := List.append_of_mem present
  rw [Tabulates, whole] at tabulates
  obtain ⟨front, back, tabulatesFront, tabulatesBack, split⟩ := (pointwise_append_iff _ _ _).1 tabulates
  cases tabulatesBack with
  | @cons _ rule _ later action _ =>
      refine ⟨rule, front, later, split, ?_, ?_⟩
      · intro earlier member
        obtain ⟨other, early, otherAction⟩ := pointwise_member tabulatesFront earlier member
        rw [whole, List.map_append, List.map_cons] at distinct
        have different : other.1 ≠ entry.1 := by
          intro same
          have disjoint := List.disjoint_of_nodup_append distinct
          exact disjoint (List.mem_map_of_mem early) (by simp [same])
        rw [apply_of_exact earlier _ _ _ otherAction, if_neg (Ne.symm different)]
      · rw [apply_of_exact rule _ _ _ action, if_pos rfl]

end

theorem order_immaterial (rules : List Text) (options : Options) (r : Replacer)
    (built : build (.many rules) options = .ok r) :
    (r.rules.Pairwise Rule.Apart → ∀ others : List Text, others.Perm rules →
      ∃ s, build (.many others) options = .ok s ∧ ∀ value, Alike (s.replace value) (r.replace value)) ∧
    ∀ entries : List (Text × Text), r.Tabulates entries → (entries.map Prod.fst).Nodup →
      r.rules.Pairwise Rule.Apart ∧
      (∀ entry ∈ entries, ∀ value : Text, value.normalizeBrackets = entry.1 → r.replace value = .ok entry.2) ∧
      ∀ value : Text, r.rules ≠ [] → (∀ entry ∈ entries, entry.1 ≠ value.normalizeBrackets) →
        r.replace value = if r.required then .error ⟨value.normalizeBrackets, r.patterns⟩
          else .ok value.normalizeBrackets := by
  constructor
  · intro apart others reordered
    obtain ⟨s, accepted, required, patterns, ruleOrder⟩ := build_reordered rules others options r built reordered
    exact ⟨s, accepted, replace_reordered r s apart required patterns ruleOrder⟩
  · intro entries tabulates distinct
    refine ⟨apart_of_distinct r entries tabulates distinct, ?_, ?_⟩
    · intro entry present value same
      obtain ⟨rule, decides⟩ := decides_of_present r entries tabulates distinct entry present
      obtain ⟨other, member, action⟩ := pointwise_member (List.Forall₂.flip tabulates) entry present
      have something := ((built_invariant built).exacts other member _ _ action).2.1
      rw [← same] at decides
      exact replace_of_result r value rule entry.2 something decides
    · intro value inhabited absent
      have unmatched := unmatched_of_absent r entries tabulates value.normalizeBrackets absent
      exact replace_of_no_result r value inhabited (.inl unmatched)

theorem order_immaterial_swapped :
    (∃ r s, build (.many ["a*:x*".toList, [], "b:c".toList]) {} = .ok r ∧
      build (.many ["b:c".toList, "a*:x*".toList, []]) {} = .ok s ∧
      (∀ value, Alike (s.replace value) (r.replace value)) ∧
      Alike (s.replace "[".toList) (.error ⟨"(".toList, ["a*:x*".toList, "b:c".toList]⟩)) ∧
    ∃ r, build (.many ["a:(".toList, "(:b".toList]) {} = .ok r ∧ r.rules.Pairwise Rule.Apart ∧
      r.replace "[".toList = .ok "b".toList ∧
      r.replace "b".toList = .error ⟨"b".toList, ["a:(".toList, "(:b".toList]⟩ := by
  constructor
  · obtain ⟨star, plain, r, built, whole, skipped, action, failed⟩ : ∃ star plain r,
        build (.many ["a*:x*".toList, [], "b:c".toList]) {} = .ok r ∧ r.rules = [star, plain] ∧
        star.apply "b".toList = none ∧ plain.action = .exact "b".toList "c".toList ∧
        r.replace "[".toList = .error ⟨"(".toList, ["a*:x*".toList, "b:c".toList]⟩ :=
      ⟨⟨"a*:x*".toList, .wildcard ⟨"a".toList, [[]]⟩ ⟨"x".toList, [[]]⟩⟩,
        ⟨"b:c".toList, .exact "b".toList "c".toList⟩, ⟨none, true, ["a*:x*".toList, "b:c".toList], _⟩,
        rfl, rfl, rfl, rfl, rfl⟩
    have apart : Rule.Apart star plain := by
      intro value
      by_cases same : value.normalizeBrackets = "b".toList
      · exact .inl (same ▸ skipped)
      · exact .inr ((apply_of_exact plain _ _ _ action).trans (if_neg same))
    obtain ⟨s, accepted, alike⟩ := (order_immaterial _ {} r built).1 (by simp [whole, apart])
      ["b:c".toList, "a*:x*".toList, []] (by decide)
    exact ⟨r, s, built, accepted, alike, failed ▸ alike "[".toList⟩
  · obtain ⟨r, built, tabulates, inhabited, required, patterns⟩ : ∃ r,
        build (.many ["a:(".toList, "(:b".toList]) {} = .ok r ∧
        r.Tabulates [("a".toList, "(".toList), ("(".toList, "b".toList)] ∧ r.rules ≠ [] ∧
        r.required = true ∧ r.patterns = ["a:(".toList, "(:b".toList] :=
      ⟨⟨none, true, ["a:(".toList, "(:b".toList], [⟨"a:(".toList, .exact "a".toList "(".toList⟩,
        ⟨"(:b".toList, .exact "(".toList "b".toList⟩]⟩, rfl, .cons rfl (.cons rfl .nil), by decide, rfl, rfl⟩
    obtain ⟨apart, present, absent⟩ := (order_immaterial _ {} r built).2 _ tabulates (by decide)
    have refused := absent "b".toList inhabited (by decide)
    rw [required, patterns] at refused
    exact ⟨r, built, apart, present ("(".toList, "b".toList) (by decide) "[".toList (by decide), refused⟩

end Replacer

end WildcardRules
