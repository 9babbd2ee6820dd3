import WildcardRules.Config.Load
import WildcardRules.Proofs.Validity
import Mathlib

set_option autoImplicit false

namespace WildcardRules

theorem RuleSet.built_label (s : RuleSet) (r : Replacer) (built : s.build = .ok r) :
    r.name = some s.name ∧ r.required = s.required := by
  obtain ⟨-, nameEq, requiredEq, -, -⟩ := (Replacer.build_ok_iff s.input s.options r).1 built
  exact ⟨nameEq, requiredEq⟩

namespace Config

open RuleSet (names)

theorem find_some_iff (c : Config) (name : Text) (s : RuleSet) :
    c.find? name = some s ↔
      ∃ before after, c.sets = before ++ s :: after ∧ s.name = name ∧ name ∉ names before := by
  rw [find?, List.find?_eq_some_iff_append]
  constructor
  · intro found
    obtain ⟨same, before, after, whole, skipped⟩ := found
    refine ⟨before, after, whole, by simpa using same, ?_⟩
    intro member
    obtain ⟨t, earlier, named⟩ := List.mem_map.1 member
    simpa [named] using skipped t earlier
  · intro first
    obtain ⟨before, after, whole, rfl, absent⟩ := first
    refine ⟨by simp, before, after, whole, ?_⟩
    intro t earlier
    have different : t.name ≠ s.name := fun same => absent (List.mem_map.2 ⟨t, earlier, same⟩)
    simpa using different

theorem find_none_iff (c : Config) (name : Text) : c.find? name = none ↔ name ∉ names c.sets := by
  simp [find?, names]

theorem find_of_member (c : Config) (s : RuleSet) (distinct : (names c.sets).Nodup) (member : s ∈ c.sets) :
    c.find? s.name = some s := by
  obtain ⟨before, after, whole⟩ := List.append_of_mem member
  refine (find_some_iff c s.name s).2 ⟨before, after, whole, rfl, ?_⟩
  intro earlier
  rw [whole] at distinct
  exact RuleSet.repeat_not_nodup before after s earlier distinct

theorem index_unique (c : Config) (i j : Nat) (s t : RuleSet) (distinct : (names c.sets).Nodup)
    (first : c.sets[i]? = some s) (second : c.sets[j]? = some t) (same : t.name = s.name) : j = i := by
  have bounded : j < (names c.sets).length := by
    rw [names, List.length_map]
    exact (List.getElem?_eq_some_iff.1 second).1
  have named : (names c.sets)[j]? = (names c.sets)[i]? := by simp [names, first, second, same]
  exact (List.getElem?_inj bounded distinct).1 named

theorem build_ok_iff (c : Config) (name : Text) (r : Replacer) :
    c.build name = .ok r ↔ ∃ s, c.find? name = some s ∧ s.build = .ok r := by
  rw [build]
  cases found : c.find? name with
  | none => simp
  | some s => cases own : s.build <;> simp [own]

theorem build_error_iff (c : Config) (name : Text) (e : Error) :
    c.build name = .error e ↔ (c.find? name = none ∧ e = .unknownName name) ∨
      ∃ s cause, c.find? name = some s ∧ s.build = .error cause ∧ e = .build cause := by
  rw [build]
  cases found : c.find? name with
  | none => simp [eq_comm]
  | some s => cases own : s.build <;> simp [own, eq_comm]

theorem build_of_find (c : Config) (name : Text) (s : RuleSet) (r : Replacer)
    (found : c.find? name = some s) (built : s.build = .ok r) : c.build name = .ok r :=
  (build_ok_iff c name r).2 ⟨s, found, built⟩

theorem build_unknown (c : Config) (name : Text) (absent : name ∉ names c.sets) :
    c.build name = .error (.unknownName name) :=
  (build_error_iff c name _).2 (.inl ⟨(find_none_iff c name).2 absent, rfl⟩)

section

variable {c : Config} (valid : c.validate = .ok ())

include valid

theorem valid_build_all : ∃ replacers, c.buildAll = .ok replacers ∧
    List.Forall₂ (fun s r => s.build = .ok r ∧ r.name = some s.name ∧ r.required = s.required)
      c.sets replacers := by
  obtain ⟨-, builds⟩ := (validate_ok_iff c).1 valid
  obtain ⟨replacers, built⟩ := build_all_of_builds c builds
  refine ⟨replacers, built, ?_⟩
  apply ((build_all_ok_iff c replacers).1 built).imp
  intro s r each
  exact ⟨each, RuleSet.built_label s r each⟩

theorem valid_build (s : RuleSet) (r : Replacer) (member : s ∈ c.sets) (built : s.build = .ok r) :
    c.build s.name = .ok r := by
  obtain ⟨distinct, -⟩ := (validate_ok_iff c).1 valid
  exact build_of_find c s.name s r (find_of_member c s distinct member) built

theorem valid_build_error_iff (name : Text) (e : Error) :
    c.build name = .error e ↔ name ∉ names c.sets ∧ e = .unknownName name := by
  by_cases declared : name ∈ names c.sets
  · obtain ⟨s, member, rfl⟩ := List.mem_map.1 declared
    obtain ⟨r, built⟩ := ((validate_ok_iff c).1 valid).2 s member
    simp [valid_build valid s r member built, declared]
  · simp [build_unknown c name declared, declared, eq_comm]

end

theorem parse_ok_iff (content path : Text) (c : Config) :
    parse content path = .ok c ↔ ofText content = .ok c ∧ c.validate = .ok () := by
  rw [parse]
  cases decoded : ofText content with
  | error cause => simp
  | ok other =>
      simp only [Except.ok.injEq]
      constructor
      · intro accepted
        cases checked : other.validate with
        | error e =>
            rw [checked] at accepted
            cases accepted
        | ok u =>
            rw [checked] at accepted
            cases accepted
            exact ⟨rfl, checked⟩
      · intro both
        obtain ⟨rfl, checked⟩ := both
        rw [checked]

theorem parse_error_iff (content path : Text) (e : Error) :
    parse content path = .error e ↔
      (∃ cause, ofText content = .error cause ∧ e = .malformedConfig path cause) ∨
      ∃ c, ofText content = .ok c ∧ c.validate = .error e := by
  rw [parse]
  cases decoded : ofText content with
  | error cause => simp [eq_comm]
  | ok c => cases verdict : c.validate <;> simp [verdict]

theorem load_ok_iff (files : Files) (path : Text) (c : Config) :
    load files path = .ok c ↔
      ∃ content, readText files path = .ok content ∧ parse content path = .ok c := by
  rw [load]
  cases readText files path with
  | error failure => simp
  | ok content => simp

theorem load_error_iff (files : Files) (path : Text) (e : Error) :
    load files path = .error e ↔
      (∃ failure, readText files path = .error failure ∧ e = .unreadableConfig path failure) ∨
      ∃ content, readText files path = .ok content ∧ parse content path = .error e := by
  rw [load]
  cases readText files path with
  | error failure => simp [eq_comm]
  | ok content => simp

theorem parsed_buildable (content path : Text) (c : Config) (parsed : parse content path = .ok c) :
    ∃ replacers, c.buildAll = .ok replacers ∧
      List.Forall₂ (fun s r => s.build = .ok r ∧ r.name = some s.name ∧ r.required = s.required)
        c.sets replacers ∧
      (∀ name ∈ names c.sets, ∃ (i : Nat) (s : RuleSet) (r : Replacer), c.sets[i]? = some s ∧ s.name = name ∧
        (∀ (j : Nat) (t : RuleSet), c.sets[j]? = some t → t.name = name → j = i) ∧
        replacers[i]? = some r ∧ c.build name = .ok r) ∧
      (∀ name, name ∉ names c.sets → c.build name = .error (.unknownName name)) ∧
      ∀ name e, c.build name = .error e → name ∉ names c.sets ∧ e = .unknownName name := by
  obtain ⟨-, valid⟩ := (parse_ok_iff content path c).1 parsed
  obtain ⟨distinct, -⟩ := (validate_ok_iff c).1 valid
  obtain ⟨replacers, built, pointwise⟩ := valid_build_all valid
  refine ⟨replacers, built, pointwise, ?_, build_unknown c, fun name e => (valid_build_error_iff valid name e).1⟩
  intro name declared
  obtain ⟨s, member, rfl⟩ := List.mem_map.1 declared
  obtain ⟨i, found⟩ := List.mem_iff_getElem?.1 member
  obtain ⟨r, foundReplacer, each, -⟩ := pointwise_at pointwise i s found
  refine ⟨i, s, r, found, rfl, ?_, foundReplacer, valid_build valid s r member each⟩
  intro j t other same
  exact index_unique c i j s t distinct found other same

def twoSets : Text :=
  "[[replacers]]\nname = 'a'\nrules = 'x:y'\n[[replacers]]\nname = 'b'\nrequired = false".toList

theorem parse_two_sets (path : Text) : parse twoSets path =
    .ok ⟨[⟨"a".toList, true, some (.string "x:y".toList)⟩, ⟨"b".toList, false, none⟩]⟩ := by cbv

theorem parsed_buildable_two :
    ∃ c replacers r, parse twoSets "two.toml".toList = .ok c ∧ c.buildAll = .ok replacers ∧ r ∈ replacers ∧
      c.build "b".toList = .ok r ∧ c.build "c".toList = .error (.unknownName "c".toList) := by
  have parsed := parse_two_sets "two.toml".toList
  obtain ⟨replacers, built, -, selected, unknown, -⟩ := parsed_buildable _ _ _ parsed
  obtain ⟨i, s, r, -, -, -, found, chosen⟩ := selected "b".toList (by decide)
  exact ⟨_, replacers, r, parsed, built, List.mem_of_getElem? found, chosen, unknown "c".toList (by decide)⟩

end Config

end WildcardRules
