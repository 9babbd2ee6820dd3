import WildcardRules.Proofs.Invocations
import WildcardRules.Proofs.Values

set_option autoImplicit false

namespace WildcardRules

namespace Replacer

theorem build_of_to_list (input other : RuleInput) (options : Options) (same : input.toList = other.toList) :
    build input options = build other options := by
  apply build_of_listed
  rw [RuleInput.listed, RuleInput.listed, same]

theorem build_rename_ok (input : RuleInput) (name other : Option Text) (required : Bool) (r : Replacer)
    (built : build input ⟨name, required⟩ = .ok r) :
    build input ⟨other, required⟩ = .ok { r with name := other } := by
  obtain ⟨present, -, requiredEq, patternsEq, pointwise⟩ := (build_ok_iff input ⟨name, required⟩ r).1 built
  exact (build_ok_iff input ⟨other, required⟩ _).2 ⟨present, rfl, requiredEq, patternsEq, pointwise⟩

end Replacer

def BuildError.renamed (name : Option Text) : BuildError → BuildError
  | .emptyRuleSet _ => .emptyRuleSet name
  | error => error

theorem Rule.fault_renamed (pattern : Text) (count : Nat) (error : BuildError) (name : Option Text)
    (fault : Fault pattern count error) : error.renamed name = error := by
  cases fault with
  | bare _ _ => rfl
  | mismatch _ _ _ _ _ _ _ => rfl
  | tooLarge _ _ _ _ _ _ _ => rfl

theorem Replacer.build_rename_error (input : RuleInput) (name other : Option Text) (required : Bool)
    (error : BuildError) (refused : build input ⟨name, required⟩ = .error error) :
    build input ⟨other, required⟩ = .error (error.renamed other) := by
  rw [build_error_iff] at refused ⊢
  rcases refused with ⟨needed, unlisted, rfl⟩ | ⟨before, pattern, after, whole, faultless, fault⟩
  · exact .inl ⟨needed, unlisted, rfl⟩
  · rw [Rule.fault_renamed pattern _ error other fault]
    exact .inr ⟨before, pattern, after, whole, faultless, fault⟩

namespace Config

theorem single_validate_ok (s : RuleSet) (r : Replacer) (built : s.build = .ok r) :
    validate ⟨[s]⟩ = .ok () := by
  refine (validate_ok_iff ⟨[s]⟩).2 ⟨List.nodup_singleton s.name, ?_⟩
  intro t member
  rw [List.mem_singleton.1 member]
  exact ⟨r, built⟩

theorem single_validate_error (s : RuleSet) (cause : BuildError) (refused : s.build = .error cause) :
    validate ⟨[s]⟩ = .error (.invalidRuleSet s.name cause) :=
  (validate_error_iff ⟨[s]⟩ _).2
    (.invalid [] [] s cause (List.nodup_singleton s.name) rfl (by simp) refused)

variable (files : Files) (path content : Text) (s : RuleSet) (read : readText files path = .ok content)
  (decoded : ofText content = .ok ⟨[s]⟩)

include read decoded

theorem load_single_ok (r : Replacer) (built : s.build = .ok r) : load files path = .ok ⟨[s]⟩ :=
  (load_ok_iff files path _).2 ⟨content, read, (parse_ok_iff content path _).2
    ⟨decoded, single_validate_ok s r built⟩⟩

theorem load_single_error (cause : BuildError) (refused : s.build = .error cause) :
    load files path = .error (.invalidRuleSet s.name cause) :=
  (load_error_iff files path _).2 (.inr ⟨content, read, (parse_error_iff content path _).2
    (.inr ⟨⟨[s]⟩, decoded, single_validate_error s cause refused⟩)⟩)

end Config

inductive RuleInput.Writes (rules : List Text) : Toml.Value → Prop where
  | array : Writes rules (.array (rules.map .string))
  | string (rule : Text) : rules = [rule] → Writes rules (.string rule)

theorem RuleInput.to_list_of_writes (rules : List Text) (value : Toml.Value) (writes : Writes rules value) :
    (ofToml value).toList = rules := by
  cases writes with
  | array =>
      have texts : Toml.Value.text? ∘ Toml.Value.string = some := rfl
      rw [ofToml, toList, List.filterMap_map, texts, List.filterMap_some]
  | string rule single => exact single.symm

namespace CommandLine

theorem to_list_rule_input_of (rules : List Text) : (ruleInputOf rules).toList = rules := by
  fun_cases ruleInputOf rules with
  | case1 => rfl
  | case2 rule => rfl
  | case3 rules => rfl

def Declares (files : Config.Files) (path name : Text) (required : Bool) (rules : List Text) : Prop :=
  ∃ content value, Config.readText files path = .ok content ∧
    Config.ofText content = .ok ⟨[⟨name, required, some value⟩]⟩ ∧ RuleInput.Writes rules value

section

variable (files : Config.Files) (path name : Text) (required : Bool) (rules : List Text)

theorem set_build_eq (value : Toml.Value) (writes : RuleInput.Writes rules value) :
    RuleSet.build ⟨name, required, some value⟩ = Replacer.build (ruleInputOf rules) ⟨some name, required⟩ := by
  apply Replacer.build_of_to_list
  rw [to_list_rule_input_of]
  exact RuleInput.to_list_of_writes rules value writes

theorem replacer_of_options_ok_iff (r : Replacer) :
    replacerOf files (.options rules (!required)) = .ok r ↔
      Replacer.build (ruleInputOf rules) ⟨none, required⟩ = .ok r := by
  rw [replacerOf, Bool.not_not]
  cases Replacer.build (ruleInputOf rules) ⟨none, required⟩ with
  | ok other => simp
  | error cause => simp

variable (declares : Declares files path name required rules)

include declares

theorem replacer_of_declared_ok (r : Replacer) (made : replacerOf files (.options rules (!required)) = .ok r) :
    replacerOf files (.config path name) = .ok { r with name := some name } := by
  obtain ⟨content, value, read, decoded, writes⟩ := declares
  have unnamed := (replacer_of_options_ok_iff files required rules r).1 made
  have built : RuleSet.build ⟨name, required, some value⟩ = .ok { r with name := some name } := by
    rw [set_build_eq name required rules value writes]
    exact Replacer.build_rename_ok _ none (some name) required r unnamed
  have found : Config.find? ⟨[⟨name, required, some value⟩]⟩ name = some ⟨name, required, some value⟩ :=
    (Config.find_some_iff _ name _).2 ⟨[], [], rfl, rfl, by simp [RuleSet.names]⟩
  rw [replacerOf, Config.load_single_ok files path content _ read decoded _ built]
  simp only [Config.build_of_find _ name _ _ found built]

theorem replacer_of_declared_error (failure : Failure)
    (failed : replacerOf files (.options rules (!required)) = .error failure) :
    ∃ cause, failure = .compiling cause ∧ replacerOf files (.config path name) =
      .error (.loading path (.invalidRuleSet name (cause.renamed (some name)))) := by
  obtain ⟨content, value, read, decoded, writes⟩ := declares
  obtain ⟨cause, refused, rfl⟩ := (replacer_of_options_error_iff files rules (!required) failure).1 failed
  rw [Bool.not_not] at refused
  have built : RuleSet.build ⟨name, required, some value⟩ = .error (cause.renamed (some name)) := by
    rw [set_build_eq name required rules value writes]
    exact Replacer.build_rename_error _ none (some name) required cause refused
  refine ⟨cause, rfl, ?_⟩
  rw [replacerOf, Config.load_single_error files path content _ read decoded _ built]

end

theorem replace_all_rename (r : Replacer) (name : Option Text) (values : List (Option Text)) :
    replaceAll { r with name } values = replaceAll r values := by
  induction values with
  | nil => rfl
  | cons value values ih =>
      have same : attempt { r with name } value = attempt r value := by cases value <;> rfl
      have events : attemptEvents { r with name } value = attemptEvents r value := by cases value <;> rfl
      cases made : attempt r value with
      | ok result =>
          rw [replace_all_of_ok r value values result made,
            replace_all_of_ok _ value values result (same.trans made), ih, events]
      | error failure =>
          rw [replace_all_of_error r value values failure made,
            replace_all_of_error _ value values failure (same.trans made), events]

theorem run_of_early_error (arguments : List Text) (s : Surroundings) (source : RuleSource) (values : List Text)
    (failure : Failure) (asks : Asks arguments (.replace source values))
    (refused : replacerOf s.files source = .error failure) :
    (run arguments s).exitCode = 1 ∧ (run arguments s).output = [] :=
  run_of_fails_early arguments s source values asks
    ((fails_early_iff s.files s.input source values).2 ⟨failure, refused⟩)

theorem run_of_declared (s : Surroundings) (path name : Text) (required : Bool) (rules values : List Text)
    (declares : Declares s.files path name required rules) (given selected : List Text)
    (asksGiven : Asks given (.replace (.options rules (!required)) values))
    (asksSelected : Asks selected (.replace (.config path name) values)) :
    (run given s).exitCode = (run selected s).exitCode ∧ (run given s).output = (run selected s).output := by
  cases made : replacerOf s.files (.options rules (!required)) with
  | ok r =>
      have named := replacer_of_declared_ok s.files path name required rules declares r made
      obtain ⟨writes, exits⟩ := run_of_asks_for r s values given ⟨_, made, asksGiven⟩
      obtain ⟨writesNamed, exitsNamed⟩ := run_of_asks_for _ s values selected ⟨_, named, asksSelected⟩
      rw [replace_all_rename r (some name)] at writesNamed exitsNamed
      exact ⟨exits.trans exitsNamed.symm, writes.trans writesNamed.symm⟩
  | error failure =>
      obtain ⟨cause, -, failed⟩ :=
        replacer_of_declared_error s.files path name required rules declares failure made
      obtain ⟨exits, writes⟩ := run_of_early_error given s _ values failure asksGiven made
      obtain ⟨exitsNamed, writesNamed⟩ := run_of_early_error selected s _ values _ asksSelected failed
      exact ⟨exits.trans exitsNamed.symm, writes.trans writesNamed.symm⟩

theorem options_and_config_agree (s : Surroundings) (path name : Text) (required : Bool) (rules : List Text)
    (declares : Declares s.files path name required rules) :
    (∀ input options, input.toList = rules →
      Replacer.build input options = Replacer.build (ruleInputOf rules) options) ∧
    ((∃ r, replacerOf s.files (.options rules (!required)) = .ok r) ↔
      ∃ r, replacerOf s.files (.config path name) = .ok r) ∧
    (∀ r named, replacerOf s.files (.options rules (!required)) = .ok r →
      replacerOf s.files (.config path name) = .ok named →
      named.patterns = r.patterns ∧ named.rules = r.rules ∧ ∀ value, named.replace value = r.replace value) ∧
    (∀ failure, replacerOf s.files (.options rules (!required)) = .error failure →
      ∃ cause, failure = .compiling cause ∧ replacerOf s.files (.config path name) =
        .error (.loading path (.invalidRuleSet name (cause.renamed (some name))))) ∧
    (∀ values given selected, Asks given (.replace (.options rules (!required)) values) →
      Asks selected (.replace (.config path name) values) →
      (run given s).exitCode = (run selected s).exitCode ∧ (run given s).output = (run selected s).output) ∧
    ∀ values, Asks (optionArguments rules (!required) ++ endOfOptions :: values)
        (.replace (.options rules (!required)) values) ∧
      (path ≠ [] → Asks (selectionArguments path name ++ endOfOptions :: values)
        (.replace (.config path name) values)) := by
  have accepted := replacer_of_declared_ok s.files path name required rules declares
  have refused := replacer_of_declared_error s.files path name required rules declares
  refine ⟨?_, ⟨?_, ?_⟩, ?_, refused, ?_, ?_⟩
  · intro input options same
    exact Replacer.build_of_to_list input _ options (same.trans (to_list_rule_input_of rules).symm)
  · intro made
    obtain ⟨r, made⟩ := made
    exact ⟨_, accepted r made⟩
  · intro made
    obtain ⟨named, made⟩ := made
    cases unnamed : replacerOf s.files (.options rules (!required)) with
    | ok r => exact ⟨r, rfl⟩
    | error failure =>
        obtain ⟨cause, -, failed⟩ := refused failure unnamed
        cases made.symm.trans failed
  · intro r named made madeNamed
    cases madeNamed.symm.trans (accepted r made)
    exact ⟨rfl, rfl, fun value => rfl⟩
  · intro values given selected
    exact run_of_declared s path name required rules values declares given selected
  · intro values
    exact ⟨asks_options rules (!required) values, asks_selection path name values⟩

def oneSet : Text := "[[replacers]]\nname = 'n'\nrequired = false\nrules = ['', 'f*:g*', 'a:b']".toList

def emptySet : Text := "[[replacers]]\nname = 'n'\nrules = []".toList

theorem read_one_set : Config.ofText oneSet = .ok ⟨[⟨"n".toList, false,
    some (.array (["".toList, "f*:g*".toList, "a:b".toList].map .string))⟩]⟩ := by cbv

theorem read_empty_set : Config.ofText emptySet = .ok ⟨[⟨"n".toList, true, some (.array [])⟩]⟩ := by cbv

theorem options_and_config_agree_one :
    (let s : Surroundings := { files := fun _ => .ok (Text.toBytes oneSet) }
      let rules := ["".toList, "f*:g*".toList, "a:b".toList]
      (∃ r named, replacerOf s.files (.options rules true) = .ok r ∧
        replacerOf s.files (.config "one".toList "n".toList) = .ok named ∧ named.rules = r.rules ∧
        named.patterns = ["f*:g*".toList, "a:b".toList]) ∧
      (run (optionArguments rules true ++ endOfOptions :: ["f[x".toList, "-r".toList]) s).output =
        (run (selectionArguments "one".toList "n".toList ++ endOfOptions :: ["f[x".toList, "-r".toList]) s).output) ∧
    let s : Surroundings := { files := fun _ => .ok (Text.toBytes emptySet) }
    replacerOf s.files (.options [] false) = .error (.compiling (.emptyRuleSet none)) ∧
      replacerOf s.files (.config "none".toList "n".toList) =
        .error (.loading "none".toList (.invalidRuleSet "n".toList (.emptyRuleSet (some "n".toList)))) := by
  constructor
  · intro s rules
    obtain ⟨-, builds, same, -, runs, asks⟩ :=
      options_and_config_agree s "one".toList "n".toList false rules
        ⟨_, _, Config.read_of_text _ _ oneSet rfl, read_one_set, .array⟩
    obtain ⟨r, made, listed⟩ : ∃ r, replacerOf s.files (.options rules true) = .ok r ∧
        r.patterns = ["f*:g*".toList, "a:b".toList] :=
      ⟨⟨none, false, ["f*:g*".toList, "a:b".toList],
        [⟨"f*:g*".toList, .wildcard ⟨"f".toList, [[]]⟩ ⟨"g".toList, [[]]⟩⟩,
          ⟨"a:b".toList, .exact "a".toList "b".toList⟩]⟩, rfl, rfl⟩
    obtain ⟨named, madeNamed⟩ := builds.1 ⟨r, made⟩
    obtain ⟨patterns, ruleList, -⟩ := same r named made madeNamed
    obtain ⟨given, selected⟩ := asks ["f[x".toList, "-r".toList]
    exact ⟨⟨r, named, made, madeNamed, ruleList, patterns.trans listed⟩,
      (runs _ _ _ given (selected (by decide))).2⟩
  · intro s
    obtain ⟨-, -, -, fails, -⟩ :=
      options_and_config_agree s "none".toList "n".toList true []
        ⟨_, _, Config.read_of_text _ _ emptySet rfl, read_empty_set, .array⟩
    have refused : replacerOf s.files (.options [] false) = .error (.compiling (.emptyRuleSet none)) := rfl
    obtain ⟨cause, same, refusedNamed⟩ := fails _ refused
    cases same
    exact ⟨refused, refusedNamed⟩

end CommandLine

end WildcardRules
