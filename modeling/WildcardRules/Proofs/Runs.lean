import WildcardRules.CommandLine.Run
import WildcardRules.Proofs.Selection

set_option autoImplicit false

namespace WildcardRules

theorem Config.read_of_text (files : Config.Files) (path content : Text)
    (stored : files path = .ok content.toBytes) : Config.readText files path = .ok content := by
  simp only [Config.readText, stored, Text.of_bytes_to_bytes]

theorem Config.load_of_text (files : Config.Files) (path content : Text) (c : Config)
    (stored : files path = .ok content.toBytes) (parsed : Config.parse content path = .ok c) :
    Config.load files path = .ok c :=
  (Config.load_ok_iff files path c).2 ⟨content, Config.read_of_text files path content stored, parsed⟩

theorem Config.load_valid (files : Config.Files) (path : Text) (c : Config)
    (loaded : Config.load files path = .ok c) : c.validate = .ok () := by
  obtain ⟨content, -, parsed⟩ := (Config.load_ok_iff files path c).1 loaded
  exact ((Config.parse_ok_iff content path c).1 parsed).2

namespace CommandLine

open RuleSet (names)

def Asks (arguments : List Text) (command : Command) : Prop :=
  ∃ verbosity, parse arguments = .ok ⟨command, verbosity⟩

theorem run_of_asks (arguments : List Text) (s : Surroundings) (command : Command)
    (asks : Asks arguments command) :
    (run arguments s).exitCode = (if (execute s command).failure.isSome then 1 else 0) ∧
      (run arguments s).output = (execute s command).output := by
  obtain ⟨verbosity, parsed⟩ := asks
  rw [run, parsed]
  exact ⟨rfl, rfl⟩

theorem run_of_failure (arguments : List Text) (s : Surroundings) (command : Command)
    (asks : Asks arguments command) (failure : Failure)
    (failed : (execute s command).failure = some failure) : (run arguments s).exitCode = 1 := by
  rw [(run_of_asks arguments s command asks).1, failed]
  rfl

theorem run_of_success (arguments : List Text) (s : Surroundings) (command : Command)
    (asks : Asks arguments command) (passed : (execute s command).failure = none) :
    (run arguments s).exitCode = 0 := by
  rw [(run_of_asks arguments s command asks).1, passed]
  rfl

section

theorem parse_config (rest : List Text) : parse ("config".toList :: rest) = configAfter {} rest := by
  have read : Word.read "config".toList = .plain := by decide
  simp only [parse, readFrom, read, if_true]

variable (outer verbosity : Nat) (rest : List Text)

theorem config_command_show : configCommand outer verbosity ("show".toList :: rest) =
    (fileOf .configShow 0 none rest).map fun found =>
      ⟨.showConfig found.1, innermost found.2 (innermost verbosity outer)⟩ := by
  have read : optionOf? .config "show".toList = none := by decide
  simp only [configCommand, read, if_true]

theorem config_command_validate : configCommand outer verbosity ("validate".toList :: rest) =
    (fileOf .configValidate 0 none rest).map fun found =>
      ⟨.validateConfig found.1, innermost found.2 (innermost verbosity outer)⟩ := by
  have read : optionOf? .config "validate".toList = none := by decide
  have other : "validate".toList ≠ "show".toList := by decide
  simp only [configCommand, read, if_true, if_neg other]

theorem option_of_plain (topic : Topic) (file : Text) (plain : file.head? ≠ some '-') :
    optionOf? topic file = none := by
  fun_cases optionOf? topic file with
  | case1 => rfl
  | case2 => rfl
  | case3 name => exact False.elim (plain rfl)
  | case4 letters => exact False.elim (plain rfl)
  | case5 => rfl

variable (file : Text) (named : file ≠ []) (plain : file.head? ≠ some '-')

include named plain

theorem file_of_plain (topic : Topic) : fileOf topic 0 none [file] = .ok (file, 0) := by
  have hyphens : file ≠ ['-', '-'] := by
    rintro rfl
    exact plain rfl
  simp [fileOf, option_of_plain topic file plain, named, hyphens]

theorem asks_show : Asks ["config".toList, "show".toList, file] (.showConfig file) := by
  refine ⟨0, ?_⟩
  rw [parse_config, configAfter, config_command_show, file_of_plain file named plain]
  rfl

theorem asks_validate : Asks ["config".toList, "validate".toList, file] (.validateConfig file) := by
  refine ⟨0, ?_⟩
  rw [parse_config, configAfter, config_command_validate, file_of_plain file named plain]
  rfl

end

def Failure.isAtValue : Failure → Bool
  | .replacing _ => true
  | .reading _ => true
  | _ => false

def Transcript.FailsEarly (t : Transcript) : Prop :=
  ∃ failure, t.failure = some failure ∧ failure.isAtValue = false

theorem replace_all_failure (r : Replacer) (values : List (Option Text)) (failure : Failure)
    (failed : (replaceAll r values).failure = some failure) : failure.isAtValue = true := by
  induction values with
  | nil => cases failed
  | cons value values ih =>
      cases value with
      | none =>
          cases failed
          rfl
      | some value =>
          rw [replaceAll] at failed
          cases replaced : r.replace value with
          | error cause =>
              rw [replaced] at failed
              cases failed
              rfl
          | ok result =>
              rw [replaced] at failed
              exact ih failed

theorem replacer_of_config_error_iff (files : Config.Files) (path name : Text) (failure : Failure) :
    replacerOf files (.config path name) = .error failure ↔
      (∃ cause, Config.load files path = .error cause ∧ failure = .loading path cause) ∨
      ∃ c, Config.load files path = .ok c ∧ name ∉ names c.sets ∧
        failure = .building name (.unknownName name) := by
  rw [replacerOf]
  cases loaded : Config.load files path with
  | error cause => simp [eq_comm]
  | ok c =>
      have valid := Config.load_valid files path c loaded
      cases built : c.build name with
      | error cause =>
          obtain ⟨undeclared, rfl⟩ := (Config.valid_build_error_iff valid name cause).1 built
          simp [built, undeclared, eq_comm]
      | ok r =>
          have declared : name ∈ names c.sets := by
            by_contra undeclared
            cases built.symm.trans (Config.build_unknown c name undeclared)
          simp [built, declared]

theorem replacer_of_options_error_iff (files : Config.Files) (rules : List Text) (optional : Bool)
    (failure : Failure) :
    replacerOf files (.options rules optional) = .error failure ↔
      ∃ cause, Replacer.build (ruleInputOf rules) ⟨none, !optional⟩ = .error cause ∧
        failure = .compiling cause := by
  rw [replacerOf]
  cases Replacer.build (ruleInputOf rules) ⟨none, !optional⟩ with
  | ok r => simp
  | error cause => simp [eq_comm]

theorem replacer_of_failure (files : Config.Files) (source : RuleSource) (failure : Failure)
    (refused : replacerOf files source = .error failure) :
    failure.isAtValue = false ∧ ∀ name cause, failure = .building name cause → cause = .unknownName name := by
  cases source with
  | options rules optional =>
      obtain ⟨cause, -, rfl⟩ := (replacer_of_options_error_iff files rules optional failure).1 refused
      exact ⟨rfl, fun _ _ other => by cases other⟩
  | config path name =>
      rcases (replacer_of_config_error_iff files path name failure).1 refused with
        ⟨cause, -, rfl⟩ | ⟨c, -, -, rfl⟩
      · exact ⟨rfl, fun _ _ other => by cases other⟩
      · exact ⟨rfl, fun _ _ same => by cases same; rfl⟩

theorem replace_values_of_error (files : Config.Files) (input : Bytes) (source : RuleSource)
    (values : List Text) (failure : Failure) (refused : replacerOf files source = .error failure) :
    (replaceValues files input source values).failure = some failure ∧
      (replaceValues files input source values).output = [] := by
  rw [replaceValues, refused]
  exact ⟨rfl, rfl⟩

theorem replace_values_of_ok (files : Config.Files) (input : Bytes) (source : RuleSource)
    (values : List Text) (r : Replacer) (made : replacerOf files source = .ok r) :
    (replaceValues files input source values).failure = (replaceAll r (valuesOf values input)).failure ∧
      (replaceValues files input source values).output = (replaceAll r (valuesOf values input)).output := by
  rw [replaceValues, made]
  exact ⟨rfl, rfl⟩

theorem fails_early_iff (files : Config.Files) (input : Bytes) (source : RuleSource) (values : List Text) :
    (replaceValues files input source values).FailsEarly ↔
      ∃ failure, replacerOf files source = .error failure := by
  cases made : replacerOf files source with
  | error failure =>
      have failed := (replace_values_of_error files input source values failure made).1
      simp [Transcript.FailsEarly, failed, (replacer_of_failure files source failure made).1]
  | ok r =>
      have passed := (replace_values_of_ok files input source values r made).1
      simp only [Transcript.FailsEarly, passed, reduceCtorEq, exists_false, iff_false]
      intro early
      obtain ⟨failure, failed, before⟩ := early
      have atValue := replace_all_failure r _ failure failed
      rw [before] at atValue
      cases atValue

theorem run_of_fails_early (arguments : List Text) (s : Surroundings) (source : RuleSource)
    (values : List Text) (asks : Asks arguments (.replace source values))
    (early : (execute s (.replace source values)).FailsEarly) :
    (run arguments s).exitCode = 1 ∧ (run arguments s).output = [] := by
  obtain ⟨failure, refused⟩ := (fails_early_iff s.files s.input source values).1 early
  obtain ⟨failed, silent⟩ := replace_values_of_error s.files s.input source values failure refused
  have exit := run_of_failure arguments s _ asks failure failed
  have written := (run_of_asks arguments s _ asks).2
  exact ⟨exit, written.trans silent⟩

theorem building_unknown (files : Config.Files) (input : Bytes) (source : RuleSource) (values : List Text)
    (name : Text) (cause : Error)
    (failed : (replaceValues files input source values).failure = some (.building name cause)) :
    cause = .unknownName name := by
  cases made : replacerOf files source with
  | ok r =>
      rw [(replace_values_of_ok files input source values r made).1] at failed
      cases replace_all_failure r _ _ failed
  | error failure =>
      rw [(replace_values_of_error files input source values failure made).1] at failed
      exact (replacer_of_failure files source failure made).2 name cause (Option.some.inj failed)

end CommandLine

end WildcardRules
