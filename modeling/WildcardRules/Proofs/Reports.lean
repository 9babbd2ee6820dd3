import WildcardRules.Proofs.Runs

set_option autoImplicit false

namespace WildcardRules.CommandLine

open RuleSet (names)

structure SetReport where
  name : Text
  required : Bool
  rules : List Text

namespace SetReport

def ofReplacer (r : Replacer) : SetReport := ⟨r.name.getD [], r.required, r.rules.map Rule.display⟩

def ruleLine (rule : Text) (n : Nat) : Text :=
  "  Rule ".toList ++ n.repr.toList ++ ": ".toList ++ rule ++ ['\n']

def numberedRules (n : Nat) (rules : List Text) : List Text :=
  (rules.zipIdx n).map fun rule => ruleLine rule.1 rule.2

def ruleLines (r : SetReport) : List Text := numberedRules 1 r.rules

def block (r : SetReport) : Text :=
  "[".toList ++ r.name ++ "]\n".toList
    ++ "  required: ".toList ++ (if r.required then "true" else "false").toList ++ ['\n']
    ++ (if r.rules.isEmpty then "  (no rules, values pass through unchanged)\n".toList else [])
    ++ r.ruleLines.flatten ++ ['\n']

def line (r : SetReport) : Text :=
  "  ".toList ++ r.name ++ " (".toList ++ r.ruleLines.length.repr.toList ++ " rules)\n".toList

end SetReport

theorem numbered_rules_cons (n : Nat) (rule : Text) (rules : List Text) :
    SetReport.numberedRules n (rule :: rules) =
      SetReport.ruleLine rule n :: SetReport.numberedRules (n + 1) rules := by
  simp only [SetReport.numberedRules, List.zipIdx_cons, List.map_cons]

theorem of_nat_eq_repr (n : Nat) : Text.ofNat n = n.repr.toList := by
  simp [Text.ofNat]

theorem rule_line_eq (rule : Text) (n : Nat) :
    "  Rule ".toList ++ Text.ofNat n ++ ": ".toList ++ rule ++ ['\n'] = SetReport.ruleLine rule n := by
  rw [of_nat_eq_repr n]
  rfl

theorem rule_lines_cons (n : Nat) (rule : Rule) (rules : List Rule) :
    ruleLines n (rule :: rules) = SetReport.ruleLine rule.display n ++ ruleLines (n + 1) rules :=
  congrArg (· ++ ruleLines (n + 1) rules) (rule_line_eq rule.display n)

theorem rule_lines_eq (n : Nat) (rules : List Rule) :
    ruleLines n rules = (SetReport.numberedRules n (rules.map Rule.display)).flatten := by
  induction rules generalizing n with
  | nil => rfl
  | cons rule rules ih =>
      rw [rule_lines_cons, ih, List.map_cons, numbered_rules_cons, List.flatten_cons]

theorem description_eq (r : Replacer) : description r = (SetReport.ofReplacer r).block := by
  have rulesEmpty : (SetReport.ofReplacer r).rules.isEmpty = r.isIdentity := List.isEmpty_map
  unfold description SetReport.block
  rw [rule_lines_eq, rulesEmpty]
  rfl

theorem summary_eq (r : Replacer) (counted : r.patterns.length = r.rules.length) :
    summary r = (SetReport.ofReplacer r).line := by
  have lines : (SetReport.ofReplacer r).ruleLines.length = r.patterns.length := by
    simp [SetReport.ruleLines, SetReport.numberedRules, SetReport.ofReplacer, counted]
  unfold summary SetReport.line
  rw [lines, of_nat_eq_repr]
  rfl

def Tells (s : RuleSet) (report : SetReport) : Prop :=
  ∃ r, s.build = .ok r ∧ report = ⟨s.name, s.required, r.rules.map Rule.display⟩

theorem tells_unique (s : RuleSet) (report other : SetReport) (told : Tells s report) (again : Tells s other) :
    report = other := by
  obtain ⟨r, built, rfl⟩ := told
  obtain ⟨q, rebuilt, rfl⟩ := again
  cases built.symm.trans rebuilt
  rfl

theorem tells_of_built (s : RuleSet) (r : Replacer) (built : s.build = .ok r) :
    Tells s (SetReport.ofReplacer r) := by
  obtain ⟨nameEq, requiredEq⟩ := RuleSet.built_label s r built
  exact ⟨r, built, by rw [SetReport.ofReplacer, nameEq, requiredEq, Option.getD_some]⟩

theorem reports_of_built (sets : List RuleSet) (replacers : List Replacer)
    (pointwise : List.Forall₂ (fun s r => s.build = .ok r) sets replacers) :
    List.Forall₂ Tells sets (replacers.map SetReport.ofReplacer) ∧
      replacers.flatMap description = (replacers.map SetReport.ofReplacer).flatMap SetReport.block ∧
      replacers.flatMap summary = (replacers.map SetReport.ofReplacer).flatMap SetReport.line := by
  induction pointwise with
  | nil => exact ⟨.nil, rfl, rfl⟩
  | @cons s r sets replacers built _ ih =>
      obtain ⟨told, descriptions, summaries⟩ := ih
      obtain ⟨patterns, rules⟩ := Replacer.built_patterns built
      have counted : r.patterns.length = r.rules.length := by rw [patterns, rules]
      refine ⟨.cons (tells_of_built s r built) told, ?_, ?_⟩
      · simp only [List.flatMap_cons, List.map_cons, description_eq, descriptions]
      · simp only [List.flatMap_cons, List.map_cons, summary_eq r counted, summaries]

section

variable (files : Config.Files) (file : Text)

theorem show_of_error (cause : Error) (refused : Config.load files file = .error cause) :
    (showConfig files file).failure = some (.loading file cause) ∧ (showConfig files file).output = [] := by
  rw [showConfig, refused]
  exact ⟨rfl, rfl⟩

theorem check_of_error (cause : Error) (refused : Config.load files file = .error cause) :
    (validateConfig files file).failure = some (.checking cause) ∧
      (validateConfig files file).output = [] := by
  rw [validateConfig, refused]
  exact ⟨rfl, rfl⟩

variable (c : Config) (replacers : List Replacer) (loaded : Config.load files file = .ok c)
  (built : c.buildAll = .ok replacers)

include loaded built

theorem show_of_ok : (showConfig files file).failure = none ∧
    (showConfig files file).output = if c.sets.isEmpty then noneDeclared file
      else "# Source: ".toList ++ file ++ "\n\n".toList ++ replacers.flatMap description := by
  rw [showConfig, loaded]
  simp only [built]
  cases c.sets.isEmpty with
  | true => exact ⟨rfl, rfl⟩
  | false => exact ⟨rfl, rfl⟩

theorem check_of_ok : (validateConfig files file).failure = none ∧
    (validateConfig files file).output = if replacers.isEmpty then noneDeclared file
      else "All replacers are valid:\n".toList ++ replacers.flatMap summary := by
  rw [validateConfig, loaded]
  simp only [built]
  cases replacers with
  | nil => exact ⟨rfl, rfl⟩
  | cons r replacers => exact ⟨rfl, rfl⟩

end

inductive Report (file : Text) (c : Config) : (shown checked : Text) → Prop where
  | none : c.sets = [] → Report file c (noneDeclared file) (noneDeclared file)
  | some (reports : List SetReport) : c.sets ≠ [] → List.Forall₂ Tells c.sets reports →
      Report file c ("# Source: ".toList ++ file ++ "\n\n".toList ++ reports.flatMap SetReport.block)
        ("All replacers are valid:\n".toList ++ reports.flatMap SetReport.line)

theorem report_of_loaded (files : Config.Files) (file : Text) (c : Config)
    (loaded : Config.load files file = .ok c) :
    (showConfig files file).failure = none ∧ (validateConfig files file).failure = none ∧
      Report file c (showConfig files file).output (validateConfig files file).output := by
  have valid := Config.load_valid files file c loaded
  obtain ⟨replacers, built, labelled⟩ := Config.valid_build_all valid
  have pointwise := labelled.imp fun _ _ each => each.1
  obtain ⟨shows, shown⟩ := show_of_ok files file c replacers loaded built
  obtain ⟨checks, checked⟩ := check_of_ok files file c replacers loaded built
  obtain ⟨told, descriptions, summaries⟩ := reports_of_built c.sets replacers pointwise
  refine ⟨shows, checks, ?_⟩
  rw [shown, checked, descriptions, summaries]
  by_cases empty : c.sets = []
  · have unbuilt : replacers = [] := (pointwise_nil_iff pointwise).1 empty
    simpa [empty, unbuilt] using Report.none empty
  · have inhabited : replacers ≠ [] := fun unbuilt => empty ((pointwise_nil_iff pointwise).2 unbuilt)
    simpa [empty, inhabited] using Report.some _ empty told

theorem refused_or_reported (files : Config.Files) (file : Text) :
    (∃ cause, Config.load files file = .error cause ∧
      (showConfig files file).failure = some (.loading file cause) ∧
      (validateConfig files file).failure = some (.checking cause) ∧
      (showConfig files file).output = [] ∧ (validateConfig files file).output = []) ∨
    ∃ c, Config.load files file = .ok c ∧
      (showConfig files file).failure = none ∧ (validateConfig files file).failure = none ∧
      Report file c (showConfig files file).output (validateConfig files file).output := by
  cases loaded : Config.load files file with
  | error cause =>
      obtain ⟨shows, shown⟩ := show_of_error files file cause loaded
      obtain ⟨checks, checked⟩ := check_of_error files file cause loaded
      exact .inl ⟨cause, rfl, shows, checks, shown, checked⟩
  | ok c => exact .inr ⟨c, rfl, report_of_loaded files file c loaded⟩

theorem replace_fails_early_iff (s : Surroundings) (file name : Text) (values : List Text) :
    (execute s (.replace (.config file name) values)).FailsEarly ↔
      (∃ cause, Config.load s.files file = .error cause) ∨
        ∃ c, Config.load s.files file = .ok c ∧ name ∉ names c.sets := by
  rw [execute, fails_early_iff]
  simp only [replacer_of_config_error_iff]
  constructor
  · intro refused
    obtain ⟨failure, ⟨cause, refused, -⟩ | ⟨c, loaded, undeclared, -⟩⟩ := refused
    · exact .inl ⟨cause, refused⟩
    · exact .inr ⟨c, loaded, undeclared⟩
  · intro refused
    rcases refused with ⟨cause, refused⟩ | ⟨c, loaded, undeclared⟩
    · exact ⟨_, .inl ⟨cause, refused, rfl⟩⟩
    · exact ⟨_, .inr ⟨c, loaded, undeclared, rfl⟩⟩

theorem execute_building_unknown (s : Surroundings) (command : Command) (name : Text) (cause : Error)
    (failed : (execute s command).failure = some (.building name cause)) : cause = .unknownName name := by
  cases command with
  | replace source values => exact building_unknown s.files s.input source values name cause failed
  | showConfig file =>
      rcases refused_or_reported s.files file with ⟨refusal, -, shows, -⟩ | ⟨c, -, shows, -⟩
      · cases shows.symm.trans failed
      · cases shows.symm.trans failed
  | validateConfig file =>
      rcases refused_or_reported s.files file with ⟨refusal, -, -, checks, -⟩ | ⟨c, -, -, checks, -⟩
      · cases checks.symm.trans failed
      · cases checks.symm.trans failed

theorem config_commands_agree (s : Surroundings) (file : Text) (shows checks : List Text)
    (asksShow : Asks shows (.showConfig file)) (asksCheck : Asks checks (.validateConfig file)) :
    (run shows s).exitCode = (run checks s).exitCode ∧
    ((run shows s).exitCode = 1 ∧ (run shows s).output = [] ∧ (run checks s).output = [] ∨
      (run shows s).exitCode = 0 ∧ ∃ c, Config.load s.files file = .ok c ∧
        Report file c (run shows s).output (run checks s).output) ∧
    (∀ cause, (execute s (.showConfig file)).failure ≠ some (.listing cause)) ∧
    (∀ name values,
      ((execute s (.replace (.config file name) values)).FailsEarly ↔
        (run checks s).exitCode = 1 ∨ ∃ c, Config.load s.files file = .ok c ∧ name ∉ names c.sets) ∧
      ∀ replaces, Asks replaces (.replace (.config file name) values) →
        (execute s (.replace (.config file name) values)).FailsEarly →
        (run replaces s).exitCode = 1 ∧ (run replaces s).output = []) ∧
    ∀ command name cause, (execute s command).failure = some (.building name cause) →
      cause = .unknownName name := by
  have showWrites := (run_of_asks shows s _ asksShow).2
  have checkWrites := (run_of_asks checks s _ asksCheck).2
  rcases refused_or_reported s.files file with
    ⟨cause, refused, showFails, checkFails, shown, checked⟩ | ⟨c, loaded, showPasses, checkPasses, report⟩
  · have showExit := run_of_failure shows s _ asksShow _ showFails
    have checkExit := run_of_failure checks s _ asksCheck _ checkFails
    refine ⟨showExit.trans checkExit.symm, .inl ⟨showExit, showWrites.trans shown, checkWrites.trans checked⟩,
      fun _ listing => ?_, fun name values => ⟨?_, fun replaces => run_of_fails_early replaces s _ values⟩,
      execute_building_unknown s⟩
    · cases showFails.symm.trans listing
    · simp [replace_fails_early_iff, refused, checkExit]
  · have showExit := run_of_success shows s _ asksShow showPasses
    have checkExit := run_of_success checks s _ asksCheck checkPasses
    rw [← execute, ← showWrites, ← execute, ← checkWrites] at report
    refine ⟨showExit.trans checkExit.symm, .inr ⟨showExit, c, loaded, report⟩,
      fun _ listing => ?_, fun name values => ⟨?_, fun replaces => run_of_fails_early replaces s _ values⟩,
      execute_building_unknown s⟩
    · cases showPasses.symm.trans listing
    · simp [replace_fails_early_iff, loaded, checkExit]

def besideTwoSets : Surroundings := { files := fun _ => .ok Config.twoSets.toBytes }

theorem config_commands_agree_two :
    (run ["config".toList, "show".toList, "two".toList] besideTwoSets).exitCode = 0 ∧
      (run ["config".toList, "validate".toList, "two".toList] besideTwoSets).exitCode = 0 ∧
      (run ["config".toList, "show".toList, "two".toList] besideTwoSets).output =
        ("# Source: two\n\n[a]\n  required: true\n  Rule 1: x:y (exact)\n\n".toList ++
          "[b]\n  required: false\n  (no rules, values pass through unchanged)\n\n".toList) ∧
      (run ["config".toList, "validate".toList, "two".toList] besideTwoSets).output =
        "All replacers are valid:\n  a (1 rules)\n  b (0 rules)\n".toList ∧
      (execute besideTwoSets (.replace (.config "two".toList "c".toList) [])).FailsEarly := by
  have loaded := Config.load_of_text besideTwoSets.files "two".toList _ _ rfl (Config.parse_two_sets _)
  have asksCheck := asks_validate "two".toList (by decide) (by decide)
  have checkExit := run_of_success _ besideTwoSets _ asksCheck (report_of_loaded _ _ _ loaded).2.1
  obtain ⟨sameExit, ⟨showExit, -⟩ | ⟨showExit, c, same, report⟩, -, early, -⟩ :=
    config_commands_agree besideTwoSets "two".toList _ _ (asks_show _ (by decide) (by decide)) asksCheck
  · cases checkExit.symm.trans (sameExit.symm.trans showExit)
  · cases loaded.symm.trans same
    have failsEarly := (early "c".toList []).1.2 (.inr ⟨_, same, by decide⟩)
    generalize (run ["config".toList, "show".toList, "two".toList] besideTwoSets).output = shown at report ⊢
    generalize (run ["config".toList, "validate".toList, "two".toList] besideTwoSets).output = checked at report ⊢
    cases report with
    | none empty => cases empty
    | some reports inhabited told =>
        have exactly : reports = [⟨"a".toList, true, ["x:y (exact)".toList]⟩, ⟨"b".toList, false, []⟩] := by
          obtain ⟨first, rest, tells, others, rfl⟩ := List.forall₂_cons_left_iff.1 told
          obtain ⟨second, none, tellsNext, nothing, rfl⟩ := List.forall₂_cons_left_iff.1 others
          rw [List.forall₂_nil_left_iff.1 nothing, tells_unique _ first _ tells ⟨_, rfl, rfl⟩,
            tells_unique _ second _ tellsNext ⟨_, rfl, rfl⟩]
          rfl
        subst exactly
        exact ⟨showExit, checkExit, by decide, by decide, failsEarly⟩

end WildcardRules.CommandLine
