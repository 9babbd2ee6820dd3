import WildcardRules.Main
import WildcardRules.Proofs.Interchange
import WildcardRules.Proofs.Noise

set_option autoImplicit false

namespace WildcardRules.CommandLine

theorem read_of_plain (argument : Text) (plain : argument.head? ≠ some '-') : Word.read argument = .plain := by
  fun_cases Word.read argument with
  | case1 => exact False.elim (plain rfl)
  | case2 => exact False.elim (plain rfl)
  | case3 => exact False.elim (plain rfl)
  | case4 => exact False.elim (plain rfl)
  | case5 => rfl
  | case6 => rfl

theorem read_from_value (r : Request) (value : Text) (rest : List Text) (plain : value.head? ≠ some '-')
    (notConfig : value ≠ "config".toList) (notHelp : value ≠ "help".toList) :
    readFrom r none (value :: rest) = r.replaceValues (value :: rest) := by
  conv => lhs; unfold readFrom
  simp only [read_of_plain value plain, if_neg notConfig, if_neg notHelp]

theorem parse_first_value (rules : List Text) (optional : Bool) (value : Text) (rest : List Text)
    (plain : value.head? ≠ some '-') (notConfig : value ≠ "config".toList) (notHelp : value ≠ "help".toList) :
    parse (optionArguments rules optional ++ value :: rest) =
      .ok ⟨.replace (.options rules optional) (value :: rest), 0⟩ := by
  rw [parse_options, read_from_value _ value rest plain notConfig notHelp]
  rfl

theorem rule_input_interchangeable (rules : List Text) : (ruleInputOf rules).Interchangeable (.many rules) := by
  apply RuleInput.interchangeable_of_listed
  rw [RuleInput.listed, to_list_rule_input_of]
  rfl

theorem replacer_events_of_options (files : Config.Files) (rules : List Text) (optional : Bool) :
    replacerEvents files (.options rules optional) = Log.buildEvents (.many rules) ⟨none, !optional⟩ := by
  rw [replacerEvents, Log.buildEvents, Log.buildEvents, (rule_input_interchangeable rules).validate]

theorem replacer_of_options (files : Config.Files) (rules : List Text) (optional : Bool) :
    replacerOf files (.options rules optional) =
      (Replacer.build (.many rules) ⟨none, !optional⟩).mapError .compiling := by
  rw [replacerOf, (rule_input_interchangeable rules).build]
  cases Replacer.build (.many rules) ⟨none, !optional⟩ with
  | ok r => rfl
  | error cause => rfl

section

variable (files : Config.Files) (input : Bytes) (rules : List Text) (optional : Bool) (values : List Text)

theorem replace_values_of_built (inhabited : values ≠ []) (r : Replacer)
    (built : Replacer.build (.many rules) ⟨none, !optional⟩ = .ok r) :
    replaceValues files input (.options rules optional) values =
      Transcript.andThen (.reported (Log.buildEvents (.many rules) ⟨none, !optional⟩))
        (replaceAll r (values.map some)) := by
  rw [replaceValues, replacer_events_of_options, replacer_of_options, built, values_of_arguments values input inhabited]
  rfl

theorem replace_values_of_refused (cause : BuildError)
    (refused : Replacer.build (.many rules) ⟨none, !optional⟩ = .error cause) :
    replaceValues files input (.options rules optional) values =
      ⟨[], Log.buildEvents (.many rules) ⟨none, !optional⟩, some (.compiling cause)⟩ := by
  rw [replaceValues, replacer_events_of_options, replacer_of_options, refused]
  rfl

end

def Transcript.seen (t : Transcript) (s : Surroundings) : Outcome :=
  t.outcome (filterOf s.logSpecification 0).1 (filterOf s.logSpecification 0).2

theorem run_of_parsed (arguments : List Text) (command : Command) (parsed : parse arguments = .ok ⟨command, 0⟩)
    (s : Surroundings) : run arguments s = (execute s command).seen s := by
  rw [run, parsed]
  rfl

section

variable (arguments rules : List Text) (optional : Bool) (values : List Text)
  (parsed : parse arguments = .ok ⟨.replace (.options rules optional) values, 0⟩)

include parsed

theorem run_of_built (inhabited : values ≠ []) (r : Replacer)
    (built : Replacer.build (.many rules) ⟨none, !optional⟩ = .ok r) (s : Surroundings) :
    run arguments s = Transcript.seen (Transcript.andThen
      (.reported (Log.buildEvents (.many rules) ⟨none, !optional⟩)) (replaceAll r (values.map some))) s := by
  rw [run_of_parsed arguments _ parsed, execute,
    replace_values_of_built s.files s.input rules optional values inhabited r built]

theorem run_of_refused (cause : BuildError)
    (refused : Replacer.build (.many rules) ⟨none, !optional⟩ = .error cause) (s : Surroundings) :
    run arguments s =
      Transcript.seen ⟨[], Log.buildEvents (.many rules) ⟨none, !optional⟩, some (.compiling cause)⟩ s := by
  rw [run_of_parsed arguments _ parsed, execute,
    replace_values_of_refused s.files s.input rules optional values cause refused]

end

-- Any list may stand behind the value. What the rules and the values leave behind is there before anything is known
-- of the surroundings, and these decide only how much of the log is seen.
theorem first_value_ends_options (rules : List Text) (optional : Bool) (value : Text) (rest : List Text)
    (plain : value.head? ≠ some '-') (notConfig : value ≠ "config".toList) (notHelp : value ≠ "help".toList) :
    let arguments := optionArguments rules optional ++ value :: rest
    let options : Options := ⟨none, !optional⟩
    let command : Command := .replace (.options rules optional) (value :: rest)
    parse arguments = .ok ⟨command, 0⟩ ∧ command.readsInput = false ∧ command.file? = none ∧
    (∀ r, Replacer.build (.many rules) options = .ok r → ∃ t, Through r ((value :: rest).map some) t ∧
      ∀ s, run arguments s =
        Transcript.seen ⟨t.output, Log.buildEvents (.many rules) options ++ t.events, t.failure⟩ s) ∧
    (∀ cause, Replacer.build (.many rules) options = .error cause → ∀ s,
      run arguments s = Transcript.seen ⟨[], Log.buildEvents (.many rules) options, some (.compiling cause)⟩ s ∧
      (run arguments s).exitCode = 1 ∧ (run arguments s).output = []) ∧
    ∀ s other, s.logSpecification = other.logSpecification → run arguments s = run arguments other := by
  intro arguments options command
  have parsed := parse_first_value rules optional value rest plain notConfig notHelp
  have inhabited : value :: rest ≠ [] := List.cons_ne_nil value rest
  have accepted := run_of_built arguments rules optional _ parsed inhabited
  have refused := run_of_refused arguments rules optional _ parsed
  refine ⟨parsed, rfl, rfl, ?_, ?_, ?_⟩
  · intro r built
    exact ⟨_, through_replace_all r _, accepted r built⟩
  · intro cause failed s
    rw [refused cause failed s]
    exact ⟨rfl, rfl, rfl⟩
  · intro s other same
    cases made : Replacer.build (.many rules) options with
    | ok r => rw [accepted r made s, accepted r made other, Transcript.seen, Transcript.seen, same]
    | error cause => rw [refused cause made s, refused cause made other, Transcript.seen, Transcript.seen, same]

theorem first_value_ends_options_hyphens :
    (∀ s, (run ["--optional".toList, "--rule=f-*:g-*".toList, "f-a".toList, "-r".toList, "--rule=x".toList,
      "--".toList, "config".toList, "--optional".toList] s).output =
        "g-a\n-r\n--rule=x\n--\nconfig\n--optional\n".toList) ∧
    ∀ s, (run ["--rule=a".toList, "--rule=b".toList, "x".toList, "--optional".toList] s).exitCode = 1 ∧
      (run ["--rule=a".toList, "--rule=b".toList, "x".toList, "--optional".toList] s).output = [] := by
  have read : ∃ r, Replacer.build (.many ["f-*:g-*".toList]) ⟨none, false⟩ = .ok r ∧
      (replaceAll r (["f-a".toList, "-r".toList, "--rule=x".toList, "--".toList, "config".toList,
        "--optional".toList].map some)).output = "g-a\n-r\n--rule=x\n--\nconfig\n--optional\n".toList :=
    ⟨⟨none, false, ["f-*:g-*".toList], [⟨"f-*:g-*".toList, .wildcard ⟨"f-".toList, [[]]⟩ ⟨"g-".toList, [[]]⟩⟩]⟩,
      by decide⟩
  obtain ⟨r, built, written⟩ := read
  obtain ⟨-, -, -, accepted, -, -⟩ := first_value_ends_options ["f-*:g-*".toList] true "f-a".toList
    ["-r".toList, "--rule=x".toList, "--".toList, "config".toList, "--optional".toList]
    (by decide) (by decide) (by decide)
  obtain ⟨-, -, -, -, refused, -⟩ := first_value_ends_options ["a".toList, "b".toList] false "x".toList
    ["--optional".toList] (by decide) (by decide) (by decide)
  obtain ⟨t, through, ran⟩ := accepted r built
  rw [replace_all_of_through r _ t through] at written
  constructor
  · intro s
    exact (congrArg Outcome.output (ran s)).trans written
  · intro s
    exact (refused (.multipleBareValues "a".toList 2) rfl s).2

end WildcardRules.CommandLine
