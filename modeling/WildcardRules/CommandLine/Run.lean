import WildcardRules.CommandLine.Arguments
import WildcardRules.CommandLine.Transcript
import WildcardRules.Config.Load

/-!
Running commands. A run depends on its arguments, on the files and the input it may read, and on the
log specification, and leaves an exit code and two texts.
-/

set_option autoImplicit false

namespace WildcardRules.CommandLine

open Config (Files)

structure Surroundings where
  files : Files
  input : Bytes := []
  logSpecification : Option Text := none

structure Outcome where
  exitCode : Nat
  output : Text
  errors : Text
deriving DecidableEq

def valuesOf (arguments : List Text) (input : Bytes) : List (Option Text) :=
  if arguments.isEmpty then input.lines.map Text.ofBytes? else arguments.map some

def replaceAll (r : Replacer) : List (Option Text) → Transcript
  | [] => {}
  | none :: _ => .failed (.reading .notUtf8)
  | some value :: values =>
      match r.replace value with
      | .error cause => ⟨[], Log.replaceEvents r value, some (.replacing cause)⟩
      | .ok result =>
          Transcript.andThen ⟨result ++ ['\n'], Log.replaceEvents r value, none⟩
            (replaceAll r values)

def ruleInputOf : List Text → RuleInput
  | [] => .none
  | [rule] => .single rule
  | rules => .many rules

def loadEvents (files : Files) (path : Text) : List Log.Event :=
  match Config.readText files path with
  | .error _ => []
  | .ok content =>
      match Config.ofText content with
      | .error _ => []
      | .ok config =>
          Log.validateEvents config ++
            match config.validate with
            | .ok () => [.loaded config.sets.length path]
            | .error _ => []

def replacerOf (files : Files) : RuleSource → Except Failure Replacer
  | .options rules optional =>
      match Replacer.build (ruleInputOf rules) ⟨none, !optional⟩ with
      | .ok replacer => .ok replacer
      | .error cause => .error (.compiling cause)
  | .config path name =>
      match Config.load files path with
      | .error cause => .error (.loading path cause)
      | .ok config =>
          match config.build name with
          | .ok replacer => .ok replacer
          | .error cause => .error (.building name cause)

def replacerEvents (files : Files) : RuleSource → List Log.Event
  | .options rules optional => Log.buildEvents (ruleInputOf rules) ⟨none, !optional⟩
  | .config path name =>
      loadEvents files path ++
        match Config.load files path with
        | .error _ => []
        | .ok config =>
            match config.find? name with
            | none => []
            | some s => Log.buildEvents s.input s.options

def replaceValues (files : Files) (input : Bytes) (source : RuleSource) (values : List Text) :
    Transcript :=
  let made := Transcript.reported (replacerEvents files source)
  match replacerOf files source with
  | .error failure => { made with failure := some failure }
  | .ok replacer => made.andThen (replaceAll replacer (valuesOf values input))

def ruleLines : Nat → List Rule → Text
  | _, [] => []
  | n, rule :: rules =>
      "  Rule ".toList ++ Text.ofNat n ++ ": ".toList ++ rule.display ++ ['\n']
        ++ ruleLines (n + 1) rules

def description (r : Replacer) : Text :=
  "[".toList ++ r.name.getD [] ++ "]\n".toList
    ++ "  required: ".toList ++ (if r.required then "true" else "false").toList ++ ['\n']
    ++ (if r.isIdentity then "  (no rules, values pass through unchanged)\n".toList else [])
    ++ ruleLines 1 r.rules ++ ['\n']

def noneDeclared (file : Text) : Text := "No replacers declared in ".toList ++ file ++ ['\n']

def showConfig (files : Files) (file : Text) : Transcript :=
  let loaded := Transcript.reported (loadEvents files file)
  match Config.load files file with
  | .error cause => { loaded with failure := some (.loading file cause) }
  | .ok config =>
      loaded.andThen <|
        if config.sets.isEmpty then .written (noneDeclared file)
        else
          let header := "# Source: ".toList ++ file ++ "\n\n".toList
          let events := Log.buildAllEvents config.sets
          match config.buildAll with
          | .error cause => ⟨header, events, some (.listing cause)⟩
          | .ok replacers => ⟨header ++ replacers.flatMap description, events, none⟩

def summary (r : Replacer) : Text :=
  "  ".toList ++ r.name.getD [] ++ " (".toList ++ Text.ofNat r.patterns.length
    ++ " rules)\n".toList

def validateConfig (files : Files) (file : Text) : Transcript :=
  let loaded := Transcript.reported (loadEvents files file)
  match Config.load files file with
  | .error cause => { loaded with failure := some (.checking cause) }
  | .ok config =>
      loaded.andThen <|
        let events := Log.buildAllEvents config.sets
        match config.buildAll with
        | .error cause => ⟨[], events, some (.checking cause)⟩
        | .ok [] => ⟨noneDeclared file, events, none⟩
        | .ok replacers =>
            ⟨"All replacers are valid:\n".toList ++ replacers.flatMap summary, events, none⟩

def execute (s : Surroundings) : Command → Transcript
  | .replace source values => replaceValues s.files s.input source values
  | .showConfig file => showConfig s.files file
  | .validateConfig file => validateConfig s.files file

def filterOf (specification : Option Text) (verbosity : Nat) : Log.Filter × List Text :=
  match specification with
  | some specification => Log.Filter.ofSpecification specification
  | none => (Log.Filter.ofVerbosity verbosity, [])

def Transcript.outcome (t : Transcript) (filter : Log.Filter) (warnings : List Text) : Outcome where
  exitCode := if t.failure.isSome then 1 else 0
  output := t.output
  errors :=
    warnings.flatten ++ (t.events.filter filter.admits).flatMap Log.Event.line
      ++ (t.failure.map Failure.report).getD []

def versionLine : Text := "replacer 0.1.0\n".toList

def refusal (e : UsageError) : Text :=
  "error: ".toList ++ e.message ++ "\n\nUsage: ".toList ++ Topic.program.page.usage
    ++ "\n\nFor more information, try '--help'.\n".toList

def Stop.outcome : Stop → Outcome
  | .version => ⟨0, versionLine, []⟩
  | .help topic => ⟨0, topic.page.toText, []⟩
  | .usage e => ⟨2, [], refusal e⟩

def run (arguments : List Text) (s : Surroundings) : Outcome :=
  match parse arguments with
  | .error stop => stop.outcome
  | .ok invocation =>
      let (filter, warnings) := filterOf s.logSpecification invocation.verbosity
      (execute s invocation.command).outcome filter warnings

end WildcardRules.CommandLine
