import WildcardRules.Config
import WildcardRules.Text.Visible

set_option autoImplicit false

namespace WildcardRules.Log

inductive Level where
  | error
  | warn
  | info
  | debug
  | trace
deriving DecidableEq

namespace Level

def rank : Level → Nat
  | .error => 1
  | .warn => 2
  | .info => 3
  | .debug => 4
  | .trace => 5

def name : Level → Text
  | .error => "ERROR".toList
  | .warn => "WARN".toList
  | .info => "INFO".toList
  | .debug => "DEBUG".toList
  | .trace => "TRACE".toList

end Level

inductive Event where
  | compiled (rule : Rule)
  | withoutRules (name : Option Text)
  | matched (value : Text) (rule : Rule)
  | unchanged (value : Text)
  | loaded (count : Nat) (path : Text)
deriving DecidableEq

namespace Event

def level : Event → Level
  | .compiled _ => .debug
  | .withoutRules _ => .debug
  | .matched _ _ => .trace
  | .unchanged _ => .trace
  | .loaded _ _ => .debug

def target : Event → Text
  | .compiled _ => "replacer_cli::rules::compiler".toList
  | .withoutRules _ => "replacer_cli::rules::replacer".toList
  | .matched _ _ => "replacer_cli::rules::replacer".toList
  | .unchanged _ => "replacer_cli::rules::replacer".toList
  | .loaded _ _ => "replacer_cli::config::parser".toList

def message : Event → Text
  | .compiled rule => "compiled rule ".toList ++ rule.display
  | .withoutRules name =>
      "replacer ".toList ++ name.getD "<unnamed>".toList
        ++ " has no rules, values pass through unchanged".toList
  | .matched value rule =>
      "value '".toList ++ value ++ "' matched rule ".toList ++ rule.display
  | .unchanged value => "value '".toList ++ value ++ "' left unchanged".toList
  | .loaded count path =>
      "loaded ".toList ++ Text.ofNat count ++ " replacer(s) from ".toList ++ path

end Event

def hanging (indent : Nat) (t : Text) : Text :=
  t.flatMap fun c => if c = '\n' then '\n' :: List.replicate indent ' ' else [c]

def Event.line (e : Event) : Text :=
  Text.visible
    ("[".toList ++ e.level.name ++ " ".toList ++ e.target ++ "] ".toList ++ hanging 4 e.message
      ++ ['\n'])

def compiledRules (count : Nat) : List Text → List Rule
  | [] => []
  | pattern :: patterns =>
      match Rule.compile pattern count with
      | .ok rule => rule :: compiledRules count patterns
      | .error _ => []

def buildEvents (input : RuleInput) (options : Options) : List Event :=
  match input.validate options.name options.required with
  | .error _ => []
  | .ok [] => [.withoutRules options.name]
  | .ok patterns => (compiledRules patterns.length patterns).map .compiled

def buildAllEvents : List RuleSet → List Event
  | [] => []
  | s :: sets =>
      buildEvents s.input s.options ++
        match s.build with
        | .ok _ => buildAllEvents sets
        | .error _ => []

def validateEvents (c : Config) : List Event :=
  match Config.firstDuplicate? [] c.sets with
  | some _ => []
  | none => buildAllEvents c.sets

def replaceEvents (r : Replacer) (value : Text) : List Event :=
  if r.isIdentity then []
  else
    let normal := value.normalizeBrackets
    match r.firstMatch? normal with
    | some (rule, _ :: _) => [.matched normal rule]
    | some (rule, []) => .matched normal rule :: if r.required then [] else [.unchanged normal]
    | none => if r.required then [] else [.unchanged normal]

end WildcardRules.Log
