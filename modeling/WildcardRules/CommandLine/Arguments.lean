import WildcardRules.CommandLine.Help
import WildcardRules.RuleInput

/-!
Arguments. Options come first; the first argument that is none of them begins the values, and from
there on every argument is a value. The word `config` in that place names a command of its own.
-/

set_option autoImplicit false

namespace WildcardRules.CommandLine

inductive Setting where
  | rule
  | config
  | name
deriving DecidableEq

inductive Flag where
  | optional
  | verbose
  | version
  | help
deriving DecidableEq

inductive Switch where
  | setting (setting : Setting)
  | flag (flag : Flag)
deriving DecidableEq

def longNames : List (Text × Switch) :=
  [("rule".toList, .setting .rule), ("config".toList, .setting .config),
    ("name".toList, .setting .name), ("optional".toList, .flag .optional),
    ("verbose".toList, .flag .verbose), ("version".toList, .flag .version),
    ("help".toList, .flag .help)]

def letters : List (Char × Switch) :=
  [('r', .setting .rule), ('c', .setting .config), ('n', .setting .name),
    ('v', .flag .verbose), ('V', .flag .version), ('h', .flag .help)]

inductive UsageError where
  | unexpectedArgument (argument : Text)
  | missingArgument
  | repeatedOption
  | conflictingOptions
  | missingOption
  | missingCommand
deriving DecidableEq

def UsageError.message : UsageError → Text
  | .unexpectedArgument argument => "unexpected argument '".toList ++ argument ++ "'".toList
  | .missingArgument => "a value is required for an option but none was supplied".toList
  | .repeatedOption => "an option cannot be used multiple times".toList
  | .conflictingOptions => "--config cannot be used with --rule or --optional".toList
  | .missingOption => "--config and --name must be given together".toList
  | .missingCommand => "config needs a command, show or validate, and a file".toList

inductive Stop where
  | usage (e : UsageError)
  | version
  | help (topic : Topic)
deriving DecidableEq

inductive RuleSource where
  | options (rules : List Text) (optional : Bool)
  | config (path name : Text)
deriving DecidableEq

inductive Command where
  | replace (source : RuleSource) (values : List Text)
  | showConfig (file : Text)
  | validateConfig (file : Text)
deriving DecidableEq

structure Invocation where
  command : Command
  verbosity : Nat
deriving DecidableEq

inductive Word where
  | endOfOptions
  | long (switch : Switch) (argument : Option Text)
  | cluster (flags : List Flag) (setting : Option (Setting × Text))
  | plain
deriving DecidableEq

namespace Word

def splitAtEquals : Text → Text × Option Text
  | [] => ([], none)
  | c :: t =>
      if c = '=' then ([], some t) else (c :: (splitAtEquals t).1, (splitAtEquals t).2)

def ofLetters : Text → List Flag × Option (Setting × Text)
  | [] => ([], none)
  | c :: t =>
      match letters.lookup c with
      | some (.setting setting) => ([], some (setting, t))
      | some (.flag flag) => (flag :: (ofLetters t).1, (ofLetters t).2)
      | none => ([], none)

def read : Text → Word
  | ['-', '-'] => .endOfOptions
  | '-' :: '-' :: name =>
      match longNames.lookup (splitAtEquals name).1 with
      | some switch => .long switch (splitAtEquals name).2
      | none => .plain
  | '-' :: c :: t =>
      if (c :: t).all fun letter => (letters.lookup letter).isSome then
        .cluster (ofLetters (c :: t)).1 (ofLetters (c :: t)).2
      else .plain
  | _ => .plain

end Word

structure Request where
  rules : List Text := []
  config : Option Text := none
  name : Option Text := none
  optional : Bool := false
  verbosity : Nat := 0
deriving DecidableEq

namespace Request

def set (r : Request) (setting : Setting) (argument : Text) : Except Stop Request :=
  match setting with
  | .rule => .ok { r with rules := r.rules ++ [argument] }
  | .config =>
      if argument.isEmpty then .error (.usage .missingArgument)
      else if r.config.isSome then .error (.usage .repeatedOption)
      else .ok { r with config := some argument }
  | .name =>
      if r.name.isSome then .error (.usage .repeatedOption)
      else .ok { r with name := some argument }

def raise (r : Request) : Flag → Except Stop Request
  | .optional =>
      if r.optional then .error (.usage .repeatedOption) else .ok { r with optional := true }
  | .verbose => .ok { r with verbosity := r.verbosity + 1 }
  | .version => .error .version
  | .help => .error (.help .program)

def raiseAll (r : Request) (flags : List Flag) : Except Stop Request := flags.foldlM raise r

-- Where the rules come from. A configuration goes with a name and excludes rules of one's own; a
-- name without a configuration is passed over where such rules rule the configuration out.
def source (r : Request) : Except UsageError RuleSource :=
  match r.config, r.name with
  | some path, some name =>
      if r.rules.isEmpty && !r.optional then .ok (.config path name)
      else .error .conflictingOptions
  | some _, none => .error .missingOption
  | none, name =>
      if name.isSome && r.rules.isEmpty && !r.optional then .error .missingOption
      else .ok (.options r.rules r.optional)

def replaceValues (r : Request) (values : List Text) : Except Stop Invocation :=
  match r.source with
  | .ok source => .ok ⟨.replace source values, r.verbosity⟩
  | .error e => .error (.usage e)

end Request

def verboseLetters (topic : Topic) : Text → Except Stop Nat
  | [] => .ok 0
  | 'v' :: t => (verboseLetters topic t).map (· + 1)
  | 'h' :: _ => .error (.help topic)
  | letter :: _ => .error (.usage (.unexpectedArgument ['-', letter]))

def optionOf? (topic : Topic) : Text → Option (Except Stop Nat)
  | ['-'] => none
  | ['-', '-'] => none
  | '-' :: '-' :: name =>
      some <|
        if name = "verbose".toList then .ok 1
        else if name = "help".toList then .error (.help topic)
        else .error (.usage (.unexpectedArgument ('-' :: '-' :: name)))
  | '-' :: letters => some (verboseLetters topic letters)
  | _ => none

def helpOn (topic : Topic) (words : List Text) : Stop :=
  match topic.follow? words with
  | some topic => .help topic
  | none => .usage .missingCommand

-- Requests to say more count where they are written last: after the inner command if there are
-- any, else before it.
def innermost (inner outer : Nat) : Nat := if inner = 0 then outer else inner

def fileOf (topic : Topic) (verbosity : Nat) (file : Option Text) :
    List Text → Except Stop (Text × Nat)
  | [] =>
      match file with
      | some file => .ok (file, verbosity)
      | none => .error (.usage .missingCommand)
  | argument :: rest =>
      match optionOf? topic argument, file with
      | some (.ok requests), _ => fileOf topic (verbosity + requests) file rest
      | some (.error stop), _ => .error stop
      | none, none =>
          if argument = ['-', '-'] then
            match rest with
            | [file] =>
                if file.isEmpty then .error (.usage .missingCommand) else .ok (file, verbosity)
            | _ => .error (.usage .missingCommand)
          else if argument.isEmpty then .error (.usage .missingCommand)
          else fileOf topic verbosity (some argument) rest
      | none, some file =>
          if argument = ['-', '-'] ∧ rest = [] then .ok (file, verbosity)
          else .error (.usage (.unexpectedArgument argument))

def configCommand (outer verbosity : Nat) : List Text → Except Stop Invocation
  | [] => .error (.usage .missingCommand)
  | argument :: rest =>
      match optionOf? .config argument with
      | some (.ok requests) => configCommand outer (verbosity + requests) rest
      | some (.error stop) => .error stop
      | none =>
          if argument = "show".toList then
            (fileOf .configShow 0 none rest).map fun found =>
              ⟨.showConfig found.1, innermost found.2 (innermost verbosity outer)⟩
          else if argument = "validate".toList then
            (fileOf .configValidate 0 none rest).map fun found =>
              ⟨.validateConfig found.1, innermost found.2 (innermost verbosity outer)⟩
          else if argument = "help".toList then .error (helpOn .config rest)
          else .error (.usage (.unexpectedArgument argument))

-- Reads a command on configurations that follows other options. These are judged last, so that a
-- wish for help comes first.
def configAfter (r : Request) (rest : List Text) : Except Stop Invocation :=
  match configCommand r.verbosity 0 rest, r.source with
  | .ok _, .error e => .error (.usage e)
  | read, _ => read

def readFrom (r : Request) (waiting : Option Setting) : List Text → Except Stop Invocation
  | [] =>
      match waiting with
      | some _ => .error (.usage .missingArgument)
      | none => r.replaceValues []
  | argument :: rest =>
      match waiting, Word.read argument with
      | some setting, .plain =>
          match r.set setting argument with
          | .ok r => readFrom r none rest
          | .error stop => .error stop
      | some _, _ => .error (.usage .missingArgument)
      | none, .plain =>
          if argument = "config".toList then configAfter r rest
          else if argument = "help".toList then .error (helpOn .program rest)
          else r.replaceValues (argument :: rest)
      | none, .endOfOptions => r.replaceValues rest
      | none, .long (.setting setting) none => readFrom r (some setting) rest
      | none, .long (.setting setting) (some value) =>
          match r.set setting value with
          | .ok r => readFrom r none rest
          | .error stop => .error stop
      | none, .long (.flag flag) none =>
          match r.raise flag with
          | .ok r => readFrom r none rest
          | .error stop => .error stop
      | none, .long (.flag _) (some _) => .error (.usage (.unexpectedArgument argument))
      | none, .cluster flags setting =>
          match r.raiseAll flags, setting with
          | .error stop, _ => .error stop
          | .ok r, none => readFrom r none rest
          | .ok r, some (setting, []) => readFrom r (some setting) rest
          | .ok r, some (setting, c :: value) =>
              match r.set setting (c :: value) with
              | .ok r => readFrom r none rest
              | .error stop => .error stop

def parse (arguments : List Text) : Except Stop Invocation := readFrom {} none arguments

end WildcardRules.CommandLine
