import WildcardRules.Proofs.Runs

set_option autoImplicit false

namespace WildcardRules.CommandLine

def ruleArgument (rule : Text) : Text := "--rule=".toList ++ rule

def optionArguments (rules : List Text) (optional : Bool) : List Text :=
  (if optional then ["--optional".toList] else []) ++ rules.map ruleArgument

def selectionArguments (path name : Text) : List Text := ["--config=".toList ++ path, "--name=".toList ++ name]

def endOfOptions : Text := "--".toList

section

variable (r : Request) (rest : List Text)

theorem read_from_setting (setting : Setting) (argument value : Text) (next : Request)
    (read : Word.read argument = .long (.setting setting) (some value))
    (accepted : r.set setting value = .ok next) :
    readFrom r none (argument :: rest) = readFrom next none rest := by
  conv => lhs; unfold readFrom
  simp only [read, accepted]

theorem read_from_flag (flag : Flag) (argument : Text) (next : Request)
    (read : Word.read argument = .long (.flag flag) none) (accepted : r.raise flag = .ok next) :
    readFrom r none (argument :: rest) = readFrom next none rest := by
  conv => lhs; unfold readFrom
  simp only [read, accepted]

theorem read_from_end_of_options (values : List Text) :
    readFrom r none (endOfOptions :: values) = r.replaceValues values := by
  have read : Word.read endOfOptions = .endOfOptions := by decide
  conv => lhs; unfold readFrom
  simp only [read]

theorem read_from_rules (rules : List Text) :
    readFrom r none (rules.map ruleArgument ++ rest) =
      readFrom { r with rules := r.rules ++ rules } none rest := by
  induction rules generalizing r with
  | nil => simp
  | cons rule rules ih =>
      have step := read_from_setting r (rules.map ruleArgument ++ rest) .rule (ruleArgument rule) rule _ rfl rfl
      rw [List.map_cons, List.cons_append, step, ih]
      simp

end

theorem parse_options (rules : List Text) (optional : Bool) (rest : List Text) :
    parse (optionArguments rules optional ++ rest) = readFrom { rules, optional } none rest := by
  cases optional with
  | false => exact read_from_rules {} rest rules
  | true =>
      have step := read_from_flag {} (rules.map ruleArgument ++ rest) .optional "--optional".toList
        { optional := true } (by decide) rfl
      exact step.trans (read_from_rules { optional := true } rest rules)

theorem asks_options (rules : List Text) (optional : Bool) (values : List Text) :
    Asks (optionArguments rules optional ++ endOfOptions :: values) (.replace (.options rules optional) values) := by
  refine ⟨0, ?_⟩
  rw [parse_options, read_from_end_of_options]
  rfl

theorem asks_selection (path name : Text) (values : List Text) (named : path ≠ []) :
    Asks (selectionArguments path name ++ endOfOptions :: values) (.replace (.config path name) values) := by
  refine ⟨0, ?_⟩
  have file : Request.set {} .config path = .ok { config := some path } := by simp [Request.set, named]
  rw [parse, selectionArguments, List.cons_append,
    read_from_setting {} _ .config _ path { config := some path } rfl file, List.singleton_append,
    read_from_setting _ _ .name _ name { config := some path, name := some name } rfl rfl,
    read_from_end_of_options]
  rfl

end WildcardRules.CommandLine
