import WildcardRules.Toml.Expression

set_option autoImplicit false

namespace WildcardRules.Toml

inductive Error where
  | malformedLine (number : Nat)
  | conflictingDefinitions
  | unexpectedShape
deriving DecidableEq

def Error.message : Error → Text
  | .malformedLine number => "TOML parse error at line ".toList ++ Text.ofNat number
  | .conflictingDefinitions => "TOML parse error at a key that is defined already".toList
  | .unexpectedShape => "TOML parse error at a value of another kind".toList

structure Section where
  isElement : Bool
  name : KeyPath
  assignments : List Assignment

structure Document where
  assignments : List Assignment
  sections : List Section

namespace Document

def prepend : Expression → Document → Document
  | .assignment assignment, d => ⟨assignment :: d.assignments, d.sections⟩
  | .tableHeader name, d => ⟨[], ⟨false, name, d.assignments⟩ :: d.sections⟩
  | .elementHeader name, d => ⟨[], ⟨true, name, d.assignments⟩ :: d.sections⟩

def ofExpressions (expressions : List Expression) : Document :=
  expressions.foldr prepend ⟨[], []⟩

def addSection (entries : Entries) (s : Section) : Option Entries :=
  if s.isElement then entries.addElement s.name s.assignments
  else entries.addTable s.name s.assignments

def entries? (d : Document) : Option Entries := do
  d.sections.foldlM addSection (← Entries.assignAll [] d.assignments)

end Document

def line : Reader (Option Expression) := do
  blanks
  let next ← Reader.peek
  if next.isNone || next == some '#' || next == some '\n' || next == some '\r' then
    restOfLine
    return none
  else
    let found ← expression
    restOfLine
    return some found

-- Reads lines up to the end of a text. Where a line is malformed, the text from that line on is
-- the error. Every line takes a character, so the text itself bounds their number.
def readLines : (bound : Text) → Text → Except Text (List Expression)
  | _, [] => .ok []
  | [], c :: t => .error (c :: t)
  | _ :: bound, c :: t =>
      match line (c :: t) with
      | none => .error (c :: t)
      | some (found, rest) => do
          let expressions ← readLines bound rest
          return found.toList ++ expressions

def withoutMark : Text → Text
  | c :: t => if c.toNat = 0xFEFF then t else c :: t
  | [] => []

def lineNumber (t rest : Text) : Nat := t.count '\n' - rest.count '\n' + 1

def expressions (t : Text) : Except Error (List Expression) :=
  let body := withoutMark t
  match readLines body body with
  | .ok expressions => .ok expressions
  | .error rest => .error (.malformedLine (lineNumber body rest))

def parse (t : Text) : Except Error (List (Text × Value)) := do
  match (Document.ofExpressions (← expressions t)).entries? with
  | some entries => return entriesToValues entries
  | none => .error .conflictingDefinitions

end WildcardRules.Toml
