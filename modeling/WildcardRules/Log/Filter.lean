import WildcardRules.Log
import WildcardRules.Regex.Meaning

/-!
Which events are logged. A filter is a list of directives, each with the most talkative level it
lets through for a scope of targets; of the directives that concern a target, the one with the
longest scope decides.
-/

set_option autoImplicit false

namespace WildcardRules.Log

structure Directive where
  scope : Option Text
  level : Option Level
deriving DecidableEq

structure Filter where
  directives : List Directive
  wanted : Option Regex := none

namespace Directive

def concerns (d : Directive) (target : Text) : Bool :=
  match d.scope with
  | none => true
  | some scope => scope.isPrefixOf target

def length (d : Directive) : Nat := (d.scope.getD []).length

end Directive

namespace Filter

def levelOf : Nat → Level
  | 0 => .warn
  | 1 => .info
  | 2 => .debug
  | _ => .trace

def ofVerbosity (requests : Nat) : Filter := { directives := [⟨none, some (levelOf requests)⟩] }

-- The directive that decides about a target: the longest one that concerns it, and of several as
-- long as that the last.
def deciding (directives : List Directive) (target : Text) : Option Directive :=
  directives.foldl (fun found d =>
    if d.concerns target && found.all (fun e : Directive => e.length ≤ d.length) then some d
    else found) none

def lets (d : Option Directive) (level : Level) : Bool :=
  match d with
  | some ⟨_, some most⟩ => level.rank ≤ most.rank
  | _ => false

def admits (f : Filter) (e : Event) : Bool :=
  lets (deciding f.directives e.target) e.level && f.wanted.all fun r => r.isMatch e.message

def levelWord? (word : Text) : Option (Option Level) :=
  let lower := word.map Char.toLower
  if lower = "off".toList then some none
  else if lower = "error".toList then some (some .error)
  else if lower = "warn".toList then some (some .warn)
  else if lower = "info".toList then some (some .info)
  else if lower = "debug".toList then some (some .debug)
  else if lower = "trace".toList then some (some .trace)
  else none

def directive (part : Text) : Except Text Directive :=
  match part.splitOn '=' with
  | [word] =>
      match levelWord? word with
      | some level => .ok ⟨none, level⟩
      | none => .ok ⟨some word, some .trace⟩
  | [scope, written] =>
      let word := Text.trim written
      if word.isEmpty then .ok ⟨some scope, some .trace⟩
      else
        match levelWord? word with
        | some level => .ok ⟨some scope, level⟩
        | none => .error word
  | _ => .error part

def adding (d : Directive) : List Directive → List Directive
  | [] => [d]
  | old :: rest => if old.scope = d.scope then d :: rest else old :: adding d rest

def warning (message : Text) : Text :=
  "warning: ".toList ++ message ++ ", ignoring it\n".toList

def badPart (part remark : Text) : Text :=
  warning ("invalid logging spec '".toList ++ part ++ "'".toList ++ remark)

def parseList (list : Text) : List Directive × List Text :=
  let parts := ((list.splitOn ',').map Text.trim).filter fun part => !part.isEmpty
  parts.foldl (fun found part =>
    match directive part with
    | .ok d => (adding d found.1, found.2)
    | .error bad => (found.1, found.2 ++ [badPart bad []])) ([], [])

def orErrors (directives : List Directive) : List Directive :=
  if directives.isEmpty then [⟨none, some .error⟩] else directives

def badExpression (remark : Text) : Text := warning ("invalid regex filter - ".toList ++ remark)

def wantedOf (written : Text) : Option Regex × List Text :=
  match Regex.ofText written with
  | .ok r =>
      if r.size ≤ Regex.sizeLimit then (some r, []) else (none, [badExpression Regex.tooLarge])
  | .error fault => (none, [badExpression (fault.report written)])

def ofSpecification (specification : Text) : Filter × List Text :=
  match specification.splitOn '/' with
  | [list] => ({ directives := orErrors (parseList list).1 }, (parseList list).2)
  | [list, written] =>
      ({ directives := orErrors (parseList list).1, wanted := (wantedOf written).1 },
        (parseList list).2 ++ (wantedOf written).2)
  | _ =>
      ({ directives := orErrors [] }, [badPart specification " (too many '/'s)".toList])

end Filter

end WildcardRules.Log
