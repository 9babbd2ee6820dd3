import WildcardRules.Text

/-!
Patterns: the written form of one rule, either a bare value or a source and a target with a colon
between them. The first colon that is neither the first character nor follows a backslash separates.
-/

set_option autoImplicit false

namespace WildcardRules.Pattern

-- Splits at the first colon whose preceding character is no backslash; `previous` precedes the
-- text.
def splitAfter (previous : Char) : Text → Option (Text × Text)
  | [] => none
  | c :: t =>
      if c = ':' ∧ previous ≠ '\\' then some ([], t)
      else (splitAfter c t).map fun halves => (c :: halves.1, halves.2)

def split? : Text → Option (Text × Text)
  | [] => none
  | c :: t => (splitAfter c t).map fun halves => (c :: halves.1, halves.2)

def joined (source target : Text) : Text := source ++ ':' :: target

-- What can stand before the separator: a text with no colon that would separate earlier and no
-- backslash that would guard the separator itself.
structure IsSource (s : Text) : Prop where
  nonempty : s ≠ []
  unguarding : s.getLast? ≠ some '\\'
  guarded : ∀ before after, s = before ++ ':' :: after → before = [] ∨ before.getLast? = some '\\'

inductive Form where
  | bare (value : Text)
  | pair (source target : Text)
deriving DecidableEq

def read (p : Text) : Form :=
  match split? p with
  | none => .bare p
  | some (source, []) => .bare source
  | some (source, c :: target) => .pair source (c :: target)

theorem prepended_some_iff (c : Char) (split : Option (Text × Text)) (s t : Text) :
    (split.map fun halves => (c :: halves.1, halves.2)) = some (s, t) ↔
      ∃ rest, split = some (rest, t) ∧ s = c :: rest := by
  rw [Option.map_eq_some_iff]
  constructor
  · intro found
    obtain ⟨⟨rest, after⟩, inner, same⟩ := found
    cases same
    exact ⟨rest, inner, rfl⟩
  · intro found
    obtain ⟨rest, inner, rfl⟩ := found
    exact ⟨(rest, t), inner, rfl⟩

theorem split_after_cons_some_iff (previous c : Char) (p s t : Text) :
    splitAfter previous (c :: p) = some (s, t) ↔
      (c = ':' ∧ previous ≠ '\\') ∧ s = [] ∧ t = p ∨
      ¬ (c = ':' ∧ previous ≠ '\\') ∧ ∃ rest, splitAfter c p = some (rest, t) ∧ s = c :: rest := by
  by_cases separates : c = ':' ∧ previous ≠ '\\'
  · simp [splitAfter, separates, eq_comm]
  · rw [splitAfter, if_neg separates, prepended_some_iff]
    simp [separates]

theorem split_cons_some_iff (c : Char) (p s t : Text) :
    split? (c :: p) = some (s, t) ↔ ∃ rest, splitAfter c p = some (rest, t) ∧ s = c :: rest :=
  prepended_some_iff c (splitAfter c p) s t

theorem joined_of_split_after (previous : Char) (p s t : Text)
    (found : splitAfter previous p = some (s, t)) : p = joined s t := by
  induction p generalizing previous s with
  | nil => simp [splitAfter] at found
  | cons c p ih =>
      rcases (split_after_cons_some_iff previous c p s t).1 found with
        ⟨separates, rfl, rfl⟩ | ⟨-, rest, inner, rfl⟩
      · rw [separates.1]
        rfl
      · rw [ih c rest inner]
        rfl

theorem joined_of_split (p s t : Text) (found : split? p = some (s, t)) : p = joined s t := by
  cases p with
  | nil => simp [split?] at found
  | cons c p =>
      obtain ⟨rest, inner, rfl⟩ := (split_cons_some_iff c p s t).1 found
      rw [joined_of_split_after c p rest t inner]
      rfl

end WildcardRules.Pattern
