import WildcardRules.Proofs.Compilation

set_option autoImplicit false

namespace WildcardRules

def Text.Guarded (t : Text) : Prop := ∀ before after, t = before ++ ':' :: after → before.getLast? = some '\\'

theorem Text.guarded_of_plain (t : Text) (plain : ':' ∉ t) : t.Guarded := by
  intro before after whole
  have present : ':' ∈ t := by simp [whole]
  exact absurd present plain

theorem Text.guarded_append (t u : Text) (first : t.Guarded) (second : u.Guarded) : (t ++ u).Guarded := by
  intro before after whole
  rcases List.append_eq_append_iff.1 whole with ⟨extra, longer, rest⟩ | ⟨extra, longer, rest⟩
  · have guard := second extra after rest
    rw [longer, List.getLast?_append, guard]
    rfl
  · cases extra with
    | nil =>
        have guard := second [] after rest.symm
        cases guard
    | cons c extra =>
        have colon : c = ':' := (List.cons.inj rest).1.symm
        exact first before extra (by rw [longer, colon])

namespace Template

theorem to_text_ends (t : Template) (starred : 1 ≤ t.stars) :
    ∃ before last, t.literals.getLast? = some last ∧ t.toText = before ++ '*' :: last := by
  obtain ⟨head, tail⟩ := t
  rcases List.eq_nil_or_concat tail with none | ⟨front, last, whole⟩
  · simp [stars, none] at starred
  · rw [List.concat_eq_append] at whole
    subst whole
    have count : (List.replicate front.length (['*'] : Text)).length = front.length := by simp
    have spelled := interleave_append (List.replicate front.length ['*']) [['*']] front [last] count
    rw [← List.replicate_succ'] at spelled
    refine ⟨head ++ interleave (List.replicate front.length ['*']) front, last, ?_, ?_⟩
    · exact List.getLast?_concat (l := head :: front)
    · simp [toText, fill, stars, spelled, interleave]

theorem to_text_unguarding (t : Template) (starred : 1 ≤ t.stars)
    (unguarding : ∀ last, t.literals.getLast? = some last → last.getLast? ≠ some '\\') :
    t.toText ≠ [] ∧ t.toText.getLast? ≠ some '\\' := by
  obtain ⟨before, last, ends, whole⟩ := to_text_ends t starred
  have own := unguarding last ends
  have final : (before ++ '*' :: last).getLast? = ('*' :: last).getLast? := by
    rw [List.getLast?_append, List.getLast?_cons]
    rfl
  rw [whole, final]
  refine ⟨by simp, ?_⟩
  cases last with
  | nil => simp
  | cons c last =>
      rw [List.getLast?_cons_cons]
      exact own

end Template

namespace Rule

open Pattern

variable (source : Template) (target : Text)

theorem is_source_of_guarded (starred : 1 ≤ source.stars)
    (unguarding : ∀ last, source.literals.getLast? = some last → last.getLast? ≠ some '\\')
    (guarded : source.toText.Guarded) : IsSource source.toText := by
  obtain ⟨nonempty, plain⟩ := Template.to_text_unguarding source starred unguarding
  exact ⟨nonempty, plain, fun before after whole => .inr (guarded before after whole)⟩

theorem compile_written (count : Nat) (isSource : IsSource source.toText)
    (plain : ∀ literal ∈ source.literals, '*' ∉ literal) (something : target ≠ [])
    (starred : 1 ≤ source.stars) (small : WithinLimit source.toText)
    (counts : target.count '*' = 0 ∨ target.count '*' = source.stars) :
    compile (joined source.toText target) count =
      .ok ⟨joined source.toText target, .wildcard (source.mapLiterals readLiteral) (Template.ofText target)⟩ := by
  have spelled : Template.ofText source.toText = source := Template.of_text_to_text source plain
  have stars : source.toText.count '*' = source.stars := by rw [← Template.stars_of_text, spelled]
  have form : read (joined source.toText target) = .pair source.toText target :=
    read_joined source.toText target isSource something
  have compiled : Compiled (joined source.toText target) count ⟨joined source.toText target,
      .wildcard ((Template.ofText source.toText).mapLiterals readLiteral) (Template.ofText target)⟩ :=
    .wildcard source.toText target form (by omega) (by omega) small
  rw [spelled] at compiled
  exact compile_of_compiled _ count _ compiled

end Rule

end WildcardRules
