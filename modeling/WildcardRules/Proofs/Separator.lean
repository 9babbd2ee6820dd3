import WildcardRules.Pattern

set_option autoImplicit false

namespace WildcardRules.Pattern

structure Separates (p source target : Text) : Prop where
  whole : p = joined source target
  nonempty : source ≠ []
  unguarded : source.getLast? ≠ some '\\'

structure SeparatesFirst (p source target : Text) : Prop extends Separates p source target where
  first : ∀ s t, Separates p s t → source.length ≤ s.length

def Bare (p : Text) : Prop := (∀ s t, ¬ Separates p s t) ∨ ∃ s, SeparatesFirst p s []

-- A colon that is passed over has a backslash before it, be it the next character or a later one.
theorem guarded_of_passed (previous c : Char) (p before after : Text) (passed : ¬ (c = ':' ∧ previous ≠ '\\'))
    (whole : c :: p = before ++ ':' :: after)
    (later : ∀ earlier, p = earlier ++ ':' :: after → (c :: earlier).getLast? = some '\\') :
    (previous :: before).getLast? = some '\\' := by
  cases before with
  | nil =>
      have colon : c = ':' := (List.cons.inj whole).1
      have guard : previous = '\\' := Decidable.not_not.1 fun plain => passed ⟨colon, plain⟩
      simp [guard]
  | cons d before =>
      obtain ⟨rfl, tail⟩ := List.cons.inj whole
      rw [List.getLast?_cons_cons]
      exact later before tail

theorem split_after_none (previous : Char) (p before after : Text)
    (absent : splitAfter previous p = none) (whole : p = before ++ ':' :: after) :
    (previous :: before).getLast? = some '\\' := by
  induction p generalizing previous before with
  | nil => simp at whole
  | cons c p ih =>
      by_cases separates : c = ':' ∧ previous ≠ '\\'
      · simp [splitAfter, separates] at absent
      · have rest : splitAfter c p = none := by simpa [splitAfter, separates] using absent
        exact guarded_of_passed previous c p before after separates whole fun earlier => ih c earlier rest

theorem split_after_some (previous : Char) (p s t : Text) (found : splitAfter previous p = some (s, t)) :
    (previous :: s).getLast? ≠ some '\\' ∧
      ∀ before after, s = before ++ ':' :: after → (previous :: before).getLast? = some '\\' := by
  induction p generalizing previous s with
  | nil => simp [splitAfter] at found
  | cons c p ih =>
      rcases (split_after_cons_some_iff previous c p s t).1 found with
        ⟨separates, rfl, -⟩ | ⟨passed, rest, inner, rfl⟩
      · exact ⟨by simpa using separates.2, by simp⟩
      · obtain ⟨unguarding, guarded⟩ := ih c rest inner
        refine ⟨by rwa [List.getLast?_cons_cons], ?_⟩
        intro before after whole
        exact guarded_of_passed previous c rest before after passed whole fun earlier => guarded earlier after

theorem split_is_source (p s t : Text) (found : split? p = some (s, t)) : IsSource s := by
  cases p with
  | nil => simp [split?] at found
  | cons c p =>
      obtain ⟨rest, inner, rfl⟩ := (split_cons_some_iff c p s t).1 found
      obtain ⟨unguarding, guarded⟩ := split_after_some c p rest t inner
      refine ⟨by simp, unguarding, ?_⟩
      intro before after whole
      cases before with
      | nil => exact .inl rfl
      | cons d before =>
          obtain ⟨rfl, tail⟩ := List.cons.inj whole
          exact .inr (guarded before after tail)

theorem split_none_unseparated (p s t : Text) (absent : split? p = none) : ¬ Separates p s t := by
  intro separates
  obtain ⟨whole, nonempty, unguarded⟩ := separates
  cases s with
  | nil => exact nonempty rfl
  | cons c s =>
      subst whole
      have inner : splitAfter c (s ++ ':' :: t) = none := by
        simpa [joined, split?] using absent
      exact unguarded (split_after_none c _ s t inner rfl)

theorem source_shortest (source target s t : Text) (isSource : IsSource source)
    (separates : Separates (joined source target) s t) : source.length ≤ s.length := by
  obtain ⟨whole, nonempty, unguarded⟩ := separates
  rcases List.append_eq_append_iff.1 whole with ⟨extra, longer, -⟩ | ⟨extra, longer, restEq⟩
  · simp [longer]
  · cases extra with
    | nil => simp [longer]
    | cons c extra =>
        have colon : c = ':' := by simpa using (congrArg List.head? restEq).symm
        rcases isSource.guarded s extra (by rw [longer, colon]) with empty | guard
        · exact absurd empty nonempty
        · exact absurd guard unguarded

theorem is_source_of_first (p s t : Text) (first : SeparatesFirst p s t) : IsSource s := by
  refine ⟨first.nonempty, first.unguarded, ?_⟩
  intro before after split
  apply Classical.byContradiction
  intro unguarded
  obtain ⟨nonempty, plain⟩ := not_or.1 unguarded
  have earlier : Separates p before (after ++ ':' :: t) :=
    ⟨by rw [first.whole, split]; simp [joined], nonempty, plain⟩
  have bound := first.first _ _ earlier
  rw [split] at bound
  simp only [List.length_append, List.length_cons] at bound
  omega

theorem separates_first_iff (p s t : Text) :
    SeparatesFirst p s t ↔ p = joined s t ∧ IsSource s := by
  constructor
  · intro first
    exact ⟨first.whole, is_source_of_first p s t first⟩
  · intro both
    obtain ⟨rfl, isSource⟩ := both
    exact ⟨⟨rfl, isSource.nonempty, isSource.unguarding⟩,
      fun s' t' separates => source_shortest s t s' t' isSource separates⟩

theorem first_unique (p s t s' t' : Text) (one : SeparatesFirst p s t) (other : SeparatesFirst p s' t') :
    s = s' ∧ t = t' := by
  have lengths : s.length = s'.length :=
    Nat.le_antisymm (one.first _ _ other.toSeparates) (other.first _ _ one.toSeparates)
  have whole : s ++ ':' :: t = s' ++ ':' :: t' := one.whole.symm.trans other.whole
  obtain ⟨sources, targets⟩ := List.append_inj whole lengths
  exact ⟨sources, List.tail_eq_of_cons_eq targets⟩

theorem split_eq_some_iff (p s t : Text) : split? p = some (s, t) ↔ SeparatesFirst p s t := by
  constructor
  · intro found
    exact (separates_first_iff p s t).2 ⟨joined_of_split p s t found, split_is_source p s t found⟩
  · intro first
    cases found : split? p with
    | none => exact absurd first.toSeparates (split_none_unseparated p s t found)
    | some halves =>
        have other := (separates_first_iff p halves.1 halves.2).2
          ⟨joined_of_split p _ _ found, split_is_source p _ _ found⟩
        obtain ⟨rfl, rfl⟩ := first_unique p s t halves.1 halves.2 first other
        rfl

theorem split_eq_none_iff (p : Text) : split? p = none ↔ ∀ s t, ¬ Separates p s t := by
  constructor
  · intro absent s t
    exact split_none_unseparated p s t absent
  · intro unseparated
    cases found : split? p with
    | none => rfl
    | some halves =>
        have first := (split_eq_some_iff p halves.1 halves.2).1 found
        exact absurd first.toSeparates (unseparated _ _)

theorem bare_iff_read (p : Text) : Bare p ↔ ∃ value, read p = .bare value := by
  rw [Bare, ← split_eq_none_iff]
  simp only [← split_eq_some_iff, read]
  constructor
  · intro bare
    rcases bare with absent | ⟨source, found⟩
    · exact ⟨p, by simp [absent]⟩
    · exact ⟨source, by simp [found]⟩
  · intro reading
    obtain ⟨value, bare⟩ := reading
    split at bare
    · exact .inl (by assumption)
    · exact .inr ⟨_, by assumption⟩
    · simp at bare

theorem split_of_pair (p source target : Text) (pair : read p = .pair source target) :
    split? p = some (source, target) ∧ target ≠ [] := by
  rw [read] at pair
  split at pair
  · simp at pair
  · simp at pair
  · simp only [Form.pair.injEq] at pair
    obtain ⟨rfl, rfl⟩ := pair
    exact ⟨by assumption, by simp⟩

theorem read_of_split (p s target : Text) (found : split? p = some (s, target)) (something : target ≠ []) :
    read p = .pair s target := by
  cases target with
  | nil => exact False.elim (something rfl)
  | cons c target => rw [read, found]

theorem read_eq_pair_iff (p source target : Text) :
    read p = .pair source target ↔ ¬ Bare p ∧ SeparatesFirst p source target := by
  constructor
  · intro pair
    refine ⟨?_, (split_eq_some_iff p source target).1 (split_of_pair p source target pair).1⟩
    rw [bare_iff_read, pair]
    simp
  · intro both
    obtain ⟨notBare, first⟩ := both
    cases form : read p with
    | bare value => exact absurd ((bare_iff_read p).2 ⟨value, form⟩) notBare
    | pair s t =>
        have other := (split_eq_some_iff p s t).1 (split_of_pair p s t form).1
        obtain ⟨rfl, rfl⟩ := first_unique p s t source target other first
        rfl

theorem bare_value_nonempty (p value : Text) (nonempty : p ≠ []) (bare : read p = .bare value) :
    value ≠ [] := by
  rw [read] at bare
  split at bare
  · simp only [Form.bare.injEq] at bare
    rwa [← bare]
  · rename_i source found
    simp only [Form.bare.injEq] at bare
    rw [← bare]
    exact (split_is_source p source [] found).nonempty
  · simp at bare

theorem is_source_of_colonless (s : Text) (something : s ≠ []) (unguarding : s.getLast? ≠ some '\\')
    (colonless : ':' ∉ s) : IsSource s := by
  refine ⟨something, unguarding, ?_⟩
  intro before after whole
  exact absurd (by simp [whole]) colonless

theorem read_joined (s t : Text) (isSource : IsSource s) (something : t ≠ []) :
    read (joined s t) = .pair s t := by
  have first : SeparatesFirst (joined s t) s t := (separates_first_iff _ s t).2 ⟨rfl, isSource⟩
  have halves : split? (joined s t) = some (s, t) := (split_eq_some_iff _ s t).2 first
  exact read_of_split _ s t halves something

-- A colon inside a source is guarded or has nothing before it, so it would not have separated without
-- the one behind the source either.
theorem split_source (s : Text) (isSource : IsSource s) : split? s = none := by
  rw [split_eq_none_iff]
  intro before after separates
  rcases isSource.guarded before after separates.whole with leads | guard
  · exact separates.nonempty leads
  · exact separates.unguarded guard

theorem prefix_iff_joined (p s : Text) : s ++ [':'] <+: p ↔ ∃ t, p = joined s t := by
  constructor
  · intro leads
    obtain ⟨t, whole⟩ := leads
    exact ⟨t, by simp [← whole, joined]⟩
  · intro found
    obtain ⟨t, whole⟩ := found
    exact ⟨t, by simp [whole, joined]⟩

theorem split_eq_none_iff_sourceless (p : Text) :
    split? p = none ↔ ∀ s, IsSource s → ¬ s ++ [':'] <+: p := by
  constructor
  · intro absent s isSource leads
    obtain ⟨t, whole⟩ := (prefix_iff_joined p s).1 leads
    have first : SeparatesFirst p s t := (separates_first_iff p s t).2 ⟨whole, isSource⟩
    exact split_none_unseparated p s t absent first.toSeparates
  · intro sourceless
    cases found : split? p with
    | none => rfl
    | some halves =>
        have leads := (prefix_iff_joined p halves.1).2 ⟨halves.2, joined_of_split p _ _ found⟩
        exact absurd leads (sourceless halves.1 (split_is_source p _ _ found))

theorem split_accepts_sources :
    (∀ s t, split? (joined s t) = some (s, t) ↔ IsSource s) ∧
    (∀ p s t, split? p = some (s, t) → p = joined s t ∧ IsSource s ∧ split? s = none) ∧
    ∀ p, split? p = none ↔ ∀ s, IsSource s → ¬ s ++ [':'] <+: p := by
  refine ⟨?_, ?_, split_eq_none_iff_sourceless⟩
  · intro s t
    rw [split_eq_some_iff, separates_first_iff]
    exact and_iff_right rfl
  · intro p s t found
    have isSource := split_is_source p s t found
    exact ⟨joined_of_split p s t found, isSource, split_source s isSource⟩

theorem split_accepts_sources_leading :
    IsSource ":\\:é".toList ∧ split? ":\\:é".toList = none ∧
      split? (joined ":\\:é".toList ":b".toList) = some (":\\:é".toList, ":b".toList) ∧
      ¬ IsSource ":\\:é:".toList := by
  obtain ⟨accepts, parts, -⟩ := split_accepts_sources
  have found : split? ":\\:é::b".toList = some (":\\:é".toList, ":b".toList) := by decide
  obtain ⟨-, isSource, unseparated⟩ := parts _ _ _ found
  refine ⟨isSource, unseparated, (accepts _ _).2 isSource, ?_⟩
  intro longer
  have other : split? (joined ":\\:é:".toList "b".toList) = some (":\\:é:".toList, "b".toList) :=
    (accepts _ _).2 longer
  revert other
  decide

end WildcardRules.Pattern
