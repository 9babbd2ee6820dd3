import WildcardRules.Proofs.Filling
import WildcardRules.Proofs.Placement

/-!
The captures that a template finds on a value. They are the shortest there are, where an earlier
capture counts for more than all later ones, and some are found whenever the value has the form of
the template at all.
-/

set_option autoImplicit false

namespace WildcardRules

namespace Text

-- A literal that also stands earlier leaves as much behind it as there was before it. Counting line
-- breaks on both sides shows that none of them gets behind the literal, even if it holds some itself.
theorem occurrence_shift (before literal rest after : Text) (inline : before.OneLine)
    (same : literal ++ after = before ++ (literal ++ rest)) :
    ∃ slipped : Text, slipped.OneLine ∧ slipped.length = before.length ∧ after = slipped ++ rest := by
  have shared : ∃ slipped, before ++ literal = literal ++ slipped ∧ after = slipped ++ rest := by
    rw [← List.append_assoc] at same
    rcases List.append_eq_append_iff.1 same with found | ⟨extra, longer, restEq⟩
    · exact found
    · have lengths := congrArg List.length longer
      simp only [List.length_append] at lengths
      have noBefore : before = [] := List.eq_nil_of_length_eq_zero (by omega)
      have noExtra : extra = [] := List.eq_nil_of_length_eq_zero (by omega)
      exact ⟨[], by simp [noBefore], by simp [restEq, noExtra]⟩
  obtain ⟨slipped, whole, afterEq⟩ := shared
  refine ⟨slipped, ?_, ?_, afterEq⟩
  · have breaks := congrArg (List.count '\n') whole
    have none : before.count '\n' = 0 := List.count_eq_zero.2 inline
    simp only [List.count_append] at breaks
    exact List.count_eq_zero.1 (by omega)
  · have lengths := congrArg List.length whole
    simp only [List.length_append] at lengths
    omega

theorem cut_here (t literal after : Text) (starts : literal.isPrefixOf? t = some after) :
    t.cut? literal = some ([], after) := by
  cases t with
  | nil => simp [cut?, starts]
  | cons c t => simp [cut?, starts]

theorem cut_later (c : Char) (t literal : Text) (here : literal.isPrefixOf? (c :: t) = none)
    (inline : c ≠ '\n') :
    cut? (c :: t) literal = (t.cut? literal).map fun halves => (c :: halves.1, halves.2) := by
  rw [cut?, here]
  simp [inline]

theorem cut_earliest (before literal rest : Text) (inline : before.OneLine) :
    ∃ earliest slipped : Text, slipped.OneLine ∧
      earliest.length + slipped.length = before.length ∧
      (before ++ (literal ++ rest)).cut? literal = some (earliest, slipped ++ rest) := by
  induction before with
  | nil =>
      have starts : literal.isPrefixOf? (literal ++ rest) = some rest := List.isPrefixOf?_eq_some_iff_append_eq.2 rfl
      exact ⟨[], [], by simp [OneLine], rfl, cut_here _ _ _ starts⟩
  | cons c before ih =>
      cases here : literal.isPrefixOf? (c :: (before ++ (literal ++ rest))) with
      | some after =>
          have same := List.isPrefixOf?_eq_some_iff_append_eq.1 here
          obtain ⟨slipped, slippedInline, lengths, afterEq⟩ :=
            occurrence_shift (c :: before) literal rest after inline same
          exact ⟨[], slipped, slippedInline, by simp [lengths], by rw [← afterEq]; exact cut_here _ _ _ here⟩
      | none =>
          simp only [OneLine, List.mem_cons, not_or] at inline
          obtain ⟨earliest, slipped, slippedInline, lengths, found⟩ := ih inline.2
          refine ⟨c :: earliest, slipped, slippedInline, ?_, ?_⟩
          · simp only [List.length_cons]
            omega
          · rw [List.cons_append, cut_later c (before ++ (literal ++ rest)) literal here (Ne.symm inline.1),
              found]
            rfl

theorem one_line_append (t u : Text) (first : t.OneLine) (second : u.OneLine) :
    (t ++ u).OneLine := by
  simp only [OneLine, List.mem_append, not_or]
  exact ⟨first, second⟩

end Text

namespace Template

def Shorter (captures other : List Text) : Prop :=
  List.Lex (· < ·) (captures.map List.length) (other.map List.length)

structure Shortest (t : Template) (value : Text) (captures : List Text) : Prop where
  fits : t.Fits value captures
  least : ∀ other, t.Fits value other → other ≠ captures → Shorter captures other

theorem shorter_asymm (captures other : List Text) (shorter : Shorter captures other) :
    ¬ Shorter other captures := by
  exact List.lt_asymm (α := Nat) shorter

theorem place_next (literal next t before after : Text) (literals rest : List Text)
    (found : t.cut? literal = some (before, after)) (placed : place? (next :: literals) after = some rest) :
    place? (literal :: next :: literals) t = some (before :: rest) := by
  simp [place?, found, placed]

theorem interleave_slipped (slipped capture literal : Text) (captures literals : List Text) :
    interleave ((slipped ++ capture) :: captures) (literal :: literals) =
      slipped ++ interleave (capture :: captures) (literal :: literals) := by
  simp [interleave]

-- The induction is on the literals, and the captures vary: where a literal is placed early, what slips
-- behind it goes to the next capture, and the later literals are placed on the longer rest.
theorem place_complete (literals captures : List Text) (count : captures.length = literals.length)
    (oneLine : ∀ c ∈ captures, c.OneLine) :
    ∃ found, place? literals (interleave captures literals) = some found ∧
      (found = captures ∨ Shorter found captures) := by
  induction literals generalizing captures with
  | nil =>
      have none : captures = [] := List.eq_nil_of_length_eq_zero count
      exact ⟨[], by simp [place?, interleave], .inl none.symm⟩
  | cons literal literals ih =>
      obtain ⟨capture, captures, rfl⟩ := List.exists_cons_of_length_eq_add_one count
      have inline : capture.OneLine := oneLine capture (by simp)
      have restOneLine : ∀ c ∈ captures, c.OneLine := fun c member => oneLine c (by simp [member])
      have restCount : captures.length = literals.length := by simpa using count
      cases literals with
      | nil =>
          have none : captures = [] := List.eq_nil_of_length_eq_zero restCount
          have ends := (Text.cut_end_eq_some_iff (capture ++ literal) literal capture).2 ⟨rfl, inline⟩
          exact ⟨[capture], by simp [place?, interleave, ends], .inl (by rw [none])⟩
      | cons next literals =>
          obtain ⟨earliest, slipped, slippedInline, lengths, found⟩ :=
            Text.cut_earliest capture literal (interleave captures (next :: literals)) inline
          by_cases still : slipped = []
          · subst still
            obtain ⟨same, -⟩ := Text.cut_eq_some _ _ _ _ found
            have earliestEq : earliest = capture := (List.append_cancel_right same).symm
            obtain ⟨rest, placed, order⟩ := ih captures restCount restOneLine
            refine ⟨earliest :: rest, place_next _ _ _ _ _ _ _ found placed, ?_⟩
            rw [earliestEq]
            rcases order with rfl | shorter
            · exact .inl rfl
            · exact .inr (.cons shorter)
          · obtain ⟨second, captures, rfl⟩ := List.exists_cons_of_length_eq_add_one restCount
            have slippedOneLine : ∀ c ∈ (slipped ++ second) :: captures, c.OneLine := by
              intro c member
              rcases List.mem_cons.1 member with rfl | later
              · exact Text.one_line_append _ _ slippedInline (restOneLine second (by simp))
              · exact restOneLine c (by simp [later])
            obtain ⟨rest, placed, -⟩ := ih ((slipped ++ second) :: captures) restCount slippedOneLine
            rw [interleave_slipped] at placed
            refine ⟨earliest :: rest, place_next _ _ _ _ _ _ _ found placed, .inr (.rel ?_)⟩
            have moved : slipped.length ≠ 0 := fun none => still (List.eq_nil_of_length_eq_zero none)
            omega

variable (t : Template) (value : Text)

theorem captures_of_fits (captures : List Text) (fits : t.Fits value captures) :
    ∃ found, t.captures? value = some found ∧ (found = captures ∨ Shorter found captures) := by
  obtain ⟨found, placed, order⟩ := place_complete t.tail captures fits.count fits.oneLine
  exact ⟨found, (captures_some_iff_placed t value found).2 ⟨_, fits.filled, placed⟩, order⟩

theorem search_eq_some_iff (search : Option (List Text)) (captures : List Text)
    (sound : ∀ found, search = some found → t.Fits value found)
    (complete : ∀ other, t.Fits value other →
      ∃ found, search = some found ∧ (found = other ∨ Shorter found other)) :
    search = some captures ↔ t.Shortest value captures := by
  constructor
  · intro found
    refine ⟨sound captures found, ?_⟩
    intro other fits different
    obtain ⟨first, foundFirst, order⟩ := complete other fits
    have same : first = captures := Option.some.inj (foundFirst.symm.trans found)
    rcases order with rfl | shorter
    · exact absurd same different
    · rwa [same] at shorter
  · intro shortest
    obtain ⟨first, foundFirst, order⟩ := complete captures shortest.fits
    by_cases same : first = captures
    · rw [foundFirst, same]
    · rcases order with equal | shorter
      · exact absurd equal same
      · exact absurd shorter (shorter_asymm _ _ (shortest.least first (sound first foundFirst) same))

theorem captures_eq_some_iff (captures : List Text) :
    t.captures? value = some captures ↔ t.Shortest value captures :=
  search_eq_some_iff t value (t.captures? value) captures (fits_of_captures t value)
    (captures_of_fits t value)

theorem empty_shorter (count : Nat) (other : List Text) (sameCount : other.length = count)
    (different : other ≠ List.replicate count []) : Shorter (List.replicate count []) other := by
  induction count generalizing other with
  | zero => exact absurd (List.eq_nil_of_length_eq_zero sameCount) different
  | succ n ih =>
      obtain ⟨capture, rest, rfl⟩ := List.exists_cons_of_length_eq_add_one sameCount
      cases capture with
      | nil =>
          refine .cons (ih rest (by simpa using sameCount) ?_)
          intro same
          subst same
          exact different rfl
      | cons c capture => exact .rel (by simp)

theorem literals_shortest : t.Shortest t.literals.flatten (List.replicate t.stars []) := by
  refine ⟨⟨by simp, ?_, (fill_replicate_nil t).symm⟩, ?_⟩
  · intro c member
    rw [List.eq_of_mem_replicate member]
    simp [Text.OneLine]
  · intro other fits different
    exact empty_shorter t.stars other fits.count different

theorem captures_is_some_iff : (t.captures? value).isSome ↔ ∃ captures, t.Fits value captures := by
  constructor
  · intro found
    obtain ⟨captures, foundEq⟩ := Option.isSome_iff_exists.1 found
    exact ⟨captures, fits_of_captures t value captures foundEq⟩
  · intro fitting
    obtain ⟨captures, fits⟩ := fitting
    obtain ⟨found, foundEq, -⟩ := captures_of_fits t value captures fits
    exact Option.isSome_iff_exists.2 ⟨found, foundEq⟩

end Template

end WildcardRules
