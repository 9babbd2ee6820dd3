import WildcardRules.Proofs.Captures

set_option autoImplicit false

namespace WildcardRules.Template

def expand (literal : Text) (rest : Text → Option (List Text)) : Text → Option (Text × List Text)
  | [] => ((literal.isPrefixOf? []).bind rest).map fun captures => ([], captures)
  | c :: t =>
      match (literal.isPrefixOf? (c :: t)).bind rest with
      | some captures => some ([], captures)
      | none =>
          if c = '\n' then none
          else (expand literal rest t).map fun found => (c :: found.1, found.2)

def backtrack : List Text → Text → Option (List Text)
  | [], t => if t = [] then some [] else none
  | literal :: literals, t =>
      (expand literal (backtrack literals) t).map fun found => found.1 :: found.2

def backtracked? (t : Template) (value : Text) : Option (List Text) :=
  (t.head.isPrefixOf? value).bind (backtrack t.tail)

section

variable (literal : Text) (rest : Text → Option (List Text))

theorem expand_here (t : Text) (captures : List Text)
    (succeeds : (literal.isPrefixOf? t).bind rest = some captures) :
    expand literal rest t = some ([], captures) := by
  cases t with
  | nil => simp [expand, succeeds]
  | cons c t => simp [expand, succeeds]

theorem expand_later (c : Char) (t : Text) (fails : (literal.isPrefixOf? (c :: t)).bind rest = none)
    (inline : c ≠ '\n') :
    expand literal rest (c :: t) = (expand literal rest t).map fun found => (c :: found.1, found.2) := by
  rw [expand, fails]
  simp [inline]

theorem expand_sound (t capture : Text) (captures : List Text)
    (found : expand literal rest t = some (capture, captures)) :
    ∃ after, t = capture ++ (literal ++ after) ∧ capture.OneLine ∧ rest after = some captures := by
  induction t generalizing capture with
  | nil =>
      simp only [expand, Option.map_eq_some_iff, Option.bind_eq_some_iff,
        List.isPrefixOf?_eq_some_iff_append_eq, Prod.mk.injEq] at found
      obtain ⟨_, ⟨after, whole, succeeds⟩, rfl, rfl⟩ := found
      exact ⟨after, whole.symm, by simp [Text.OneLine], succeeds⟩
  | cons c t ih =>
      cases here : (literal.isPrefixOf? (c :: t)).bind rest with
      | some made =>
          rw [expand_here literal rest (c :: t) made here] at found
          obtain ⟨rfl, rfl⟩ := Prod.mk.inj (Option.some.inj found)
          obtain ⟨after, starts, succeeds⟩ := Option.bind_eq_some_iff.1 here
          exact ⟨after, (List.isPrefixOf?_eq_some_iff_append_eq.1 starts).symm, by simp [Text.OneLine],
            succeeds⟩
      | none =>
          by_cases broken : c = '\n'
          · rw [expand, here] at found
            simp [broken] at found
          · rw [expand_later literal rest c t here broken] at found
            simp only [Option.map_eq_some_iff, Prod.exists, Prod.mk.injEq] at found
            obtain ⟨shorter, made, inner, rfl, rfl⟩ := found
            obtain ⟨after, whole, inline, succeeds⟩ := ih shorter inner
            refine ⟨after, by simp [whole], ?_, succeeds⟩
            simp only [Text.OneLine, List.mem_cons, not_or] at inline ⊢
            exact ⟨Ne.symm broken, inline⟩

theorem expand_complete (capture after : Text) (captures : List Text) (inline : capture.OneLine)
    (succeeds : rest after = some captures) :
    ∃ found made, expand literal rest (capture ++ (literal ++ after)) = some (found, made) ∧
      (found.length < capture.length ∨ found = capture ∧ made = captures) := by
  induction capture with
  | nil =>
      have starts : literal.isPrefixOf? (literal ++ after) = some after := List.isPrefixOf?_eq_some_iff_append_eq.2 rfl
      exact ⟨[], captures, expand_here literal rest _ captures (by simp [starts, succeeds]), .inr ⟨rfl, rfl⟩⟩
  | cons c capture ih =>
      cases here : (literal.isPrefixOf? (c :: (capture ++ (literal ++ after)))).bind rest with
      | some made => exact ⟨[], made, expand_here literal rest _ made here, .inl (by simp)⟩
      | none =>
          simp only [Text.OneLine, List.mem_cons, not_or] at inline
          obtain ⟨found, made, expanded, order⟩ := ih inline.2
          refine ⟨c :: found, made, ?_, ?_⟩
          · rw [List.cons_append, expand_later literal rest c _ here (Ne.symm inline.1), expanded]
            rfl
          · rcases order with less | ⟨rfl, rfl⟩
            · exact .inl (by simpa using less)
            · exact .inr ⟨rfl, rfl⟩

end

theorem backtrack_sound (literals : List Text) (t : Text) (captures : List Text)
    (found : backtrack literals t = some captures) :
    captures.length = literals.length ∧ (∀ c ∈ captures, c.OneLine) ∧
      t = interleave captures literals := by
  induction literals generalizing t captures with
  | nil =>
      simp only [backtrack, Option.ite_none_right_eq_some, Option.some.injEq] at found
      obtain ⟨rfl, rfl⟩ := found
      exact ⟨rfl, by simp, rfl⟩
  | cons literal literals ih =>
      simp only [backtrack, Option.map_eq_some_iff, Prod.exists] at found
      obtain ⟨capture, made, expanded, rfl⟩ := found
      obtain ⟨after, whole, inline, succeeds⟩ := expand_sound literal _ t capture made expanded
      obtain ⟨count, oneLine, filled⟩ := ih after made succeeds
      refine ⟨by simp [count], ?_, by rw [whole, filled, interleave]⟩
      intro c member
      rcases List.mem_cons.1 member with rfl | later
      · exact inline
      · exact oneLine c later

-- The induction is on the literals and the captures. What the search makes of the rest is shorter than the captures there,
-- and before it gives up the first capture for a longer one, it has tried this one with that rest.
theorem backtrack_complete (literals captures : List Text) (count : captures.length = literals.length)
    (oneLine : ∀ c ∈ captures, c.OneLine) :
    ∃ found, backtrack literals (interleave captures literals) = some found ∧
      (found = captures ∨ Shorter found captures) := by
  induction captures, literals, count using paired_induction with
  | nil => exact ⟨[], by simp [backtrack, interleave], .inl rfl⟩
  | cons capture captures literal literals count ih =>
      have restOneLine : ∀ c ∈ captures, c.OneLine := fun c member => oneLine c (by simp [member])
      obtain ⟨rest, succeeds, restOrder⟩ := ih restOneLine
      obtain ⟨first, made, expanded, order⟩ := expand_complete literal (backtrack literals) capture
        (interleave captures literals) rest (oneLine capture (by simp)) succeeds
      refine ⟨first :: made, by simp [backtrack, interleave, expanded], ?_⟩
      rcases order with less | ⟨rfl, rfl⟩
      · exact .inr (.rel less)
      · rcases restOrder with rfl | shorter
        · exact .inl rfl
        · exact .inr (.cons shorter)

variable (t : Template) (value : Text)

theorem backtracked_eq_some_iff (captures : List Text) :
    t.backtracked? value = some captures ↔ t.Shortest value captures := by
  apply search_eq_some_iff
  · intro found searched
    obtain ⟨rest, starts, succeeds⟩ := Option.bind_eq_some_iff.1 searched
    obtain ⟨count, oneLine, filled⟩ := backtrack_sound t.tail rest found succeeds
    refine ⟨count, oneLine, ?_⟩
    rw [← List.isPrefixOf?_eq_some_iff_append_eq.1 starts, filled, fill]
  · intro other fits
    obtain ⟨found, succeeds, order⟩ := backtrack_complete t.tail other fits.count fits.oneLine
    have starts := List.isPrefixOf?_eq_some_iff_append_eq.2 fits.filled.symm
    exact ⟨found, by simp [backtracked?, starts, succeeds], order⟩

theorem captures_eq_backtracked : t.captures? value = t.backtracked? value := by
  apply Option.ext
  intro captures
  exact (captures_eq_some_iff t value captures).trans (backtracked_eq_some_iff t value captures).symm

end WildcardRules.Template
