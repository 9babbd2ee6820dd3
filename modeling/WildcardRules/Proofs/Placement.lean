import WildcardRules.Template.Placement
import Mathlib.Data.List.Basic

set_option autoImplicit false

namespace WildcardRules

namespace Text

theorem cut_eq_some (t literal before after : Text)
    (found : t.cut? literal = some (before, after)) :
    t = before ++ (literal ++ after) ∧ before.OneLine := by
  induction t generalizing before with
  | nil =>
      simp only [cut?, Option.map_eq_some_iff, List.isPrefixOf?_eq_some_iff_append_eq, Prod.mk.injEq] at found
      obtain ⟨rest, same, rfl, rfl⟩ := found
      exact ⟨same.symm, by simp [OneLine]⟩
  | cons c t ih =>
      unfold cut? at found
      split at found
      · rename_i rest here
        simp only [Option.some.injEq, Prod.mk.injEq] at found
        obtain ⟨rfl, rfl⟩ := found
        exact ⟨(List.isPrefixOf?_eq_some_iff_append_eq.1 here).symm, by simp [OneLine]⟩
      · split at found
        · simp at found
        · rename_i inline
          simp only [Option.map_eq_some_iff, Prod.exists, Prod.mk.injEq] at found
          obtain ⟨before', after', inner, rfl, rfl⟩ := found
          obtain ⟨same, oneLine⟩ := ih before' inner
          refine ⟨by simp [same], ?_⟩
          simp only [OneLine, List.mem_cons, not_or] at oneLine ⊢
          exact ⟨fun h => inline h.symm, oneLine⟩

theorem cut_end_eq_some_iff (t literal before : Text) :
    t.cutEnd? literal = some before ↔ t = before ++ literal ∧ before.OneLine := by
  simp only [cutEnd?, Option.bind_eq_some_iff, List.isSuffixOf?_eq_some_iff_append_eq,
    Option.ite_none_right_eq_some, Option.some.injEq]
  constructor
  · intro found
    obtain ⟨rest, same, inline, rfl⟩ := found
    exact ⟨same.symm, inline⟩
  · intro both
    obtain ⟨same, inline⟩ := both
    exact ⟨before, same.symm, inline, rfl⟩

end Text

namespace Template

theorem place_sound (literals : List Text) (t : Text) (captures : List Text)
    (placed : place? literals t = some captures) :
    captures.length = literals.length ∧ (∀ c ∈ captures, c.OneLine) ∧
      t = interleave captures literals := by
  induction literals generalizing t captures with
  | nil =>
      simp only [place?, Option.ite_none_right_eq_some, Option.some.injEq] at placed
      obtain ⟨rfl, rfl⟩ := placed
      exact ⟨rfl, by simp, rfl⟩
  | cons literal literals ih =>
      cases literals with
      | nil =>
          simp only [place?, Option.map_eq_some_iff, Text.cut_end_eq_some_iff] at placed
          obtain ⟨capture, ⟨rfl, inline⟩, rfl⟩ := placed
          exact ⟨rfl, by simpa using inline, by simp [interleave]⟩
      | cons next literals =>
          simp only [place?, Option.bind_eq_some_iff, Option.map_eq_some_iff, Prod.exists] at placed
          obtain ⟨before, after, found, captures', inner, rfl⟩ := placed
          obtain ⟨same, inline⟩ := Text.cut_eq_some _ _ _ _ found
          obtain ⟨count, oneLine, filled⟩ := ih after captures' inner
          refine ⟨by simp [count], ?_, ?_⟩
          · intro c member
            rcases List.mem_cons.1 member with rfl | later
            · exact inline
            · exact oneLine c later
          · rw [same, filled]
            rfl

theorem captures_some_iff_placed (t : Template) (value : Text) (captures : List Text) :
    t.captures? value = some captures ↔
      ∃ rest, value = t.head ++ rest ∧ place? t.tail rest = some captures := by
  simp only [captures?, Option.bind_eq_some_iff, List.isPrefixOf?_eq_some_iff_append_eq,
    eq_comm (a := value)]

theorem fits_of_captures (t : Template) (value : Text) (captures : List Text)
    (found : t.captures? value = some captures) : t.Fits value captures := by
  obtain ⟨rest, same, placed⟩ := (captures_some_iff_placed t value captures).1 found
  obtain ⟨count, oneLine, filled⟩ := place_sound _ _ _ placed
  exact ⟨count, oneLine, by rw [same, filled]; rfl⟩

end Template

end WildcardRules
