import Mathlib.Data.List.Forall2

set_option autoImplicit false

namespace WildcardRules

variable {α β ε : Type} (f : α → Except ε β)

theorem map_m_cons_ok_iff (x : α) (xs : List α) (ys : List β) :
    (x :: xs).mapM f = .ok ys ↔ ∃ z zs, f x = .ok z ∧ xs.mapM f = .ok zs ∧ ys = z :: zs := by
  rw [List.mapM_cons]
  constructor
  · intro passed
    cases head : f x with
    | error e =>
        rw [head] at passed
        cases passed
    | ok z =>
        cases tail : xs.mapM f with
        | error e =>
            rw [head, tail] at passed
            cases passed
        | ok zs =>
            rw [head, tail] at passed
            exact ⟨z, zs, rfl, rfl, (Except.ok.inj passed).symm⟩
  · intro parts
    obtain ⟨z, zs, head, tail, rfl⟩ := parts
    rw [head, tail]
    rfl

theorem map_m_ok_iff_pointwise (xs : List α) (ys : List β) :
    xs.mapM f = .ok ys ↔ List.Forall₂ (fun x y => f x = .ok y) xs ys := by
  induction xs generalizing ys with
  | nil =>
      rw [List.forall₂_nil_left_iff]
      exact ⟨fun passed => (Except.ok.inj passed).symm, fun none => none ▸ rfl⟩
  | cons x xs ih =>
      rw [map_m_cons_ok_iff, List.forall₂_cons_left_iff]
      simp only [ih]

theorem map_m_error_of_first (before after : List α) (x : α) (e : ε)
    (passed : ∀ y ∈ before, ∃ z, f y = .ok z) (failed : f x = .error e) :
    (before ++ x :: after).mapM f = .error e := by
  induction before with
  | nil =>
      rw [List.nil_append, List.mapM_cons, failed]
      rfl
  | cons y before ih =>
      obtain ⟨z, head⟩ := passed y (by simp)
      have rest := ih fun w member => passed w (by simp [member])
      rw [List.cons_append, List.mapM_cons, head, rest]
      rfl

theorem map_m_error_iff (xs : List α) (e : ε) :
    xs.mapM f = .error e ↔ ∃ before x after, xs = before ++ x :: after ∧
      (∀ y ∈ before, ∃ z, f y = .ok z) ∧ f x = .error e := by
  constructor
  · intro failed
    induction xs with
    | nil => cases failed
    | cons x xs ih =>
        cases head : f x with
        | error d =>
            rw [List.mapM_cons, head] at failed
            cases failed
            exact ⟨[], x, xs, rfl, by simp, head⟩
        | ok y =>
            cases tail : xs.mapM f with
            | ok ys =>
                rw [List.mapM_cons, head, tail] at failed
                cases failed
            | error d =>
                rw [List.mapM_cons, head, tail] at failed
                cases failed
                obtain ⟨before, culprit, after, rfl, passed, first⟩ := ih tail
                refine ⟨x :: before, culprit, after, rfl, ?_, first⟩
                exact List.forall_mem_cons.2 ⟨⟨y, head⟩, passed⟩
  · intro first
    obtain ⟨before, x, after, rfl, passed, failed⟩ := first
    exact map_m_error_of_first f before after x e passed failed

theorem map_m_ok_of_all (xs : List α) (passed : ∀ x ∈ xs, ∃ y, f x = .ok y) :
    ∃ ys, xs.mapM f = .ok ys := by
  cases whole : xs.mapM f with
  | ok ys => exact ⟨ys, rfl⟩
  | error e =>
      obtain ⟨before, x, after, rfl, -, failed⟩ := (map_m_error_iff f xs e).1 whole
      obtain ⟨y, head⟩ := passed x (by simp)
      cases head.symm.trans failed

theorem pointwise_member {related : α → β → Prop} {xs : List α} {ys : List β}
    (pointwise : List.Forall₂ related xs ys) (y : β) (member : y ∈ ys) : ∃ x ∈ xs, related x y := by
  induction pointwise with
  | nil => simp at member
  | @cons x z xs ys head tail ih =>
      rcases List.mem_cons.1 member with rfl | later
      · exact ⟨x, by simp, head⟩
      · obtain ⟨w, present, holds⟩ := ih later
        exact ⟨w, by simp [present], holds⟩

theorem pointwise_nil_iff {related : α → β → Prop} {xs : List α} {ys : List β}
    (pointwise : List.Forall₂ related xs ys) : xs = [] ↔ ys = [] := by
  cases pointwise with
  | nil => exact iff_of_true rfl rfl
  | cons head tail => exact iff_of_false (List.cons_ne_nil _ _) (List.cons_ne_nil _ _)

theorem pointwise_at {related : α → β → Prop} {xs : List α} {ys : List β}
    (pointwise : List.Forall₂ related xs ys) (i : Nat) (x : α) (found : xs[i]? = some x) :
    ∃ y, ys[i]? = some y ∧ related x y := by
  induction pointwise generalizing i with
  | nil => simp at found
  | @cons z y xs ys head tail ih =>
      cases i with
      | zero =>
          have same : z = x := by simpa using found
          exact ⟨y, rfl, same ▸ head⟩
      | succ i => exact ih i (by simpa using found)

theorem pointwise_imp {related other : α → β → Prop} {xs : List α} {ys : List β}
    (pointwise : List.Forall₂ related xs ys) (imp : ∀ x, ∀ y ∈ ys, related x y → other x y) :
    List.Forall₂ other xs ys := by
  induction pointwise with
  | nil => exact .nil
  | @cons x y xs ys head tail ih =>
      exact .cons (imp x y (by simp) head) (ih fun w z member => imp w z (by simp [member]))

theorem pointwise_carry {γ δ : Type} {related : α → β → Prop} {linked : α → γ → Prop}
    {carried : γ → δ → Prop} {agrees : β → δ → Prop} {xs : List α} {ys : List β} {zs : List γ}
    (pointwise : List.Forall₂ related xs ys) (link : List.Forall₂ linked xs zs)
    (carry : ∀ x y z, related x y → linked x z → ∃ w, carried z w ∧ agrees y w) :
    ∃ ws, List.Forall₂ carried zs ws ∧ List.Forall₂ agrees ys ws := by
  induction pointwise generalizing zs with
  | nil =>
      cases link
      exact ⟨[], .nil, .nil⟩
  | @cons x y xs ys head tail ih =>
      cases link with
      | @cons _ z _ zs first rest =>
          obtain ⟨w, headCarried, headAgrees⟩ := carry x y z head first
          obtain ⟨ws, tailCarried, tailAgrees⟩ := ih rest
          exact ⟨w :: ws, .cons headCarried tailCarried, .cons headAgrees tailAgrees⟩

theorem pointwise_append_iff {related : α → β → Prop} (xs ys : List α) (zs : List β) :
    List.Forall₂ related (xs ++ ys) zs ↔ ∃ us vs, List.Forall₂ related xs us ∧
      List.Forall₂ related ys vs ∧ zs = us ++ vs := by
  constructor
  · intro pointwise
    refine ⟨zs.take xs.length, zs.drop xs.length, ?_, ?_, (List.take_append_drop _ _).symm⟩
    · simpa using List.forall₂_take xs.length pointwise
    · simpa using List.forall₂_drop xs.length pointwise
  · intro parts
    obtain ⟨us, vs, first, second, rfl⟩ := parts
    exact List.rel_append first second

end WildcardRules
