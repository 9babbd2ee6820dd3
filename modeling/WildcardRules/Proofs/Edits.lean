import WildcardRules.Proofs.Selection

set_option autoImplicit false

namespace WildcardRules.Config

open RuleSet (names)

inductive Edit where
  | append (s : RuleSet)
  | remove (gone : Nat → Bool)

def Edit.apply (c : Config) : Edit → Config
  | .append s => c.add s
  | .remove gone => ⟨(c.sets.zipIdx.filter fun s => !gone s.2).map Prod.fst⟩

def edited (c : Config) (edits : List Edit) : Config := edits.foldl Edit.apply c

theorem edited_concat (c : Config) (edits : List Edit) (e : Edit) :
    c.edited (edits ++ [e]) = e.apply (c.edited edits) := List.foldl_concat _ _ _ _

theorem names_add (c : Config) (s : RuleSet) : names (c.add s).sets = names c.sets ++ [s.name] :=
  List.map_append

theorem build_of_same_find (c d : Config) (name : Text) (same : c.find? name = d.find? name) :
    c.build name = d.build name := by
  rw [build, build, same]

theorem find_before_more (c : Config) (more : List RuleSet) (name : Text) (declared : name ∈ names c.sets) :
    find? ⟨c.sets ++ more⟩ name = c.find? name := by
  cases found : c.find? name with
  | none => exact absurd declared ((find_none_iff c name).1 found)
  | some s =>
      obtain ⟨before, after, whole, named, absent⟩ := (find_some_iff c name s).1 found
      exact (find_some_iff _ name s).2 ⟨before, after ++ more, by simp [whole], named, absent⟩

theorem remove_sublist (c : Config) (gone : Nat → Bool) : ((Edit.remove gone).apply c).sets.Sublist c.sets := by
  have kept : (c.sets.zipIdx.filter fun s => !gone s.2).Sublist c.sets.zipIdx := List.filter_sublist
  have sets := kept.map Prod.fst
  rwa [List.zipIdx_map_fst] at sets

section

variable {c : Config} (valid : c.validate = .ok ())

include valid

theorem validate_kept (kept : List RuleSet) (part : kept.Subperm c.sets) : validate ⟨kept⟩ = .ok () := by
  obtain ⟨distinct, builds⟩ := (validate_ok_iff c).1 valid
  obtain ⟨ordered, reordered, sublist⟩ := part
  have keptDistinct : (names kept).Nodup := (reordered.map RuleSet.name).nodup_iff.1 (distinct.sublist (sublist.map _))
  refine (validate_ok_iff ⟨kept⟩).2 ⟨keptDistinct, fun s member => builds s ?_⟩
  exact sublist.subset (reordered.mem_iff.2 member)

theorem build_kept (kept : List RuleSet) (part : kept.Subperm c.sets) (name : Text) (declared : name ∈ names kept) :
    build ⟨kept⟩ name = c.build name := by
  obtain ⟨s, member, rfl⟩ := List.mem_map.1 declared
  have keptDistinct := ((validate_ok_iff ⟨kept⟩).1 (validate_kept valid kept part)).1
  have distinct := ((validate_ok_iff c).1 valid).1
  apply build_of_same_find
  rw [find_of_member ⟨kept⟩ s keptDistinct member, find_of_member c s distinct (part.subset member)]

theorem validate_add_of_declared (s : RuleSet) (declared : s.name ∈ names c.sets) :
    (c.add s).validate = .error (.duplicateName s.name) :=
  validate_of_duplicate (c.add s) c.sets [] s rfl ((validate_ok_iff c).1 valid).1 declared

theorem add_distinct (s : RuleSet) (fresh : s.name ∉ names c.sets) : (names (c.add s).sets).Nodup := by
  rw [names_add]
  exact List.Nodup.append ((validate_ok_iff c).1 valid).1 (List.nodup_singleton _) (by simpa using fresh)

theorem validate_add_of_refused (s : RuleSet) (fresh : s.name ∉ names c.sets) (cause : BuildError)
    (refused : s.build = .error cause) : (c.add s).validate = .error (.invalidRuleSet s.name cause) := by
  obtain ⟨-, builds⟩ := (validate_ok_iff c).1 valid
  exact (validate_error_iff (c.add s) _).2 (.invalid c.sets [] s cause (add_distinct valid s fresh) rfl builds refused)

theorem validate_add_ok_iff (s : RuleSet) :
    (c.add s).validate = .ok () ↔ s.name ∉ names c.sets ∧ s.Builds := by
  obtain ⟨-, builds⟩ := (validate_ok_iff c).1 valid
  constructor
  · intro accepted
    have fresh : s.name ∉ names c.sets := by
      intro declared
      cases accepted.symm.trans (validate_add_of_declared valid s declared)
    exact ⟨fresh, ((validate_ok_iff (c.add s)).1 accepted).2 s (by simp [add])⟩
  · intro both
    refine (validate_ok_iff (c.add s)).2 ⟨add_distinct valid s both.1, ?_⟩
    intro t member
    rcases List.mem_append.1 member with earlier | last
    · exact builds t earlier
    · rw [List.mem_singleton.1 last]
      exact both.2

theorem validate_apply_iff (e : Edit) :
    (e.apply c).validate = .ok () ↔ ∀ s, e = .append s → s.name ∉ names c.sets ∧ s.Builds := by
  cases e with
  | append s =>
      rw [Edit.apply, validate_add_ok_iff valid s]
      exact ⟨fun both t same => by cases same; exact both, fun harmless => harmless s rfl⟩
  | remove gone =>
      have kept := validate_kept valid _ (remove_sublist c gone).subperm
      exact iff_of_true kept (fun s other => by cases other)

-- The run, by induction on what was done so far: its last edit comes to a valid configuration.
theorem valid_throughout_iff (edits : List Edit) :
    (∀ before, before <+: edits → (c.edited before).validate = .ok ()) ↔
      ∀ before s, before ++ [.append s] <+: edits → s.name ∉ names (c.edited before).sets ∧ s.Builds := by
  constructor
  · intro throughout before s leads
    have earlier := throughout before ((List.prefix_append before _).trans leads)
    have later := throughout _ leads
    rw [edited_concat] at later
    exact (validate_apply_iff earlier _).1 later s rfl
  · intro harmless before
    induction before using List.reverseRecOn with
    | nil => exact fun _ => valid
    | append_singleton before e ih =>
        intro leads
        have earlier := ih ((List.prefix_append before _).trans leads)
        rw [edited_concat]
        refine (validate_apply_iff earlier e).2 ?_
        rintro s rfl
        exact harmless before s leads

end

theorem edits_keep_validity (c : Config) :
    (c.validate = .ok () →
      (∀ kept : List RuleSet, kept.Subperm c.sets → validate ⟨kept⟩ = .ok () ∧
        ∀ name ∈ names kept, build ⟨kept⟩ name = c.build name) ∧
      (∀ s : RuleSet, ((c.add s).validate = .ok () ↔ s.name ∉ names c.sets ∧ s.Builds) ∧
        (s.name ∈ names c.sets → (c.add s).validate = .error (.duplicateName s.name)) ∧
        (s.name ∉ names c.sets → ∀ cause, s.build = .error cause →
          (c.add s).validate = .error (.invalidRuleSet s.name cause))) ∧
      ∀ edits : List Edit, (∀ before, before <+: edits → (c.edited before).validate = .ok ()) ↔
        ∀ before s, before ++ [.append s] <+: edits → s.name ∉ names (c.edited before).sets ∧ s.Builds) ∧
    ∀ (more : List RuleSet) (name : Text), name ∈ names c.sets → build ⟨c.sets ++ more⟩ name = c.build name := by
  refine ⟨fun valid => ⟨?_, ?_, valid_throughout_iff valid⟩, ?_⟩
  · intro kept part
    exact ⟨validate_kept valid kept part, build_kept valid kept part⟩
  · intro s
    exact ⟨validate_add_ok_iff valid s, validate_add_of_declared valid s, validate_add_of_refused valid s⟩
  · intro more name declared
    exact build_of_same_find _ c name (find_before_more c more name declared)

theorem edits_keep_validity_renewed :
    let a : RuleSet := ⟨"a".toList, true, some (.string "x:y".toList)⟩
    let b : RuleSet := ⟨"b".toList, false, none⟩
    let c : Config := ⟨[a]⟩
    c.validate = .ok () ∧ (c.edited [.remove fun i => i == 0, .append a]).validate = .ok () ∧
      validate ⟨[b, a]⟩ = .ok () ∧ build ⟨[b, a]⟩ "a".toList = build ⟨[a, b]⟩ "a".toList ∧
      (c.add a).validate = .error (.duplicateName "a".toList) ∧
      (c.add ⟨"b".toList, true, none⟩).validate =
        .error (.invalidRuleSet "b".toList (.emptyRuleSet (some "b".toList))) ∧
      build ⟨[a, ⟨"a".toList, true, none⟩]⟩ "a".toList = c.build "a".toList := by
  intro a b c
  have valid : c.validate = .ok () := rfl
  have builds : a.Builds ∧ b.Builds := ⟨⟨_, rfl⟩, ⟨_, rfl⟩⟩
  obtain ⟨whenValid, more⟩ := edits_keep_validity c
  obtain ⟨-, added, throughout⟩ := whenValid valid
  have both : validate ⟨[a, b]⟩ = .ok () := (added b).1.2 ⟨by decide, builds.2⟩
  obtain ⟨validKept, sameKept⟩ := ((edits_keep_validity ⟨[a, b]⟩).1 both).1 [b, a] (List.Perm.swap a b []).subperm
  refine ⟨valid, ?_, validKept, sameKept _ (by decide), (added a).2.1 (by decide),
    (added _).2.2 (by decide) _ rfl, more [⟨"a".toList, true, none⟩] _ (by decide)⟩
  apply (throughout _).2 ?_ _ List.prefix_rfl
  intro before s leads
  cases before with
  | nil =>
      obtain ⟨other, -⟩ := List.cons_prefix_cons.1 leads
      cases other
  | cons first before =>
      obtain ⟨rfl, rest⟩ := List.cons_prefix_cons.1 leads
      cases before with
      | nil =>
          obtain ⟨same, -⟩ := List.cons_prefix_cons.1 rest
          cases same
          exact ⟨by decide, builds.1⟩
      | cons second before => simp at rest

end WildcardRules.Config
