import WildcardRules.Proofs.Filling
import WildcardRules.Proofs.Selection

/-!
The layout of a text: its literals and its stars in turn. Every text has one and every layout is that of
one text, so that a layout is longer than another just when it has more stars. An error that reports the
layouts of a source and a target therefore names two odd lengths that differ.
-/

set_option autoImplicit false

namespace WildcardRules

namespace Segment

structure IsLayout (segments : List Segment) : Prop where
  opens : ∃ text, segments.head? = some (.literal text)
  closes : ∃ text, segments.getLast? = some (.literal text)
  alternates : segments.IsChain fun one next => one = .wildcard ↔ next ≠ .wildcard
  plain : ∀ text, .literal text ∈ segments → '*' ∉ text

def spelled : Segment → Text
  | .literal text => text
  | .wildcard => ['*']

def spell (segments : List Segment) : Text := segments.flatMap spelled

end Segment

namespace Template

open Segment (IsLayout spell)

theorem segments_cons (head literal : Text) (tail : List Text) :
    segments ⟨head, literal :: tail⟩ = .literal head :: .wildcard :: segments ⟨literal, tail⟩ := rfl

theorem literal_mem_segments_iff (t : Template) (text : Text) :
    .literal text ∈ t.segments ↔ text ∈ t.literals := by
  simp [segments, literals]

theorem count_wildcard_segments (t : Template) : t.segments.count .wildcard = t.stars := by
  obtain ⟨head, tail⟩ := t
  induction tail generalizing head with
  | nil => rfl
  | cons literal tail ih => simpa [segments_cons, stars] using ih literal

theorem spell_segments (t : Template) : spell t.segments = t.toText := by
  obtain ⟨head, tail⟩ := t
  induction tail generalizing head with
  | nil => simp [segments, spell, Segment.spelled, toText, fill, interleave]
  | cons literal tail ih =>
      have rest := ih literal
      simp only [spell, toText, fill, stars] at rest
      simp [segments_cons, spell, Segment.spelled, toText, fill, stars, List.replicate_succ, interleave, rest]

theorem segments_close (t : Template) : ∃ text, t.segments.getLast? = some (.literal text) := by
  obtain ⟨head, tail⟩ := t
  induction tail generalizing head with
  | nil => exact ⟨head, rfl⟩
  | cons literal tail ih =>
      obtain ⟨text, ends⟩ := ih literal
      exact ⟨text, by simp [segments_cons, List.getLast?_cons, ends]⟩

theorem segments_alternate (t : Template) :
    t.segments.IsChain fun one next => one = .wildcard ↔ next ≠ .wildcard := by
  obtain ⟨head, tail⟩ := t
  induction tail generalizing head with
  | nil => exact .singleton _
  | cons literal tail ih =>
      have behind : (Segment.wildcard :: segments ⟨literal, tail⟩).IsChain
          fun one next => one = .wildcard ↔ next ≠ .wildcard :=
        .cons_cons (by simp) (ih literal)
      exact .cons_cons (by simp) behind

theorem is_layout_segments (t : Template) (plain : ∀ literal ∈ t.literals, '*' ∉ literal) :
    IsLayout t.segments := by
  refine ⟨⟨t.head, rfl⟩, segments_close t, segments_alternate t, ?_⟩
  intro text member
  exact plain text ((literal_mem_segments_iff t text).1 member)

-- The induction goes through all ends of a layout, so also through those that begin with a star.
theorem segments_of_alternating (segments : List Segment)
    (closes : ∃ text, segments.getLast? = some (.literal text))
    (alternates : segments.IsChain fun one next => one = .wildcard ↔ next ≠ .wildcard) :
    ∃ t : Template, segments = t.segments ∨ segments = .wildcard :: t.segments := by
  induction segments with
  | nil =>
      obtain ⟨text, ends⟩ := closes
      cases ends
  | cons first rest ih =>
      cases rest with
      | nil =>
          obtain ⟨text, ends⟩ := closes
          cases ends
          exact ⟨⟨text, []⟩, .inl rfl⟩
      | cons next rest =>
          obtain ⟨turn, behind⟩ := List.isChain_cons_cons.1 alternates
          rw [List.getLast?_cons_cons] at closes
          obtain ⟨t, same | same⟩ := ih closes behind
          · have star : first = .wildcard := turn.2 (by simp [(List.cons.inj same).1])
            exact ⟨t, .inr (by rw [star, same])⟩
          · cases first with
            | wildcard => exact absurd (List.cons.inj same).1 (turn.1 rfl)
            | literal text => exact ⟨⟨text, t.head :: t.tail⟩, .inl (by rw [same]; rfl)⟩

theorem is_layout_iff (segments : List Segment) :
    IsLayout segments ↔ ∃ t : Template, segments = t.segments ∧ ∀ literal ∈ t.literals, '*' ∉ literal := by
  constructor
  · intro layout
    obtain ⟨text, begins⟩ := layout.opens
    obtain ⟨t, same | same⟩ := segments_of_alternating segments layout.closes layout.alternates
    · refine ⟨t, same, ?_⟩
      intro literal member
      exact layout.plain literal (by rw [same]; exact (literal_mem_segments_iff t literal).2 member)
    · rw [same] at begins
      cases begins
  · intro laidOut
    obtain ⟨t, rfl, plain⟩ := laidOut
    exact is_layout_segments t plain

theorem spell_segments_of_text (text : Text) : spell (ofText text).segments = text := by
  rw [spell_segments, to_text_of_text]

theorem segments_of_spell (segments : List Segment) (layout : IsLayout segments) :
    (ofText (spell segments)).segments = segments := by
  obtain ⟨t, rfl, plain⟩ := (is_layout_iff segments).1 layout
  rw [spell_segments, of_text_to_text t plain]

theorem length_segments_eq_iff (t u : Template) :
    t.segments.length = u.segments.length ↔ t.stars = u.stars := by
  rw [length_segments, length_segments]
  omega

end Template

namespace Config

variable (name : Text) (cause : BuildError)

theorem set_of_validate_error (c : Config) (refused : c.validate = .error (.invalidRuleSet name cause)) :
    ∃ s : RuleSet, s.build = .error cause := by
  cases (validate_error_iff c _).1 refused with
  | invalid before after s _ distinct whole passed failed => exact ⟨s, failed⟩

theorem set_of_parse_error (content path : Text)
    (refused : parse content path = .error (.invalidRuleSet name cause)) :
    ∃ s : RuleSet, s.build = .error cause := by
  rcases (parse_error_iff content path _).1 refused with ⟨reason, -, malformed⟩ | ⟨c, -, checked⟩
  · cases malformed
  · exact set_of_validate_error name cause c checked

theorem set_of_load_error (files : Files) (path : Text)
    (refused : load files path = .error (.invalidRuleSet name cause)) :
    ∃ s : RuleSet, s.build = .error cause := by
  rcases (load_error_iff files path _).1 refused with ⟨failure, -, unreadable⟩ | ⟨content, -, malformed⟩
  · cases unreadable
  · exact set_of_parse_error name cause content path malformed

end Config

namespace BuildError

inductive Reported (e : BuildError) : Prop where
  | compile (pattern : Text) (count : Nat) : Rule.compile pattern count = .error e → Reported e
  | build (input : RuleInput) (options : Options) : Replacer.build input options = .error e → Reported e
  | ofSet (s : RuleSet) : s.build = .error e → Reported e
  | selected (c : Config) (name : Text) : c.build name = .error (.build e) → Reported e
  | listed (c : Config) (name : Text) : c.buildAll = .error (.invalidRuleSet name e) → Reported e
  | checked (c : Config) (name : Text) : c.validate = .error (.invalidRuleSet name e) → Reported e
  | parsed (content path name : Text) : Config.parse content path = .error (.invalidRuleSet name e) →
      Reported e
  | loaded (files : Config.Files) (path name : Text) :
      Config.load files path = .error (.invalidRuleSet name e) → Reported e

variable (e : BuildError) (pattern : Text)

theorem refused_of_reported (reported : Reported e) :
    (∃ p count, Rule.compile p count = .error e) ∨ ∃ input options, Replacer.build input options = .error e := by
  have ofSet : (∃ s : RuleSet, s.build = .error e) → ∃ input options, Replacer.build input options = .error e := by
    intro refused
    obtain ⟨s, failed⟩ := refused
    exact ⟨s.input, s.options, failed⟩
  cases reported with
  | compile p count refused => exact .inl ⟨p, count, refused⟩
  | build input options refused => exact .inr ⟨input, options, refused⟩
  | ofSet s refused => exact .inr (ofSet ⟨s, refused⟩)
  | selected c name refused =>
      rcases (Config.build_error_iff c name _).1 refused with ⟨-, unknown⟩ | ⟨s, cause, -, failed, same⟩
      · cases unknown
      · cases same
        exact .inr (ofSet ⟨s, failed⟩)
  | listed c name refused =>
      obtain ⟨-, s, -, cause, -, -, failed, same⟩ := (Config.build_all_error_iff c _).1 refused
      cases same
      exact .inr (ofSet ⟨s, failed⟩)
  | checked c name refused => exact .inr (ofSet (Config.set_of_validate_error name e c refused))
  | parsed content path name refused =>
      exact .inr (ofSet (Config.set_of_parse_error name e content path refused))
  | loaded files path name refused => exact .inr (ofSet (Config.set_of_load_error name e files path refused))

theorem fault_of_reported (about : e.pattern? = some pattern) (reported : Reported e) :
    ∃ count, Rule.Fault pattern count e := by
  have own : ∀ p count, Rule.Fault p count e → ∃ count, Rule.Fault pattern count e := by
    intro p count fault
    cases (Rule.fault_pattern p count e fault).symm.trans about
    exact ⟨count, fault⟩
  rcases refused_of_reported e reported with ⟨p, count, refused⟩ | ⟨input, options, refused⟩
  · exact own p count ((Rule.compile_error_iff p count e).1 refused)
  · rcases (Replacer.build_error_iff input options e).1 refused with ⟨-, -, rfl⟩ | ⟨-, p, -, -, -, fault⟩
    · cases about
    · exact own p _ fault

theorem mismatch_of_reported (sourceParts targetParts : Nat)
    (reported : Reported (.segmentMismatch pattern sourceParts targetParts)) :
    (∃ source target, Pattern.split? pattern = some (source, target) ∧
      sourceParts = (Template.ofText source).segments.length ∧
      targetParts = (Template.ofText target).segments.length) ∧
    Odd sourceParts ∧ Odd targetParts ∧ sourceParts ≠ targetParts ∧ 3 ≤ sourceParts ∧ 3 ≤ targetParts := by
  obtain ⟨count, fault⟩ := fault_of_reported _ pattern rfl reported
  cases fault with
  | mismatch source target notBare first starred wanted different =>
      refine ⟨⟨source, target, (Pattern.split_eq_some_iff pattern source target).2 first, ?_, ?_⟩,
        ⟨source.count '*', rfl⟩, ⟨target.count '*', rfl⟩, by omega, by omega, by omega⟩
      · rw [Template.length_segments, Template.stars_of_text]
      · rw [Template.length_segments, Template.stars_of_text]

end BuildError

namespace Template

open Segment (IsLayout spell)

theorem layout_bijection :
    (∀ text : Text, IsLayout (ofText text).segments ∧
      (ofText text).segments.length = 2 * text.count '*' + 1 ∧
      (ofText text).segments.count .wildcard = text.count '*' ∧
      spell (ofText text).segments = text) ∧
    (∀ segments, IsLayout segments → (ofText (spell segments)).segments = segments) ∧
    (∀ one other : Text,
      (ofText one).segments.count .wildcard = (ofText other).segments.count .wildcard ↔
        (ofText one).segments.length = (ofText other).segments.length) ∧
    ∀ pattern sourceParts targetParts,
      BuildError.Reported (.segmentMismatch pattern sourceParts targetParts) →
      (∃ source target, Pattern.split? pattern = some (source, target) ∧
        sourceParts = (ofText source).segments.length ∧ targetParts = (ofText target).segments.length) ∧
      Odd sourceParts ∧ Odd targetParts ∧ sourceParts ≠ targetParts ∧
        3 ≤ sourceParts ∧ 3 ≤ targetParts := by
  refine ⟨?_, segments_of_spell, ?_, BuildError.mismatch_of_reported⟩
  · intro text
    refine ⟨is_layout_segments _ (literals_of_text_plain text), ?_, ?_, spell_segments_of_text text⟩
    · rw [length_segments, stars_of_text]
    · rw [count_wildcard_segments, stars_of_text]
  · intro one other
    rw [count_wildcard_segments, count_wildcard_segments, length_segments_eq_iff]

theorem layout_bijection_adjacent :
    (∃ segments : List Segment,
      segments = [.literal [], .wildcard, .literal [], .wildcard, .literal "a".toList] ∧
        IsLayout segments ∧ (ofText "**a".toList).segments = segments) ∧
    ∃ (c : Config) (name : Text) (source target : Text),
      c.validate = .error (.invalidRuleSet name (.segmentMismatch "**a:*".toList 5 3)) ∧
      Pattern.split? "**a:*".toList = some (source, target) ∧
      5 = (ofText source).segments.length ∧ 3 = (ofText target).segments.length := by
  obtain ⟨-, spells, -, mismatch⟩ := layout_bijection
  constructor
  · have layout : IsLayout [.literal [], .wildcard, .literal [], .wildcard, .literal "a".toList] := by
      refine ⟨⟨_, rfl⟩, ⟨_, rfl⟩, by simp, ?_⟩
      intro text member
      have literal : text = [] ∨ text = "a".toList := by simpa using member
      rcases literal with rfl | rfl
      · decide
      · decide
    exact ⟨_, rfl, layout, spells _ layout⟩
  · have refused : Config.validate ⟨[⟨"x".toList, true, some (.string "**a:*".toList)⟩]⟩ =
        .error (.invalidRuleSet "x".toList (.segmentMismatch "**a:*".toList 5 3)) := rfl
    obtain ⟨⟨source, target, halves, given, wanted⟩, -⟩ := mismatch _ 5 3 (.checked _ _ refused)
    exact ⟨_, "x".toList, source, target, refused, halves, given, wanted⟩

end Template

end WildcardRules
