import WildcardRules.Proofs.Concatenation

set_option autoImplicit false

namespace WildcardRules

namespace Text

theorem round_bracket_eq_iff (c d : Char) (plain : d ∉ ['(', ')', '[', ']']) : roundBracket c = d ↔ c = d := by
  obtain ⟨notOpenRound, notCloseRound, notOpen, notClose⟩ : d ≠ '(' ∧ d ≠ ')' ∧ d ≠ '[' ∧ d ≠ ']' := by
    simpa using plain
  by_cases opening : c = '['
  · simp [roundBracket, opening, Ne.symm notOpenRound, Ne.symm notOpen]
  · by_cases closing : c = ']'
    · simp [roundBracket, closing, Ne.symm notCloseRound, Ne.symm notClose]
    · simp [roundBracket, opening, closing]

theorem unescape_map (f : Char → Char) (colon : ∀ c, f c = ':' ↔ c = ':')
    (backslash : ∀ c, f c = '\\' ↔ c = '\\') (t : Text) : unescape (t.map f) = (unescape t).map f := by
  induction t using unescape.induct with
  | case1 t ih =>
      rw [List.map_cons, List.map_cons, (backslash '\\').2 rfl, (colon ':').2 rfl, unescape_guarded,
        unescape_guarded, List.map_cons, (colon ':').2 rfl, ih]
  | case2 c t plain ih =>
      have unguarded : c ≠ '\\' ∨ t.head? ≠ some ':' := by
        by_cases same : c = '\\'
        · refine .inr fun found => ?_
          obtain ⟨rest, split⟩ := List.head?_eq_some_iff.1 found
          exact plain rest same split
        · exact .inl same
      have stillUnguarded : f c ≠ '\\' ∨ (t.map f).head? ≠ some ':' := by
        rcases unguarded with different | different
        · exact .inl fun same => different ((backslash c).1 same)
        · refine .inr fun found => different ?_
          rw [List.head?_map, Option.map_eq_some_iff] at found
          obtain ⟨d, first, same⟩ := found
          rw [first, (colon d).1 same]
      rw [List.map_cons, unescape_cons (f c) _ stillUnguarded, unescape_cons c t unguarded, List.map_cons, ih]
  | case3 => rfl

theorem unescape_normalize_brackets (t : Text) : unescape t.normalizeBrackets = (unescape t).normalizeBrackets :=
  unescape_map roundBracket (fun c => round_bracket_eq_iff c ':' (by decide))
    (fun c => round_bracket_eq_iff c '\\' (by decide)) t

theorem count_star_normalize_brackets (t : Text) : t.normalizeBrackets.count '*' = t.count '*' := by
  induction t with
  | nil => rfl
  | cons c t ih =>
      have star := round_bracket_eq_iff c '*' (by decide)
      by_cases same : c = '*'
      · have turned : roundBracket c = '*' := star.2 same
        rw [normalize_brackets_cons, turned, same, List.count_cons_self, List.count_cons_self, ih]
      · have different : roundBracket c ≠ '*' := fun turned => same (star.1 turned)
        simp [ih, same, different]

end Text

namespace Template

theorem of_text_map (f : Char → Char) (star : ∀ c, f c = '*' ↔ c = '*') (t : Text) :
    ofText (t.map f) = (ofText t).mapLiterals (List.map f) := by
  induction t with
  | nil => rfl
  | cons c t ih =>
      by_cases same : c = '*'
      · simp [ofText, same, (star '*').2 rfl, ih, mapLiterals]
      · have different : f c ≠ '*' := fun turned => same ((star c).1 turned)
        simp [ofText, same, different, ih, mapLiterals]

theorem read_of_normalize (t : Text) :
    (ofText t).mapLiterals Rule.readLiteral = (ofText t.normalizeBrackets).mapLiterals Text.unescape := by
  have split := of_text_map Text.roundBracket (fun c => Text.round_bracket_eq_iff c '*' (by decide)) t
  have read : ∀ literal : Text, Rule.readLiteral literal = Text.unescape (literal.map Text.roundBracket) :=
    fun literal => (Text.unescape_normalize_brackets literal).symm
  rw [Text.normalizeBrackets, split]
  simp [mapLiterals, read]

end Template

namespace Pattern

inductive Restyled (p q : Text) : Prop where
  | same : p = q → Restyled p q
  | source (s t target : Text) : split? p = some (s, target) → split? q = some (t, target) →
      target ≠ [] → '*' ∈ s → '*' ∈ t → s.normalizeBrackets = t.normalizeBrackets → Restyled p q

theorem restyled_symm (p q : Text) (restyled : Restyled p q) : Restyled q p := by
  cases restyled with
  | same equal => exact .same equal.symm
  | source s t target first second something starred otherStarred style =>
      exact .source t s target second first something otherStarred starred style.symm

theorem restyled_nil_iff (p q : Text) (restyled : Restyled p q) : p = [] ↔ q = [] := by
  cases restyled with
  | same equal => rw [equal]
  | source s t target first second something starred otherStarred style =>
      have nonempty : p ≠ [] := by
        intro empty
        rw [empty] at first
        cases first
      have otherNonempty : q ≠ [] := by
        intro empty
        rw [empty] at second
        cases second
      simp [nonempty, otherNonempty]

end Pattern

namespace Rule

open Pattern

theorem apply_of_action (rule other : Rule) (value : Text) (same : rule.action = other.action) :
    rule.apply value = other.apply value := by
  rw [apply, apply, same]

theorem restyled_compiled (p q : Text) (count : Nat) (rule : Rule) (compiled : Compiled p count rule)
    (restyled : Restyled p q) : ∃ other, Compiled q count other ∧ rule.action = other.action := by
  cases restyled with
  | same equal => exact ⟨rule, equal ▸ compiled, rfl⟩
  | source s t target first second something starred otherStarred style =>
      have form := read_of_split p s target first something
      have otherForm := read_of_split q t target second something
      have stars : s.count '*' = t.count '*' := by
        rw [← Text.count_star_normalize_brackets s, style, Text.count_star_normalize_brackets t]
      have counted : s.count '*' ≠ 0 := Nat.pos_iff_ne_zero.1 (List.count_pos_iff.2 starred)
      cases compiled with
      | constant value bare single => cases form.symm.trans bare
      | exact source wanted pair plain =>
          cases form.symm.trans pair
          exact False.elim (counted plain)
      | wildcard source wanted pair _ counts small =>
          cases form.symm.trans pair
          rw [stars] at counted counts
          have read : (Template.ofText s).mapLiterals readLiteral = (Template.ofText t).mapLiterals readLiteral := by
            rw [Template.read_of_normalize, style, ← Template.read_of_normalize]
          have otherSmall : WithinLimit t := by rwa [WithinLimit, sourceExpression, ← read]
          exact ⟨_, .wildcard t target otherForm counted counts otherSmall, by rw [read]⟩

end Rule

namespace Replacer

open Pattern (Restyled)

def FallsThrough (r : Replacer) (value : Text) : Prop :=
  r.required = false ∧ ∀ rule result, r.Decides value.normalizeBrackets rule result → result = []

theorem replace_of_style (r : Replacer) (v w : Text) (inhabited : r.rules ≠ [])
    (style : v.normalizeBrackets = w.normalizeBrackets) : r.replace v = r.replace w := by
  rw [replace_eq r v inhabited, replace_eq r w inhabited, style]

theorem no_result_of_fruitless (r : Replacer) (value : Text)
    (fruitless : ∀ rule result, r.Decides value rule result → result = []) :
    (∀ rule ∈ r.rules, rule.apply value = none) ∨ ∃ rule, r.Decides value rule [] := by
  rcases decided_or_unmatched r value with ⟨rule, result, decides⟩ | unmatched
  · have empty := fruitless rule result decides
    subst empty
    exact .inr ⟨rule, decides⟩
  · exact .inl unmatched

theorem replace_of_falls_through (r : Replacer) (value : Text) (inhabited : r.rules ≠ [])
    (falls : r.FallsThrough value) : r.replace value = .ok value.normalizeBrackets := by
  obtain ⟨optional, fruitless⟩ := falls
  rw [replace_of_no_result r value inhabited (no_result_of_fruitless r _ fruitless), optional]
  rfl

theorem first_result_of_actions (rules others : List Rule) (value : Text)
    (actions : List.Forall₂ (fun rule other => rule.action = other.action) rules others) :
    (rules.findSome? fun rule => rule.apply value) = others.findSome? fun rule => rule.apply value := by
  induction actions with
  | nil => rfl
  | @cons rule other rules others same _ ih =>
      rw [List.findSome?_cons, List.findSome?_cons, Rule.apply_of_action rule other value same, ih]

theorem answer_of_actions (r s : Replacer) (value : Text) (required : r.required = s.required)
    (actions : List.Forall₂ (fun rule other => rule.action = other.action) r.rules s.rules) :
    r.answer value = s.answer value := by
  by_cases empty : r.rules = []
  · have otherEmpty : s.rules = [] := (pointwise_nil_iff actions).1 empty
    rw [answer_of_identity r value empty, answer_of_identity s value otherEmpty]
  · have inhabited : s.rules ≠ [] := fun otherEmpty => empty ((pointwise_nil_iff actions).2 otherEmpty)
    exact answer_of_results r s value empty inhabited required
      (first_result_of_actions r.rules s.rules value.normalizeBrackets actions)

theorem listed_restyled (rules others : List Text) (restyled : List.Forall₂ Restyled rules others) :
    List.Forall₂ Restyled (RuleInput.many rules).listed (RuleInput.many others).listed := by
  apply List.rel_filter _ restyled
  intro p q each
  simp [Pattern.restyled_nil_iff p q each]

theorem build_restyled (rules others : List Text) (options : Options) (r : Replacer)
    (restyled : List.Forall₂ Restyled rules others) (built : build (.many rules) options = .ok r) :
    ∃ s, build (.many others) options = .ok s ∧ r.required = s.required ∧
      List.Forall₂ (fun rule other => rule.action = other.action) r.rules s.rules := by
  obtain ⟨present, -, required, -, pointwise⟩ := (build_ok_iff (.many rules) options r).1 built
  have listed := listed_restyled rules others restyled
  obtain ⟨compiled, pointwiseOther, actions⟩ := pointwise_carry pointwise listed
    fun p rule q each link => Rule.restyled_compiled p q _ rule each link
  have otherPresent : ¬ (options.required = true ∧ (RuleInput.many others).listed = []) := by
    intro absent
    exact present ⟨absent.1, (pointwise_nil_iff listed).2 absent.2⟩
  rw [listed.length_eq] at pointwiseOther
  refine ⟨⟨options.name, options.required, (RuleInput.many others).listed, compiled⟩, ?_, required, actions⟩
  exact (build_ok_iff (.many others) options _).2 ⟨otherPresent, rfl, rfl, rfl, pointwiseOther⟩

theorem bracket_style_invisible :
    (∀ (r : Replacer) (v w : Text), r.rules ≠ [] → v.normalizeBrackets = w.normalizeBrackets →
      r.replace v = r.replace w) ∧
    (∀ (r : Replacer) (value : Text), r.rules ≠ [] → r.FallsThrough value →
      ∃ kept, r.replace value = .ok kept ∧ r.replace kept = .ok kept) ∧
    ∀ (rules others : List Text) (options : Options), List.Forall₂ Restyled rules others →
      ((∃ r, build (.many rules) options = .ok r) ↔ ∃ s, build (.many others) options = .ok s) ∧
      ∀ r s, build (.many rules) options = .ok r → build (.many others) options = .ok s →
        List.Forall₂ (fun rule other => rule.action = other.action) r.rules s.rules ∧
          ∀ value, r.answer value = s.answer value := by
  refine ⟨replace_of_style, ?_, ?_⟩
  · intro r value inhabited falls
    have kept := replace_of_falls_through r value inhabited falls
    have again := replace_of_style r value.normalizeBrackets value inhabited
      (Text.normalize_brackets_normalize_brackets value)
    exact ⟨value.normalizeBrackets, kept, again.trans kept⟩
  · intro rules others options restyled
    have turned : List.Forall₂ Restyled others rules :=
      restyled.flip.imp fun q p each => Pattern.restyled_symm p q each
    refine ⟨⟨?_, ?_⟩, ?_⟩
    · intro accepted
      obtain ⟨r, built⟩ := accepted
      obtain ⟨s, otherBuilt, -, -⟩ := build_restyled rules others options r restyled built
      exact ⟨s, otherBuilt⟩
    · intro accepted
      obtain ⟨s, built⟩ := accepted
      obtain ⟨r, otherBuilt, -, -⟩ := build_restyled others rules options s turned built
      exact ⟨r, otherBuilt⟩
    · intro r s built otherBuilt
      obtain ⟨s', again, required, actions⟩ := build_restyled rules others options r restyled built
      cases otherBuilt.symm.trans again
      exact ⟨actions, fun value => answer_of_actions r s value required actions⟩

theorem bracket_style_invisible_shoe :
    ∃ r s, build (.many ["shoe [*]:boot-*".toList, [], "a\\:b:[".toList]) ⟨none, false⟩ = .ok r ∧
      build (.many ["shoe (*):boot-*".toList, [], "a\\:b:[".toList]) ⟨none, false⟩ = .ok s ∧
      (∀ value, r.answer value = s.answer value) ∧
      r.replace "shoe [blue)".toList = r.replace "shoe (blue]".toList ∧
      ∃ kept, r.replace "cap [red]".toList = .ok kept ∧ r.replace kept = .ok kept := by
  obtain ⟨r, built, inhabited, optional, unmatched⟩ :
      ∃ r, build (.many ["shoe [*]:boot-*".toList, [], "a\\:b:[".toList]) ⟨none, false⟩ = .ok r ∧
        r.rules ≠ [] ∧ r.required = false ∧
        r.firstMatch? (Text.normalizeBrackets "cap [red]".toList) = none :=
    ⟨⟨none, false, ["shoe [*]:boot-*".toList, "a\\:b:[".toList],
      [⟨"shoe [*]:boot-*".toList, .wildcard ⟨"shoe (".toList, [")".toList]⟩ ⟨"boot-".toList, [[]]⟩⟩,
        ⟨"a\\:b:[".toList, .exact "a\\:b".toList "[".toList⟩]⟩, by decide⟩
  have restyled : List.Forall₂ Restyled ["shoe [*]:boot-*".toList, [], "a\\:b:[".toList]
      ["shoe (*):boot-*".toList, [], "a\\:b:[".toList] :=
    .cons (.source "shoe [*]".toList "shoe (*)".toList "boot-*".toList (by decide) (by decide) (by decide)
      (by decide) (by decide) (by decide)) (.cons (.same rfl) (.cons (.same rfl) .nil))
  have falls : r.FallsThrough "cap [red]".toList := by
    refine ⟨optional, fun rule result decides => ?_⟩
    cases unmatched.symm.trans ((first_match_some_iff r _ rule result).2 decides)
  obtain ⟨values, kept, lists⟩ := bracket_style_invisible
  obtain ⟨accepted, agrees⟩ := lists _ _ ⟨none, false⟩ restyled
  obtain ⟨s, otherBuilt⟩ := accepted.1 ⟨r, built⟩
  exact ⟨r, s, built, otherBuilt, (agrees r s built otherBuilt).2,
    values r "shoe [blue)".toList "shoe (blue]".toList inhabited (by decide),
    kept r "cap [red]".toList inhabited falls⟩

end Replacer

end WildcardRules
