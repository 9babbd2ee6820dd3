import WildcardRules.Proofs.Dispatch
import WildcardRules.Proofs.Writing

set_option autoImplicit false

namespace WildcardRules

namespace Text

theorem escape_colon (t : Text) : escape (':' :: t) = '\\' :: ':' :: escape t := rfl

theorem escape_cons (c : Char) (t : Text) (different : c ≠ ':') : escape (c :: t) = c :: escape t := by
  rw [escape, if_neg different]

theorem escape_append (t u : Text) : escape (t ++ u) = escape t ++ escape u := by
  induction t with
  | nil => rfl
  | cons c t ih =>
      by_cases colon : c = ':'
      · simp [colon, escape_colon, ih]
      · simp [escape_cons c _ colon, ih]

-- No escaped text starts with a colon, so a backslash right before one is never taken for a guard.
theorem escape_head (t : Text) : (escape t).head? ≠ some ':' := by
  cases t with
  | nil => simp [escape]
  | cons c t =>
      by_cases colon : c = ':'
      · simp [colon, escape_colon]
      · simp [escape_cons c t colon, colon]

theorem unescape_escape (t : Text) : unescape (escape t) = t := by
  induction t with
  | nil => rfl
  | cons c t ih =>
      by_cases colon : c = ':'
      · rw [colon, escape_colon, unescape_guarded, ih]
      · rw [escape_cons c t colon, unescape_cons c _ (.inr (escape_head t)), ih]

theorem escape_nonempty (t : Text) (nonempty : t ≠ []) : escape t ≠ [] := by
  intro empty
  have back := unescape_escape t
  rw [empty] at back
  exact nonempty back.symm

theorem escape_get_last (t : Text) : (escape t).getLast? = t.getLast? := by
  induction t with
  | nil => rfl
  | cons c t ih =>
      by_cases colon : c = ':'
      · rw [colon, escape_colon, List.getLast?_cons_cons, List.getLast?_cons, List.getLast?_cons, ih]
      · rw [escape_cons c t colon, List.getLast?_cons, List.getLast?_cons, ih]

theorem star_not_mem_escape (t : Text) (plain : '*' ∉ t) : '*' ∉ escape t := by
  induction t with
  | nil => exact plain
  | cons c t ih =>
      simp only [List.mem_cons, not_or] at plain
      have rest := ih plain.2
      by_cases colon : c = ':'
      · simp [colon, escape_colon, rest]
      · simp [escape_cons c t colon, plain.1, rest]

theorem guarded_pair : Guarded ['\\', ':'] := by
  intro before after whole
  cases before with
  | nil => simp at whole
  | cons c before =>
      obtain ⟨backslash, rest⟩ := List.cons.inj whole
      cases before with
      | nil => simp [← backslash]
      | cons d before => simp at rest

theorem guarded_escape (t : Text) : (escape t).Guarded := by
  induction t with
  | nil => exact guarded_of_plain [] (by simp)
  | cons c t ih =>
      by_cases colon : c = ':'
      · rw [colon, escape_colon]
        exact guarded_append ['\\', ':'] (escape t) guarded_pair ih
      · rw [escape_cons c t colon]
        exact guarded_append [c] (escape t) (guarded_of_plain [c] (by simpa using Ne.symm colon)) ih

end Text

namespace Pattern

theorem read_of_guarded (t : Text) (guarded : t.Guarded) : read t = .bare t := by
  have unseparated : split? t = none := by
    rw [split_eq_none_iff]
    intro before after separates
    exact separates.unguarded (guarded before after separates.whole)
  rw [read, unseparated]

end Pattern

namespace Template

theorem escape_to_text (t : Template) : Text.escape t.toText = (t.mapLiterals Text.escape).toText := by
  obtain ⟨head, tail⟩ := t
  induction tail generalizing head with
  | nil => simp [toText, fill, mapLiterals, interleave]
  | cons literal tail ih =>
      have rest := ih literal
      have star : Text.escape ['*'] = ['*'] := by decide
      simp only [toText, fill, mapLiterals, stars, List.map_cons, List.length_cons, List.length_map,
        List.replicate_succ, interleave, Text.escape_append, star] at rest ⊢
      rw [rest]

theorem read_escaped (t : Template) :
    (t.mapLiterals Text.escape).mapLiterals Rule.readLiteral = t.mapLiterals Text.normalizeBrackets := by
  have read : ∀ literal : Text, Rule.readLiteral (Text.escape literal) = literal.normalizeBrackets := by
    intro literal
    rw [Rule.readLiteral, Text.unescape_escape]
  simp [mapLiterals, read]

end Template

namespace Rule

theorem compile_escaped (source : Template) (target : Text) (count : Nat)
    (plain : ∀ literal ∈ source.literals, '*' ∉ literal)
    (unguarding : ∀ last, source.literals.getLast? = some last → last.getLast? ≠ some '\\')
    (something : target ≠ []) (starred : 1 ≤ source.stars) 
    (small : WithinLimit (source.mapLiterals Text.escape).toText)
    (counts : target.count '*' = 0 ∨ target.count '*' = source.stars) :
    compile (Pattern.joined (source.mapLiterals Text.escape).toText target) count =
      .ok ⟨Pattern.joined (source.mapLiterals Text.escape).toText target,
        .wildcard (source.mapLiterals Text.normalizeBrackets) (Template.ofText target)⟩ := by
  have escaped : (source.mapLiterals Text.escape).literals = source.literals.map Text.escape := rfl
  have stars := Template.stars_map_literals Text.escape source
  have stillUnguarding : ∀ last, (source.mapLiterals Text.escape).literals.getLast? = some last →
      last.getLast? ≠ some '\\' := by
    intro last ends
    rw [escaped, List.getLast?_map, Option.map_eq_some_iff] at ends
    obtain ⟨own, ends, rfl⟩ := ends
    rw [Text.escape_get_last]
    exact unguarding own ends
  have stillPlain : ∀ text ∈ (source.mapLiterals Text.escape).literals, '*' ∉ text := by
    intro text member
    rw [escaped] at member
    obtain ⟨own, present, rfl⟩ := List.mem_map.1 member
    exact Text.star_not_mem_escape own (plain own present)
  have guarded : (source.mapLiterals Text.escape).toText.Guarded := by
    rw [← Template.escape_to_text]
    exact Text.guarded_escape source.toText
  have isSource := is_source_of_guarded _ (by rwa [stars]) stillUnguarding guarded
  rw [← Template.read_escaped]
  exact compile_written _ target count isSource stillPlain something (by rwa [stars]) small (by rwa [stars])

end Rule

namespace Replacer

theorem build_escaped (u : Text) (nonempty : u ≠ []) (input : RuleInput) (options : Options)
    (handed : input.toList = [Text.escape u]) :
    ∃ r, build input options = .ok r ∧ r.rules = [⟨Text.escape u, .constant u⟩] := by
  have bare : Pattern.read (Text.escape u) = .bare (Text.escape u) :=
    Pattern.read_of_guarded _ (Text.guarded_escape u)
  have compiled : Rule.Compiled (Text.escape u) 1 ⟨Text.escape u, .constant u⟩ := by
    have constant := Rule.Compiled.constant (Text.escape u) bare (Nat.le_refl 1)
    rwa [Text.unescape_escape] at constant
  exact build_alone input options _ _ handed (Text.escape_nonempty u nonempty) compiled

theorem replace_of_constant (r : Replacer) (pattern u value : Text) (nonempty : u ≠ [])
    (alone : r.rules = [⟨pattern, .constant u⟩]) : r.replace value = .ok u :=
  replace_of_result r value _ u nonempty (decides_alone r _ _ u alone rfl)

theorem escaping_round_trip :
    (∀ u, u ≠ [] → ∀ input options, input.toList = [Text.escape u] →
      ∃ r, build input options = .ok r ∧ r.rules = [⟨Text.escape u, .constant u⟩] ∧
        ∀ value, r.replace value = .ok u) ∧
    ∀ (source : Template) (target : Text) (count : Nat), (∀ literal ∈ source.literals, '*' ∉ literal) →
      (∀ last, source.literals.getLast? = some last → last.getLast? ≠ some '\\') → target ≠ [] →
      1 ≤ source.stars → Rule.WithinLimit (source.mapLiterals Text.escape).toText →
      target.count '*' = 0 ∨ target.count '*' = source.stars →
      ∃ rule, Rule.compile (Pattern.joined (source.mapLiterals Text.escape).toText target) count = .ok rule ∧
        rule.kind = .wildcard ∧
        rule.action = .wildcard (source.mapLiterals Text.normalizeBrackets) (Template.ofText target) ∧
        ∀ value, (rule.apply value).isSome ↔
          ∃ captures, (source.mapLiterals Text.normalizeBrackets).Fits value captures := by
  constructor
  · intro u nonempty input options handed
    obtain ⟨r, built, alone⟩ := build_escaped u nonempty input options handed
    exact ⟨r, built, alone, fun value => replace_of_constant r _ u value nonempty alone⟩
  · intro source target count plain unguarding something starred small counts
    have compiled := Rule.compile_escaped source target count plain unguarding something starred small counts
    refine ⟨_, compiled, rfl, rfl, ?_⟩
    intro value
    exact Rule.apply_is_some_iff_of_wildcard _ _ _ value rfl

-- The text has a guarded colon, a plain one and a star. The first literal ends in a backslash, and the last
-- has a guarded colon of its own, which a value has to spell just as it is.
theorem escaping_round_trip_guarded :
    (∃ r, build (.single "\\\\:*[\\:".toList) ⟨none, false⟩ = .ok r ∧
      r.replace "x".toList = .ok "\\:*[:".toList) ∧
    ∃ rule, Rule.compile "\\:\\*[*\\\\::<*|*>".toList 1 = .ok rule ∧ rule.kind = .wildcard ∧
      (rule.apply ":\\a(b\\:".toList).isSome ∧ ¬ (rule.apply ":\\a(b\\\\::".toList).isSome := by
  obtain ⟨constants, literals⟩ := escaping_round_trip
  obtain ⟨r, built, -, answers⟩ := constants "\\:*[:".toList (by decide) (.single "\\\\:*[\\:".toList)
    ⟨none, false⟩ (by decide)
  have unguarding : ∀ last, (["[".toList, "\\:".toList] : List Text).getLast? = some last →
      last.getLast? ≠ some '\\' := by
    intro last ends
    cases ends
    decide
  obtain ⟨rule, compiled, wildcard, action, applies⟩ := literals ⟨":\\".toList, ["[".toList, "\\:".toList]⟩
    "<*|*>".toList 1 (by decide) unguarding (by decide) (by decide) (by decide) (.inr rfl)
  refine ⟨⟨r, built, answers _⟩, rule, compiled, wildcard, ?_, ?_⟩
  · exact (applies _).2 ⟨["a".toList, "b".toList], rfl, by decide, rfl⟩
  · rw [Rule.apply, action]
    decide

end Replacer

end WildcardRules
