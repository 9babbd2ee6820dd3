import WildcardRules.Proofs.BracketStyle

set_option autoImplicit false

namespace WildcardRules

namespace Text

def squareBrackets (t : Text) : Text := t.filter fun c => c == '[' || c == ']'

theorem square_brackets_cons (c : Char) (t : Text) :
    squareBrackets (c :: t) = squareBrackets [c] ++ t.squareBrackets := List.filter_append [c] t

theorem square_brackets_append (t u : Text) :
    (t ++ u).squareBrackets = t.squareBrackets ++ u.squareBrackets := List.filter_append t u

theorem square_brackets_nil_iff (t : Text) : t.squareBrackets = [] ↔ '[' ∉ t ∧ ']' ∉ t := by
  rw [← has_square_bracket_eq_false_iff, squareBrackets, List.filter_eq_nil_iff, hasSquareBracket, List.any_eq_false]

theorem square_brackets_normalize (t : Text) : t.normalizeBrackets.squareBrackets = [] :=
  (square_brackets_nil_iff _).2 (not_mem_normalize_brackets t)

theorem square_brackets_of_subset (t u : Text) (inside : t ⊆ u) (none : u.squareBrackets = []) :
    t.squareBrackets = [] := by
  obtain ⟨noOpening, noClosing⟩ := (square_brackets_nil_iff u).1 none
  refine (square_brackets_nil_iff t).2 ⟨?_, ?_⟩
  · exact fun present => noOpening (inside present)
  · exact fun present => noClosing (inside present)

theorem count_square_brackets (t : Text) (c : Char) (square : c ∈ ['[', ']']) :
    t.squareBrackets.count c = t.count c := by
  apply List.count_filter
  simpa using square

theorem square_brackets_unescape (t : Text) : (unescape t).squareBrackets = t.squareBrackets := by
  induction t using unescape.induct with
  | case1 t ih => rw [unescape_guarded, square_brackets_cons, ih]; rfl
  | case2 c t plain ih => rw [unescape, square_brackets_cons, ih, ← square_brackets_cons]; exact plain
  | case3 => rfl

end Text

namespace Template

theorem captures_inside (captures literals : List Text) (count : captures.length = literals.length) :
    ∀ capture ∈ captures, capture ⊆ interleave captures literals := by
  induction captures, literals, count using paired_induction with
  | nil => simp
  | cons first captures literal literals count ih =>
      intro capture member c inside
      cases member with
      | head => simp [interleave, inside]
      | tail _ member => simp [interleave, ih capture member inside]

theorem square_brackets_interleave (captures literals : List Text)
    (none : ∀ capture ∈ captures, capture.squareBrackets = []) :
    (interleave captures literals).squareBrackets = Text.squareBrackets literals.flatten := by
  induction literals generalizing captures with
  | nil => cases captures <;> rfl
  | cons literal literals ih =>
      cases captures with
      | nil =>
          rw [interleave, List.flatten_cons, Text.square_brackets_append, Text.square_brackets_append,
            ih [] (by simp)]
      | cons capture captures =>
          obtain ⟨first, others⟩ := List.forall_mem_cons.1 none
          rw [interleave, List.flatten_cons, Text.square_brackets_append, Text.square_brackets_append,
            Text.square_brackets_append, first, ih captures others]
          rfl

theorem square_brackets_fill (text : Text) (captures : List Text)
    (none : ∀ capture ∈ captures, capture.squareBrackets = []) :
    ((ofText text).fill captures).squareBrackets = text.squareBrackets := by
  have literals : (ofText text).head ++ (ofText text).tail.flatten = text.filter (· ≠ '*') :=
    flatten_literals_of_text text
  rw [fill, Text.square_brackets_append, square_brackets_interleave captures _ none, ← Text.square_brackets_append,
    literals, Text.squareBrackets, List.filter_filter]
  apply List.filter_congr
  intro c _
  by_cases star : c = '*'
  · simp [star]
  · simp [star]

end Template

def Pattern.written (p : Text) : Text :=
  match read p with
  | .bare value => value
  | .pair _ target => target

theorem Rule.square_brackets_of_result (pattern : Text) (count : Nat) (rule : Rule)
    (compiled : Compiled pattern count rule) (value result : Text) (round : value.squareBrackets = [])
    (applied : rule.apply value = some result) :
    result.squareBrackets = (Pattern.written rule.pattern).squareBrackets := by
  cases compiled with
  | constant bare read single =>
      cases applied
      rw [Pattern.written, read, Text.square_brackets_unescape]
  | exact source target pair plain =>
      rw [Pattern.written, pair]
      simp only [apply, Option.ite_none_right_eq_some, Option.some.injEq] at applied
      rw [applied.2]
  | wildcard source target pair starred counts small =>
      rw [Pattern.written, pair]
      obtain ⟨captures, shortest, rfl⟩ := (apply_eq_some_iff_of_wildcard _ _ _ value result rfl).1 applied
      apply Template.square_brackets_fill
      intro capture member
      refine Text.square_brackets_of_subset capture value ?_ round
      rw [shortest.fits.filled]
      exact List.subset_append_of_subset_right _
        (Template.captures_inside captures _ shortest.fits.count capture member)

namespace Replacer

theorem decided_or_kept (r : Replacer) (value result : Text) (inhabited : r.rules ≠ [])
    (replaced : r.replace value = .ok result) :
    (∃ rule, r.Decides value.normalizeBrackets rule result) ∨
      r.FallsThrough value ∧ result = value.normalizeBrackets := by
  by_cases fruitless : ∀ rule made, r.Decides value.normalizeBrackets rule made → made = []
  · rw [replace_of_no_result r value inhabited (no_result_of_fruitless r _ fruitless)] at replaced
    cases required : r.required with
    | true =>
        rw [required] at replaced
        cases replaced
    | false =>
        rw [required] at replaced
        cases replaced
        exact .inr ⟨⟨required, fruitless⟩, rfl⟩
  · simp only [not_forall] at fruitless
    obtain ⟨rule, made, decides, something⟩ := fruitless
    cases replaced.symm.trans (replace_of_result r value rule made something decides)
    exact .inl ⟨rule, decides⟩

theorem square_brackets_written {r : Replacer} {input : RuleInput} {options : Options}
    (built : build input options = .ok r) (value : Text) :
    (∀ rule result, r.Decides value.normalizeBrackets rule result →
      result.squareBrackets = (Pattern.written rule.pattern).squareBrackets ∧
        ∀ c ∈ ['[', ']'], result.count c = (Pattern.written rule.pattern).count c) ∧
    (r.rules ≠ [] →
      (∀ result, r.replace value = .ok result →
        (∃ rule, r.Decides value.normalizeBrackets rule result) ∨
          r.FallsThrough value ∧ result = value.normalizeBrackets ∧ '[' ∉ result ∧ ']' ∉ result) ∧
      ∀ e, r.replace value = .error e → '[' ∉ e.value ∧ ']' ∉ e.value) ∧
    (r.rules = [] → r.replace value = .ok value) := by
  have round := Text.not_mem_normalize_brackets value
  refine ⟨?_, fun inhabited => ⟨?_, ?_⟩, ?_⟩
  · intro rule result decides
    obtain ⟨pattern, -, compiled⟩ := built_rule built rule (decides_member r _ rule result decides)
    obtain ⟨before, after, -, -, applied⟩ := decides
    have same := Rule.square_brackets_of_result pattern _ rule compiled value.normalizeBrackets result
      (Text.square_brackets_normalize value) applied
    refine ⟨same, fun c square => ?_⟩
    rw [← Text.count_square_brackets result c square, same, Text.count_square_brackets _ c square]
  · intro result replaced
    rcases decided_or_kept r value result inhabited replaced with decided | ⟨falls, rfl⟩
    · exact .inl decided
    · exact .inr ⟨falls, rfl, round⟩
  · intro e failed
    obtain ⟨-, -, rfl⟩ := (replace_error_iff value built inhabited e).1 failed
    exact round
  · intro none
    rw [replace, isIdentity, none]
    rfl

theorem square_brackets_written_each :
    ∃ r rule, build (.many ["f*:[]*[".toList]) ⟨none, false⟩ = .ok r ∧
      r.Decides "f(x)".toList rule "[](x)[".toList ∧
      ("[](x)[".toList).count '[' = (Pattern.written rule.pattern).count '[' ∧
      r.replace "g[x]".toList = .ok "g(x)".toList ∧ r.FallsThrough "g[x]".toList ∧
      ∃ kept, build (.many []) ⟨none, false⟩ = .ok kept ∧ kept.replace "g[x]".toList = .ok "g[x]".toList := by
  obtain ⟨rule, r, built, inhabited, decides, replaced, unmatched⟩ : ∃ rule r,
      build (.many ["f*:[]*[".toList]) ⟨none, false⟩ = .ok r ∧ r.rules ≠ [] ∧
      r.Decides "f(x)".toList rule "[](x)[".toList ∧ r.replace "g[x]".toList = .ok "g(x)".toList ∧
      r.firstMatch? "g(x)".toList = none :=
    ⟨⟨"f*:[]*[".toList, .wildcard ⟨"f".toList, [[]]⟩ ⟨"[]".toList, ["[".toList]⟩⟩,
      ⟨none, false, ["f*:[]*[".toList], _⟩, rfl, by simp, decides_alone _ _ _ _ rfl (by decide), by decide, by decide⟩
  have empty : build (.many []) ⟨none, false⟩ = .ok ⟨none, false, [], []⟩ := rfl
  obtain ⟨written, -, -⟩ := square_brackets_written built "f[x]".toList
  obtain ⟨-, shown, -⟩ := square_brackets_written built "g[x]".toList
  obtain ⟨-, -, kept⟩ := square_brackets_written empty "g[x]".toList
  refine ⟨r, rule, built, decides, (written rule _ decides).2 '[' (by simp), replaced, ?_, _, empty, kept rfl⟩
  rcases (shown inhabited).1 _ replaced with ⟨other, decided⟩ | ⟨falls, -⟩
  · cases unmatched.symm.trans ((first_match_some_iff r _ other _).2 decided)
  · exact falls

end Replacer

end WildcardRules
