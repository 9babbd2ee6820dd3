import WildcardRules.Proofs.Leftmost

set_option autoImplicit false

namespace WildcardRules

namespace Text

-- Where a literal would now stand earlier, it would be over before the added text begins, and so it would
-- have stood there all along.
theorem ends_first_append (before literal after more : Text)
    (first : before.EndsFirst literal (before ++ (literal ++ after))) :
    before.EndsFirst literal (before ++ (literal ++ (after ++ more))) := by
  intro shorter leads different occurs
  have start : before ++ (literal ++ after) <+: before ++ (literal ++ (after ++ more)) := ⟨more, by simp⟩
  have bound : (shorter ++ literal).length ≤ (before ++ (literal ++ after)).length := by
    have less := leads.length_le
    simp only [List.length_append]
    omega
  exact first shorter leads different (List.prefix_of_prefix_length_le occurs start bound)

theorem cut_append (t literal before after more : Text) (found : t.cut? literal = some (before, after)) :
    (t ++ more).cut? literal = some (before, after ++ more) := by
  have first := cut_ends_first t literal before after found
  obtain ⟨rfl, inline⟩ := cut_eq_some t literal before after found
  have longer := cut_of_ends_first before literal (after ++ more) inline
    (ends_first_append before literal after more first)
  rwa [List.append_assoc, List.append_assoc]

end Text

namespace Template

def OpenEnded (t : Template) : Prop := ∃ front, t.tail = front ++ [[]]

theorem of_text_concat_star (text : Text) :
    ofText (text ++ ['*']) = ⟨(ofText text).head, (ofText text).tail ++ [[]]⟩ := by
  induction text with
  | nil => rfl
  | cons c text ih =>
      by_cases star : c = '*'
      · simp [ofText, ih, star]
      · simp [ofText, ih, star]

theorem open_ended_of_text (text : Text) (ends : text.getLast? = some '*') : (ofText text).OpenEnded := by
  obtain ⟨before, whole⟩ := List.getLast?_eq_some_iff.1 ends
  rw [whole, of_text_concat_star]
  exact ⟨(ofText before).tail, rfl⟩

theorem open_ended_map (f : Text → Text) (t : Template) (empty : f [] = []) (openEnded : t.OpenEnded) :
    (t.mapLiterals f).OpenEnded := by
  obtain ⟨front, ends⟩ := openEnded
  exact ⟨front.map f, by simp [mapLiterals, ends, empty]⟩

theorem place_append (front captures : List Text) (t more : Text) (inline : more.OneLine)
    (placed : place? (front ++ [[]]) t = some captures) :
    ∃ earlier last, captures = earlier ++ [last] ∧
      place? (front ++ [[]]) (t ++ more) = some (earlier ++ [last ++ more]) := by
  induction front generalizing t captures with
  | nil =>
      simp only [List.nil_append, place?, Option.map_eq_some_iff, Text.cut_end_eq_some_iff] at placed
      obtain ⟨capture, ⟨rfl, captureInline⟩, rfl⟩ := placed
      refine ⟨[], capture, rfl, ?_⟩
      have ends := (Text.cut_end_eq_some_iff (capture ++ more) [] (capture ++ more)).2
        ⟨by simp, Text.one_line_append capture more captureInline inline⟩
      simp [place?, ends]
  | cons literal front ih =>
      obtain ⟨next, rest, shape⟩ : ∃ next rest, front ++ [[]] = next :: rest :=
        List.exists_cons_of_ne_nil (by simp)
      rw [List.cons_append, shape] at placed ⊢
      rw [shape] at ih
      simp only [place?, Option.bind_eq_some_iff, Option.map_eq_some_iff, Prod.exists] at placed
      obtain ⟨before, after, found, others, inner, rfl⟩ := placed
      obtain ⟨earlier, last, rfl, longer⟩ := ih others after inner
      have cut := Text.cut_append t literal before after more found
      exact ⟨before :: earlier, last, rfl, place_next literal next _ before _ rest _ cut longer⟩

variable (t : Template)

theorem captures_append (value more : Text) (captures : List Text) (openEnded : t.OpenEnded)
    (inline : more.OneLine) (found : t.captures? value = some captures) :
    ∃ earlier last, captures = earlier ++ [last] ∧
      t.captures? (value ++ more) = some (earlier ++ [last ++ more]) := by
  obtain ⟨front, ends⟩ := openEnded
  obtain ⟨rest, starts, placed⟩ := (captures_some_iff_placed t value captures).1 found
  rw [ends] at placed
  obtain ⟨earlier, last, whole, longer⟩ := place_append front captures rest more inline placed
  have longerStarts : value ++ more = t.head ++ (rest ++ more) := by rw [starts, List.append_assoc]
  rw [← ends] at longer
  exact ⟨earlier, last, whole, (captures_some_iff_placed t _ _).2 ⟨_, longerStarts, longer⟩⟩

theorem fill_append (earlier : List Text) (last more : Text) (openEnded : t.OpenEnded)
    (count : (earlier ++ [last]).length = t.stars) :
    t.fill (earlier ++ [last ++ more]) = t.fill (earlier ++ [last]) ++ more := by
  obtain ⟨front, ends⟩ := openEnded
  have frontCount : earlier.length = front.length := by simpa [stars, ends] using count
  rw [fill, fill, ends, interleave_append earlier _ front _ frontCount, interleave_append earlier _ front _ frontCount]
  simp [interleave]

end Template

namespace Rule

open Pattern

theorem suffix_taken (pattern : Text) (count : Nat) (rule : Rule) (source target : Text)
    (compiled : compile pattern count = .ok rule) (wildcard : rule.kind = .wildcard)
    (halves : split? pattern = some (source, target)) (ends : source.getLast? = some '*') :
    ∃ read, read = (Template.ofText source).mapLiterals readLiteral ∧
      rule.action = .wildcard read (Template.ofText target) ∧
      ∀ value more : Text, (rule.apply value).isSome → more.OneLine →
        ∃ earlier last, read.captures? value = some (earlier ++ [last]) ∧
          read.captures? (value ++ more) = some (earlier ++ [last ++ more]) ∧
          (rule.apply (value ++ more)).isSome ∧
          (target.getLast? = some '*' → ∀ result, rule.apply value = some result →
            rule.apply (value ++ more) = some (result ++ more)) ∧
          ('*' ∉ target → rule.apply (value ++ more) = rule.apply value) := by
  obtain ⟨s, t, pair, -, counts, action⟩ := wildcard_action pattern count rule compiled wildcard
  cases halves.symm.trans (split_of_pair pattern s t pair).1
  have openEnded := Template.open_ended_map readLiteral _ rfl (Template.open_ended_of_text source ends)
  refine ⟨(Template.ofText source).mapLiterals readLiteral, rfl, action, ?_⟩
  intro value more applies inline
  obtain ⟨result, applied⟩ := Option.isSome_iff_exists.1 applies
  rw [apply, action, Option.map_eq_some_iff] at applied
  obtain ⟨captures, found, -⟩ := applied
  obtain ⟨earlier, last, rfl, longer⟩ := Template.captures_append _ value more captures openEnded inline found
  have applied := apply_of_captures rule _ _ value _ action found
  have appliedLonger := apply_of_captures rule _ _ (value ++ more) _ action longer
  refine ⟨earlier, last, found, longer, Option.isSome_iff_exists.2 ⟨_, appliedLonger⟩, ?_, ?_⟩
  · intro targetEnds result same
    rw [applied] at same
    have starred : target.count '*' ≠ 0 :=
      Nat.pos_iff_ne_zero.1 (List.count_pos_iff.2 (List.mem_of_getLast? targetEnds))
    have captured : (earlier ++ [last]).length = (Template.ofText target).stars := by
      rw [(Template.fits_of_captures _ value _ found).count, Template.stars_map_literals, Template.stars_of_text,
        Template.stars_of_text]
      omega
    have goesOn := Template.fill_append _ earlier last more (Template.open_ended_of_text target targetEnds) captured
    rw [appliedLonger, goesOn, Option.some.inj same]
  · intro plain
    have starless : (Template.ofText target).stars = 0 := by
      rw [Template.stars_of_text, List.count_eq_zero.2 plain]
    rw [applied, appliedLonger, Template.fill_of_text_plain _ target starless,
      Template.fill_of_text_plain _ target starless]

theorem suffix_taken_across :
    (∃ rule, compile "*aba*:<*|*".toList 1 = .ok rule ∧ rule.apply "xaba".toList = some "<x|".toList ∧
      rule.apply "xababa".toList = some "<x|ba".toList) ∧
    ∃ rule, compile "[*\\:*:y".toList 1 = .ok rule ∧ rule.apply "(a:".toList = some "y".toList ∧
      rule.apply "(a::[".toList = some "y".toList := by
  constructor
  · obtain ⟨rule, compiled, wildcard, applied⟩ : ∃ rule, compile "*aba*:<*|*".toList 1 = .ok rule ∧
        rule.kind = .wildcard ∧ rule.apply "xaba".toList = some "<x|".toList :=
      ⟨⟨"*aba*:<*|*".toList, .wildcard ⟨[], ["aba".toList, []]⟩ ⟨"<".toList, ["|".toList, []]⟩⟩, rfl, rfl, rfl⟩
    obtain ⟨read, -, -, goesOn⟩ := suffix_taken _ 1 rule "*aba*".toList "<*|*".toList compiled wildcard
      (by decide) (by decide)
    have applies := Option.isSome_iff_exists.2 ⟨_, applied⟩
    obtain ⟨earlier, last, -, -, -, longer, -⟩ := goesOn "xaba".toList "ba".toList applies (by decide)
    exact ⟨rule, compiled, applied, longer (by decide) _ applied⟩
  · obtain ⟨rule, compiled, wildcard, applied⟩ : ∃ rule, compile "[*\\:*:y".toList 1 = .ok rule ∧
        rule.kind = .wildcard ∧ rule.apply "(a:".toList = some "y".toList :=
      ⟨⟨"[*\\:*:y".toList, .wildcard ⟨"(".toList, [":".toList, []]⟩ ⟨"y".toList, []⟩⟩, rfl, rfl, rfl⟩
    obtain ⟨read, -, -, goesOn⟩ := suffix_taken _ 1 rule "[*\\:*".toList "y".toList compiled wildcard
      (by decide) (by decide)
    have applies := Option.isSome_iff_exists.2 ⟨_, applied⟩
    obtain ⟨earlier, last, -, -, -, -, same⟩ := goesOn "(a:".toList ":[".toList applies (by decide)
    exact ⟨rule, compiled, applied, (same (by decide)).trans applied⟩

end Rule

end WildcardRules
