import WildcardRules.Proofs.Backtracking
import WildcardRules.Proofs.Matches
import WildcardRules.Proofs.Wildcard

/-!
Captures told by where they end. Each literal but the last stands at its first occurrence behind the
literal before it, and there is one way at most to place the literals so.
-/

set_option autoImplicit false

namespace WildcardRules

namespace Text

def EndsFirst (t literal whole : Text) : Prop :=
  ∀ shorter : Text, shorter <+: t → shorter ≠ t → ¬ shorter ++ literal <+: whole

theorem ends_first_nil (literal whole : Text) : EndsFirst [] literal whole := by
  intro shorter leads different
  exact absurd (List.prefix_nil.1 leads) different

theorem ends_first_cons (c : Char) (t literal whole : Text) :
    EndsFirst (c :: t) literal (c :: whole) ↔ ¬ literal <+: c :: whole ∧ t.EndsFirst literal whole := by
  constructor
  · intro first
    refine ⟨first [] List.nil_prefix (by simp), ?_⟩
    intro shorter leads different occurs
    have longer : c :: shorter <+: c :: t := (List.prefix_cons_inj c).2 leads
    exact first (c :: shorter) longer (by simpa using different) ((List.prefix_cons_inj c).2 occurs)
  · intro both shorter leads different occurs
    cases shorter with
    | nil => exact both.1 occurs
    | cons d shorter =>
        obtain ⟨rfl, rest⟩ := List.cons_prefix_cons.1 leads
        exact both.2 shorter rest (by simpa using different) ((List.prefix_cons_inj d).1 occurs)

theorem ends_first_of_absent (d : Char) (t rest literal : Text) (absent : d ∉ t) :
    t.EndsFirst (d :: literal) (t ++ rest) := by
  intro shorter leads different occurs
  obtain ⟨extra, whole⟩ := leads
  cases extra with
  | nil => exact different (by simpa using whole)
  | cons c extra =>
      rw [← whole, List.append_assoc, List.prefix_append_right_inj] at occurs
      have same : d = c := (List.cons_prefix_cons.1 occurs).1
      exact absent (by simp [← whole, same])

theorem prefix_none_iff (t literal : Text) : literal.isPrefixOf? t = none ↔ ¬ literal <+: t := by
  constructor
  · intro absent leads
    obtain ⟨rest, whole⟩ := leads
    have found := List.isPrefixOf?_eq_some_iff_append_eq.2 whole
    cases absent.symm.trans found
  · intro absent
    cases found : literal.isPrefixOf? t with
    | none => rfl
    | some rest => exact absurd ⟨rest, List.isPrefixOf?_eq_some_iff_append_eq.1 found⟩ absent

theorem cut_ends_first (t literal before after : Text) (found : t.cut? literal = some (before, after)) :
    before.EndsFirst literal t := by
  induction t generalizing before with
  | nil =>
      obtain ⟨whole, -⟩ := cut_eq_some [] literal before after found
      have none : before = [] := (List.append_eq_nil_iff.1 whole.symm).1
      rw [none]
      exact ends_first_nil literal []
  | cons c t ih =>
      cases here : literal.isPrefixOf? (c :: t) with
      | some rest =>
          rw [cut_here (c :: t) literal rest here] at found
          obtain ⟨rfl, rfl⟩ := Prod.mk.inj (Option.some.inj found)
          exact ends_first_nil literal (c :: t)
      | none =>
          by_cases broken : c = '\n'
          · rw [cut?, here] at found
            simp [broken] at found
          · rw [cut_later c t literal here broken] at found
            simp only [Option.map_eq_some_iff, Prod.exists, Prod.mk.injEq] at found
            obtain ⟨inside, rest, inner, rfl, rfl⟩ := found
            exact (ends_first_cons c inside literal t).2 ⟨(prefix_none_iff _ literal).1 here, ih inside inner⟩

theorem cut_of_ends_first (before literal after : Text) (inline : before.OneLine)
    (first : before.EndsFirst literal (before ++ (literal ++ after))) :
    (before ++ (literal ++ after)).cut? literal = some (before, after) := by
  induction before with
  | nil => exact cut_here _ literal after (List.isPrefixOf?_eq_some_iff_append_eq.2 rfl)
  | cons c before ih =>
      obtain ⟨notHere, later⟩ := (ends_first_cons c before literal (before ++ (literal ++ after))).1 first
      simp only [OneLine, List.mem_cons, not_or] at inline
      rw [List.cons_append, cut_later c _ literal ((prefix_none_iff _ literal).2 notHere) (Ne.symm inline.1),
        ih inline.2 later]
      rfl

end Text

namespace Template

def Earliest (captures literals : List Text) (whole : Text) : Prop :=
  ∀ i capture literal, captures[i]? = some capture → literals[i]? = some literal → i + 1 < literals.length →
    ∀ shorter : Text, shorter <+: capture → shorter ≠ capture →
      ¬ interleave (captures.take i) (literals.take i) ++ (shorter ++ literal) <+: whole

theorem earliest_last (captures : List Text) (literal whole : Text) : Earliest captures [literal] whole := by
  intro i capture other _ _ inner
  simp at inner

theorem earliest_cons (capture literal rest : Text) (captures literals : List Text) (more : literals ≠ []) :
    Earliest (capture :: captures) (literal :: literals) (capture ++ (literal ++ rest)) ↔
      capture.EndsFirst literal (capture ++ (literal ++ rest)) ∧ Earliest captures literals rest := by
  have passed : ∀ i, interleave ((capture :: captures).take (i + 1)) ((literal :: literals).take (i + 1)) =
      capture ++ (literal ++ interleave (captures.take i) (literals.take i)) := fun i => rfl
  constructor
  · intro earliest
    refine ⟨earliest 0 capture literal rfl rfl (by simpa using List.length_pos_iff.2 more), ?_⟩
    intro i c l captured placed inner shorter leads different occurs
    have later := earliest (i + 1) c l captured placed (by simpa using inner) shorter leads different
    rw [passed, List.append_assoc, List.append_assoc, List.prefix_append_right_inj,
      List.prefix_append_right_inj] at later
    exact later occurs
  · intro both i c l captured placed inner shorter leads different
    cases i with
    | zero =>
        cases captured
        cases placed
        exact both.1 shorter leads different
    | succ i =>
        rw [passed, List.append_assoc, List.append_assoc, List.prefix_append_right_inj,
          List.prefix_append_right_inj]
        exact both.2 i c l captured placed (by simpa using inner) shorter leads different

theorem place_earliest (literals : List Text) (whole : Text) (captures : List Text)
    (placed : place? literals whole = some captures) : Earliest captures literals whole := by
  induction literals generalizing whole captures with
  | nil =>
      intro i capture literal _ absent
      simp at absent
  | cons literal literals ih =>
      cases literals with
      | nil => exact earliest_last captures literal whole
      | cons next literals =>
          simp only [place?, Option.bind_eq_some_iff, Option.map_eq_some_iff, Prod.exists] at placed
          obtain ⟨before, after, found, rest, inner, rfl⟩ := placed
          have first := Text.cut_ends_first whole literal before after found
          obtain ⟨rfl, -⟩ := Text.cut_eq_some whole literal before after found
          exact (earliest_cons before literal after rest _ (by simp)).2 ⟨first, ih after rest inner⟩

-- The other way round the search has no choice: it cuts at the first occurrence, and there the capture ends.
theorem place_of_earliest (literals captures : List Text) (count : captures.length = literals.length)
    (oneLine : ∀ c ∈ captures, c.OneLine) (earliest : Earliest captures literals (interleave captures literals)) :
    place? literals (interleave captures literals) = some captures := by
  induction captures, literals, count using paired_induction with
  | nil => simp [place?, interleave]
  | cons capture captures literal literals count ih =>
      obtain ⟨inline, restOneLine⟩ := List.forall_mem_cons.1 oneLine
      cases literals with
      | nil =>
          have none : captures = [] := List.eq_nil_of_length_eq_zero count
          have ends := (Text.cut_end_eq_some_iff (capture ++ literal) literal capture).2 ⟨rfl, inline⟩
          simp [place?, interleave, none, ends]
      | cons next literals =>
          obtain ⟨first, later⟩ := (earliest_cons capture literal _ captures _ (by simp)).1 earliest
          have found := Text.cut_of_ends_first capture literal (interleave captures (next :: literals)) inline first
          exact place_next literal next _ capture _ literals captures found (ih restOneLine later)

def upTo (t : Template) (captures : List Text) (i : Nat) : Text :=
  t.head ++ interleave (captures.take i) (t.tail.take i)

structure Leftmost (t : Template) (value : Text) (captures : List Text) : Prop where
  fits : t.Fits value captures
  earliest : ∀ i capture literal, captures[i]? = some capture → t.tail[i]? = some literal → i + 1 < t.stars →
    ∀ shorter : Text, shorter <+: capture → shorter ≠ capture →
      ¬ t.upTo captures i ++ (shorter ++ literal) <+: value

variable (t : Template) (value : Text) (captures : List Text)

theorem leftmost_iff_earliest (whole : Text) :
    t.Leftmost (t.head ++ whole) captures ↔
      t.Fits (t.head ++ whole) captures ∧ Earliest captures t.tail whole := by
  have behind : ∀ i (text : Text), t.upTo captures i ++ text <+: t.head ++ whole ↔
      interleave (captures.take i) (t.tail.take i) ++ text <+: whole := by
    intro i text
    rw [upTo, List.append_assoc, List.prefix_append_right_inj]
  constructor
  · intro leftmost
    refine ⟨leftmost.fits, ?_⟩
    intro i capture literal captured placed inner shorter leads different
    rw [← behind]
    exact leftmost.earliest i capture literal captured placed inner shorter leads different
  · intro both
    refine ⟨both.1, ?_⟩
    intro i capture literal captured placed inner shorter leads different
    rw [behind]
    exact both.2 i capture literal captured placed inner shorter leads different

theorem captures_eq_some_iff_leftmost : t.captures? value = some captures ↔ t.Leftmost value captures := by
  constructor
  · intro found
    have fits := fits_of_captures t value captures found
    obtain ⟨rest, whole, placed⟩ := (captures_some_iff_placed t value captures).1 found
    rw [whole] at fits ⊢
    exact (leftmost_iff_earliest t captures rest).2 ⟨fits, place_earliest t.tail rest captures placed⟩
  · intro leftmost
    have whole : value = t.head ++ interleave captures t.tail := leftmost.fits.filled
    rw [whole] at leftmost ⊢
    obtain ⟨fits, earliest⟩ := (leftmost_iff_earliest t captures _).1 leftmost
    have placed := place_of_earliest t.tail captures fits.count fits.oneLine earliest
    exact (captures_some_iff_placed t _ captures).2 ⟨_, rfl, placed⟩

theorem shortest_iff_leftmost : t.Shortest value captures ↔ t.Leftmost value captures :=
  (captures_eq_some_iff t value captures).symm.trans (captures_eq_some_iff_leftmost t value captures)

theorem leftmost_unique (other : List Text) (leftmost : t.Leftmost value captures)
    (again : t.Leftmost value other) : captures = other := by
  have found := (captures_eq_some_iff_leftmost t value captures).2 leftmost
  have foundAgain := (captures_eq_some_iff_leftmost t value other).2 again
  exact Option.some.inj (found.symm.trans foundAgain)

theorem leftmost_of_fits (fits : t.Fits value captures) : ∃ found, t.Leftmost value found := by
  obtain ⟨found, foundEq, -⟩ := captures_of_fits t value captures fits
  exact ⟨found, (captures_eq_some_iff_leftmost t value found).1 foundEq⟩

end Template

namespace Rule

open Pattern

theorem wildcard_leftmost (pattern : Text) (count : Nat) (rule : Rule)
    (compiled : compile pattern count = .ok rule) (wildcard : rule.kind = .wildcard) :
    ∃ source target read : Template,
      split? pattern = some (source.toText, target.toText) ∧
      (∀ literal ∈ source.literals, '*' ∉ literal) ∧ (∀ literal ∈ target.literals, '*' ∉ literal) ∧
      read = source.mapLiterals readLiteral ∧ rule.action = .wildcard read target ∧
      (∃ r, Regex.ofText read.expression = .ok r ∧ r.size ≤ Regex.sizeLimit ∧
        ∀ value, (rule.apply value).isSome = r.isMatch value) ∧
      ∀ value,
        (∀ captures, read.captures? value = some captures ↔ read.Leftmost value captures) ∧
        (∀ captures, read.backtracked? value = some captures ↔ read.Leftmost value captures) ∧
        (∀ captures, read.Shortest value captures ↔ read.Leftmost value captures) ∧
        (∀ result, rule.apply value = some result ↔
          ∃ captures, read.Leftmost value captures ∧ target.fill captures = result) ∧
        (∀ captures other, read.Leftmost value captures → read.Leftmost value other → captures = other) ∧
        ((∃ captures, read.Fits value captures) → ∃ captures, read.Leftmost value captures) := by
  obtain ⟨source, target, pair, starred, counts, action⟩ :=
    wildcard_action pattern count rule compiled wildcard
  refine ⟨Template.ofText source, Template.ofText target, (Template.ofText source).mapLiterals readLiteral, ?_,
    Template.literals_of_text_plain source, Template.literals_of_text_plain target, rfl, action,
    applies_iff_expression_matches pattern count rule compiled _ _ action, ?_⟩
  · rw [Template.to_text_of_text, Template.to_text_of_text]
    exact (split_of_pair pattern source target pair).1
  · intro value
    generalize (Template.ofText source).mapLiterals readLiteral = read at action ⊢
    refine ⟨Template.captures_eq_some_iff_leftmost read value, ?_, Template.shortest_iff_leftmost read value, ?_,
      Template.leftmost_unique read value, ?_⟩
    · intro captures
      rw [← Template.captures_eq_backtracked]
      exact Template.captures_eq_some_iff_leftmost read value captures
    · intro result
      rw [apply_eq_some_iff_of_wildcard rule read _ value result action]
      simp only [Template.shortest_iff_leftmost]
    · intro fitting
      obtain ⟨captures, fits⟩ := fitting
      exact Template.leftmost_of_fits read value captures fits

-- The middle literal overlaps with itself in the value, and what it leaves is more than the last one needs.
-- The guarded colon is a plain one in the value, and with the backslash it is no literal of the rule.
theorem wildcard_leftmost_overlapping :
    ∃ rule, compile "a\\:[*aba*ba:<*|*>".toList 1 = .ok rule ∧ rule.kind = .wildcard ∧
      rule.apply "a:(xabababa".toList = some "<x|ba>".toList ∧
      rule.apply "a\\:(xabababa".toList = none ∧
      Template.expression ⟨"a:(".toList, ["aba".toList, "ba".toList]⟩ = "^a:\\((.*?)aba(.*?)ba$".toList ∧
      Template.Leftmost ⟨"a:(".toList, ["aba".toList, "ba".toList]⟩ "a:(xabababa".toList
        ["x".toList, "ba".toList] := by
  let own : Template := ⟨"a:(".toList, ["aba".toList, "ba".toList]⟩
  let rule : Rule := ⟨"a\\:[*aba*ba:<*|*>".toList, .wildcard own ⟨"<".toList, ["|".toList, ">".toList]⟩⟩
  have compiled : compile "a\\:[*aba*ba:<*|*>".toList 1 = .ok rule := by decide
  obtain ⟨source, target, read, -, -, -, -, action, -, places⟩ := wildcard_leftmost _ 1 rule compiled rfl
  cases action
  obtain ⟨captured, -, -, applies, -⟩ := places "a:(xabababa".toList
  have leftmost := (captured ["x".toList, "ba".toList]).1 (by decide)
  exact ⟨rule, compiled, rfl, (applies _).2 ⟨_, leftmost, by decide⟩, by decide, by decide, leftmost⟩

end Rule

end WildcardRules
