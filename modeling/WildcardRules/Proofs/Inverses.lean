import WildcardRules.Proofs.Wildcard
import WildcardRules.Proofs.Writing

set_option autoImplicit false

namespace WildcardRules

namespace Text

def Plain (t : Text) : Prop := ∀ c ∈ ['*', ':', '[', ']'], c ∉ t

instance (t : Text) : Decidable t.Plain := List.decidableBAll (fun c => c ∉ t) ['*', ':', '[', ']']

theorem unescape_of_unguarded (t : Text) (unguarded : ¬ ['\\', ':'] <:+: t) : unescape t = t := by
  induction t with
  | nil => rfl
  | cons c t ih =>
      have rest := ih fun inside => unguarded (List.infix_cons inside)
      have plain : c ≠ '\\' ∨ t.head? ≠ some ':' := by
        by_cases backslash : c = '\\'
        · refine .inr fun colon => unguarded ?_
          obtain ⟨after, split⟩ := List.head?_eq_some_iff.1 colon
          rw [backslash, split]
          exact ⟨[], after, rfl⟩
        · exact .inl backslash
      rw [unescape_cons c t plain, rest]

end Text

namespace Rule

theorem read_literal_of_unguarded (literal : Text) (unguarded : ¬ ['\\', ':'] <:+: literal)
    (opening : '[' ∉ literal) (closing : ']' ∉ literal) : readLiteral literal = literal := by
  rw [readLiteral, Text.unescape_of_unguarded literal unguarded]
  have round := (Text.has_square_bracket_eq_false_iff literal).2 ⟨opening, closing⟩
  exact Text.normalize_brackets_eq_self literal round

theorem read_literal_of_plain (literal : Text) (plain : literal.Plain) : readLiteral literal = literal := by
  have unguarded : ¬ ['\\', ':'] <:+: literal := by
    intro inside
    exact plain ':' (by simp) (inside.subset (by simp))
  exact read_literal_of_unguarded literal unguarded (plain '[' (by simp)) (plain ']' (by simp))

end Rule

namespace Template

def around (before after : Text) : Template := ⟨before, [after]⟩

theorem stars_around (before after : Text) : (around before after).stars = 1 := rfl

theorem to_text_around (before after : Text) : (around before after).toText = before ++ '*' :: after := by
  simp [toText, around, stars, fill, interleave]

theorem of_text_around (before after : Text) (first : '*' ∉ before) (second : '*' ∉ after) :
    ofText (before ++ '*' :: after) = around before after := by
  rw [← to_text_around]
  exact of_text_to_text _ (by simp [around, literals, first, second])

theorem captures_around (before after value : Text) (captures : List Text) :
    (around before after).captures? value = some captures ↔
      ∃ inner, captures = [inner] ∧ inner.OneLine ∧ value = before ++ (inner ++ after) := by
  simp only [captures_some_iff_placed, around, place?, Option.map_eq_some_iff, Text.cut_end_eq_some_iff]
  constructor
  · intro found
    obtain ⟨rest, whole, inner, ⟨rfl, inline⟩, rfl⟩ := found
    exact ⟨inner, rfl, inline, whole⟩
  · intro found
    obtain ⟨inner, rfl, inline, whole⟩ := found
    exact ⟨inner ++ after, whole, inner, ⟨rfl, inline⟩, rfl⟩

theorem literals_infix (text : Text) : ∀ literal ∈ (ofText text).literals, literal <:+: text := by
  have parts : (ofText text).head <+: text ∧ ∀ literal ∈ (ofText text).tail, literal <:+: text := by
    induction text with
    | nil => exact ⟨List.nil_prefix, by simp [ofText]⟩
    | cons c text ih =>
        obtain ⟨leads, inside⟩ := ih
        have deeper : ∀ literal ∈ (ofText text).tail, literal <:+: c :: text :=
          fun literal member => List.infix_cons (inside literal member)
        by_cases star : c = '*'
        · rw [ofText, if_pos star]
          exact ⟨List.nil_prefix, List.forall_mem_cons.2 ⟨List.infix_cons leads.isInfix, deeper⟩⟩
        · rw [ofText, if_neg star]
          exact ⟨(List.prefix_cons_inj c).2 leads, deeper⟩
  exact List.forall_mem_cons.2 ⟨parts.1.isInfix, parts.2⟩

theorem map_literals_eq_self (f : Text → Text) (t : Template)
    (same : ∀ literal ∈ t.literals, f literal = literal) : t.mapLiterals f = t := by
  obtain ⟨head, tail⟩ := t
  obtain ⟨headSame, tailSame⟩ := List.forall_mem_cons.1 same
  have mapped : tail.map f = tail := (List.map_congr_left tailSame).trans (List.map_id tail)
  rw [mapLiterals, headSame, mapped]

theorem read_of_text_unguarded (text : Text) (unguarded : ¬ ['\\', ':'] <:+: text) (opening : '[' ∉ text)
    (closing : ']' ∉ text) : (ofText text).mapLiterals Rule.readLiteral = ofText text := by
  apply map_literals_eq_self
  intro literal member
  have inside := literals_infix text literal member
  exact Rule.read_literal_of_unguarded literal (fun guard => unguarded (guard.trans inside))
    (fun present => opening (inside.subset present)) (fun present => closing (inside.subset present))

end Template

namespace Rule

open Pattern

theorem compile_around (a b c d : Text) (count : Nat) (plain : ∀ t ∈ [a, b, c, d], t.Plain)
    (unguarding : b.getLast? ≠ some '\\') (small : WithinLimit (a ++ '*' :: b)) :
    compile (joined (a ++ '*' :: b) (c ++ '*' :: d)) count =
      .ok ⟨joined (a ++ '*' :: b) (c ++ '*' :: d), .wildcard (Template.around a b) (Template.around c d)⟩ := by
  obtain ⟨plainA, plainB, plainC, plainD⟩ : a.Plain ∧ b.Plain ∧ c.Plain ∧ d.Plain := by simpa using plain
  have colonless : ':' ∉ (Template.around a b).toText := by
    simp [Template.to_text_around, plainA ':' (by simp), plainB ':' (by simp)]
  have isSource := is_source_of_guarded (Template.around a b) (Nat.le_refl 1)
    (by simpa [Template.around, Template.literals] using unguarding) (Text.guarded_of_plain _ colonless)
  have starless : ∀ literal ∈ (Template.around a b).literals, '*' ∉ literal := by
    simp [Template.around, Template.literals, plainA '*' (by simp), plainB '*' (by simp)]
  have target := Template.of_text_around c d (plainC '*' (by simp)) (plainD '*' (by simp))
  have wanted : (c ++ '*' :: d).count '*' = (Template.around a b).stars := by
    rw [← Template.stars_of_text, target, Template.stars_around, Template.stars_around]
  have compiled := compile_written (Template.around a b) (c ++ '*' :: d) count isSource starless (by simp)
    (Nat.le_refl 1) (by rwa [Template.to_text_around]) (.inr wanted)
  have read : (Template.around a b).mapLiterals readLiteral = Template.around a b := by
    simp [Template.around, Template.mapLiterals, read_literal_of_plain a plainA, read_literal_of_plain b plainB]
  rwa [read, target, Template.to_text_around] at compiled

theorem apply_around (rule : Rule) (a b c d value result : Text)
    (action : rule.action = .wildcard (Template.around a b) (Template.around c d)) :
    rule.apply value = some result ↔
      ∃ inner : Text, inner.OneLine ∧ value = a ++ (inner ++ b) ∧ result = c ++ (inner ++ d) := by
  have filled : ∀ inner : Text, (Template.around c d).fill [inner] = c ++ (inner ++ d) := by
    intro inner
    simp [Template.around, Template.fill, Template.interleave]
  rw [apply, action]
  simp only [Option.map_eq_some_iff, Template.captures_around]
  constructor
  · intro applied
    obtain ⟨captures, ⟨inner, rfl, inline, whole⟩, rfl⟩ := applied
    exact ⟨inner, inline, whole, filled inner⟩
  · intro parts
    obtain ⟨inner, inline, whole, rfl⟩ := parts
    exact ⟨[inner], ⟨inner, rfl, inline, whole⟩, filled inner⟩

theorem compile_identity (s : Text) (count : Nat) (isSource : IsSource s) (starred : '*' ∈ s)
    (opening : '[' ∉ s) (closing : ']' ∉ s) (unguarded : ¬ ['\\', ':'] <:+: s)
    (small : WithinLimit s) :
    compile (joined s s) count =
      .ok ⟨joined s s, .wildcard (Template.ofText s) (Template.ofText s)⟩ := by
  have stars := Template.stars_of_text s
  have spelled := Template.to_text_of_text s
  have present : 1 ≤ s.count '*' := List.count_pos_iff.2 starred
  have compiled := compile_written (Template.ofText s) s count (by rwa [spelled])
    (Template.literals_of_text_plain s) isSource.nonempty (by rwa [stars]) (by rwa [spelled]) (.inr stars.symm)
  rwa [spelled, Template.read_of_text_unguarded s unguarded opening closing] at compiled

theorem apply_identity (rule : Rule) (t : Template) (value result : Text) (action : rule.action = .wildcard t t) :
    rule.apply value = some result ↔ result = value ∧ ∃ captures, t.Fits value captures := by
  constructor
  · intro applied
    obtain ⟨captures, shortest, rfl⟩ := (apply_eq_some_iff_of_wildcard rule t t value result action).1 applied
    exact ⟨shortest.fits.filled.symm, captures, shortest.fits⟩
  · intro both
    obtain ⟨rfl, fitting⟩ := both
    obtain ⟨captures, found⟩ := Option.isSome_iff_exists.1 ((Template.captures_is_some_iff t result).2 fitting)
    have fits := Template.fits_of_captures t result captures found
    rw [apply_of_captures rule t t result captures action found, ← fits.filled]

theorem inverse_and_identity :
    (∀ (a b c d : Text) (count : Nat), (∀ t ∈ [a, b, c, d], t.Plain) →
      b.getLast? ≠ some '\\' → d.getLast? ≠ some '\\' →
      WithinLimit (a ++ '*' :: b) → WithinLimit (c ++ '*' :: d) →
      ∃ there back, compile (joined (a ++ '*' :: b) (c ++ '*' :: d)) count = .ok there ∧
        compile (joined (c ++ '*' :: d) (a ++ '*' :: b)) count = .ok back ∧
        there.kind = .wildcard ∧ back.kind = .wildcard ∧
        (∀ value result, there.apply value = some result ↔
          ∃ inner : Text, inner.OneLine ∧ value = a ++ (inner ++ b) ∧ result = c ++ (inner ++ d)) ∧
        (∀ value result, back.apply value = some result ↔
          ∃ inner : Text, inner.OneLine ∧ value = c ++ (inner ++ d) ∧ result = a ++ (inner ++ b)) ∧
        ∀ value result, there.apply value = some result ↔ back.apply result = some value) ∧
    ∀ (s : Text) (count : Nat), split? (joined s s) = some (s, s) → '*' ∈ s → '[' ∉ s → ']' ∉ s →
      ¬ ['\\', ':'] <:+: s → WithinLimit s →
      ∃ rule, compile (joined s s) count = .ok rule ∧ rule.kind = .wildcard ∧
        ∀ value result, rule.apply value = some result ↔
          result = value ∧ ∃ captures, (Template.ofText s).Fits value captures := by
  constructor
  · intro a b c d count plain first second small smallBack
    have turned : ∀ t ∈ [c, d, a, b], t.Plain := by
      intro t member
      exact plain t (by simpa [or_comm, or_assoc, or_left_comm] using member)
    refine ⟨_, _, compile_around a b c d count plain first small,
      compile_around c d a b count turned second smallBack, rfl, rfl,
      fun value result => apply_around _ a b c d value result rfl,
      fun value result => apply_around _ c d a b value result rfl, ?_⟩
    intro value result
    rw [apply_around _ a b c d value result rfl, apply_around _ c d a b result value rfl]
    constructor
    · intro forth
      obtain ⟨inner, inline, whole, made⟩ := forth
      exact ⟨inner, inline, made, whole⟩
    · intro back
      obtain ⟨inner, inline, made, whole⟩ := back
      exact ⟨inner, inline, whole, made⟩
  · intro s count separated starred opening closing unguarded small
    have isSource := split_is_source _ s s separated
    exact ⟨_, compile_identity s count isSource starred opening closing unguarded small, rfl,
      fun value result => apply_identity _ _ value result rfl⟩

theorem inverse_and_identity_overlapping :
    (∃ there back, compile "a\\*bb:*|".toList 1 = .ok there ∧ compile "*|:a\\*bb".toList 1 = .ok back ∧
      there.apply "a\\bba\\bbb".toList = some "bba\\b|".toList ∧
      back.apply "bba\\b|".toList = some "a\\bba\\bbb".toList) ∧
    ∃ rule, compile ":*a*::*a*".toList 1 = .ok rule ∧ rule.apply ":[aa".toList = some ":[aa".toList := by
  obtain ⟨inverse, identity⟩ := inverse_and_identity
  constructor
  · obtain ⟨there, back, forth, turned, -, -, maps, -, undone⟩ := inverse "a\\".toList "bb".toList [] "|".toList 1
      (by decide) (by decide) (by decide) (by decide) (by decide)
    have applied := (maps "a\\bba\\bbb".toList "bba\\b|".toList).2 ⟨"bba\\b".toList, by decide, rfl, rfl⟩
    exact ⟨there, back, forth, turned, applied, (undone _ _).1 applied⟩
  · obtain ⟨rule, compiled, -, keeps⟩ := identity ":*a*".toList 1 (by decide) (by decide) (by decide) (by decide)
      (by decide) (by decide)
    have fits : (Template.ofText ":*a*".toList).Fits ":[aa".toList ["[".toList, "a".toList] :=
      ⟨rfl, by decide, rfl⟩
    exact ⟨rule, compiled, (keeps _ _).2 ⟨rfl, _, fits⟩⟩

end Rule

end WildcardRules
