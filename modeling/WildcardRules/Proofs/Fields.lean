import WildcardRules.Proofs.Leftmost
import WildcardRules.Proofs.Writing

set_option autoImplicit false

namespace WildcardRules

namespace Text

theorem mem_intercalate_of_mem (separator : Text) (fields : List Text) (c : Char) (field : Text)
    (present : field ∈ fields) (inside : c ∈ field) : c ∈ separator.intercalate fields := by
  induction fields with
  | nil => simp at present
  | cons first fields ih =>
      cases fields with
      | nil =>
          rw [List.mem_singleton.1 present] at inside
          rwa [List.intercalate_singleton]
      | cons next fields =>
          rw [List.intercalate_cons_cons]
          rcases List.mem_cons.1 present with same | later
          · simp [← same, inside]
          · simp [ih later]

theorem mem_of_mem_intercalate (separator : Text) (fields : List Text) (c : Char)
    (present : c ∈ separator.intercalate fields) : c ∈ separator ∨ ∃ field ∈ fields, c ∈ field := by
  induction fields with
  | nil => simp at present
  | cons first fields ih =>
      cases fields with
      | nil => exact .inr ⟨first, by simp, by rwa [List.intercalate_singleton] at present⟩
      | cons next fields =>
          rw [List.intercalate_cons_cons, List.append_assoc, List.mem_append, List.mem_append] at present
          rcases present with inside | between | later
          · exact .inr ⟨first, by simp, inside⟩
          · exact .inl between
          · rcases ih later with between | ⟨field, member, inside⟩
            · exact .inl between
            · exact .inr ⟨field, by simp [member], inside⟩

structure Fields (d : Char) (t : Text) (fields : List Text) : Prop where
  joined : t = [d].intercalate fields
  plain : ∀ field ∈ fields.dropLast, d ∉ field

theorem count_intercalate (d : Char) (fields : List Text) :
    fields.length ≤ ([d].intercalate fields).count d + 1 := by
  induction fields with
  | nil => simp
  | cons field fields ih =>
      cases fields with
      | nil => simp
      | cons next fields =>
          simp only [List.intercalate_cons_cons, List.count_append, List.count_singleton_self,
            List.length_cons] at ih ⊢
          omega

theorem fields_exist (d : Char) (cuts : Nat) (t : Text) (enough : cuts ≤ t.count d) :
    ∃ fields, fields.length = cuts + 1 ∧ Fields d t fields := by
  induction cuts generalizing t with
  | zero => exact ⟨[t], rfl, List.intercalate_singleton.symm, by simp⟩
  | succ cuts ih =>
      have present : d ∈ t := List.count_pos_iff.1 (by omega)
      obtain ⟨before, after, whole, absent⟩ := List.eq_append_cons_of_mem present
      have less : t.count d = after.count d + 1 := by
        rw [whole, List.count_append, List.count_eq_zero.2 absent, List.count_cons_self, Nat.zero_add]
      obtain ⟨fields, count, rest⟩ := ih after (by omega)
      obtain ⟨next, others, rfl⟩ := List.exists_cons_of_length_eq_add_one count
      refine ⟨before :: next :: others, by simp [count], ?_, ?_⟩
      · rw [List.intercalate_cons_cons, ← rest.joined, whole, List.append_assoc]
        rfl
      · rw [List.dropLast_cons_cons]
        exact List.forall_mem_cons.2 ⟨absent, rest.plain⟩

end Text

namespace Template

def separated (d : Char) (gaps : Nat) : Template := ⟨[], List.replicate gaps [d] ++ [[]]⟩

variable (d : Char) (gaps : Nat)

theorem stars_separated : (separated d gaps).stars = gaps + 1 := by
  simp [separated, stars]

theorem fill_separated (captures : List Text) (count : captures.length = gaps + 1) :
    (separated d gaps).fill captures = [d].intercalate captures := by
  change interleave captures (List.replicate gaps [d] ++ [[]]) = [d].intercalate captures
  induction gaps generalizing captures with
  | zero =>
      obtain ⟨capture, rest, rfl⟩ := List.exists_cons_of_length_eq_add_one count
      have none : rest = [] := List.eq_nil_of_length_eq_zero (by simpa using count)
      simp [interleave, none]
  | succ gaps ih =>
      obtain ⟨capture, rest, rfl⟩ := List.exists_cons_of_length_eq_add_one count
      have restCount : rest.length = gaps + 1 := by simpa using count
      obtain ⟨next, others, rfl⟩ := List.exists_cons_of_length_eq_add_one restCount
      rw [List.replicate_succ, List.cons_append, interleave, ih (next :: others) restCount,
        List.intercalate_cons_cons, List.append_assoc]

theorem to_text_separated : (separated d gaps).toText = [d].intercalate (List.replicate (gaps + 1) ['*']) := by
  rw [toText, stars_separated]
  exact fill_separated d gaps _ (by simp)

theorem literals_separated (literal : Text) (present : literal ∈ (separated d gaps).literals) :
    literal = [] ∨ literal = [d] := by
  rcases List.mem_cons.1 present with leading | behind
  · exact .inl leading
  · rcases List.mem_append.1 behind with between | ending
    · exact .inr (List.eq_of_mem_replicate between)
    · exact .inl (List.mem_singleton.1 ending)

theorem last_separated : (separated d gaps).literals.getLast? = some [] :=
  List.getLast?_concat (l := [] :: List.replicate gaps [d])

theorem read_separated (ordinary : d ∉ ['[', ']']) :
    (separated d gaps).mapLiterals Rule.readLiteral = separated d gaps := by
  obtain ⟨notOpen, notClose⟩ : d ≠ '[' ∧ d ≠ ']' := by simpa using ordinary
  have nothing : Rule.readLiteral [] = [] := rfl
  have read : Rule.readLiteral [d] = [d] := by
    rw [Rule.readLiteral, Text.unescape_cons d [] (.inr (by simp))]
    simp [Text.unescape, Text.roundBracket, notOpen, notClose]
  simp [mapLiterals, separated, nothing, read]

theorem earliest_separated (fields : List Text) (count : fields.length = gaps + 1)
    (plain : ∀ field ∈ fields.dropLast, d ∉ field) :
    Earliest fields (List.replicate gaps [d] ++ [[]]) ([d].intercalate fields) := by
  induction gaps generalizing fields with
  | zero => exact earliest_last fields [] _
  | succ gaps ih =>
      obtain ⟨field, rest, rfl⟩ := List.exists_cons_of_length_eq_add_one count
      have restCount : rest.length = gaps + 1 := by simpa using count
      obtain ⟨next, others, rfl⟩ := List.exists_cons_of_length_eq_add_one restCount
      rw [List.dropLast_cons_cons] at plain
      obtain ⟨absent, restPlain⟩ := List.forall_mem_cons.1 plain
      rw [List.replicate_succ, List.cons_append, List.intercalate_cons_cons, List.append_assoc]
      refine (earliest_cons field [d] _ _ _ (by simp)).2 ⟨?_, ih (next :: others) restCount restPlain⟩
      exact Text.ends_first_of_absent d field _ [] absent

theorem leftmost_of_fields (value : Text) (inline : value.OneLine) (fields : List Text)
    (count : fields.length = gaps + 1) (split : Text.Fields d value fields) :
    (separated d gaps).Leftmost value fields := by
  have fits : (separated d gaps).Fits value fields := by
    refine ⟨by rw [count, stars_separated], ?_, by rw [fill_separated d gaps fields count, split.joined]⟩
    intro field present broken
    apply inline
    rw [split.joined]
    exact Text.mem_intercalate_of_mem [d] fields '\n' field present broken
  have earliest := earliest_separated d gaps fields count split.plain
  rw [← split.joined] at earliest
  exact (leftmost_iff_earliest (separated d gaps) fields value).2 ⟨fits, earliest⟩

theorem fits_separated_iff (value : Text) (inline : value.OneLine) :
    (∃ captures, (separated d gaps).Fits value captures) ↔ gaps ≤ value.count d := by
  constructor
  · intro fitting
    obtain ⟨captures, fits⟩ := fitting
    have count : captures.length = gaps + 1 := fits.count.trans (stars_separated d gaps)
    have whole : value = [d].intercalate captures := fits.filled.trans (fill_separated d gaps captures count)
    have bound := Text.count_intercalate d captures
    rw [← whole] at bound
    omega
  · intro enough
    obtain ⟨fields, count, split⟩ := Text.fields_exist d gaps value enough
    exact ⟨fields, (leftmost_of_fields d gaps value inline fields count split).fits⟩

end Template

namespace Rule

open Pattern

theorem compile_separated (d : Char) (gaps : Nat) (target : Text) (count : Nat)
    (ordinary : d ∉ ['*', ':', '[', ']']) (something : target ≠ [])
    (small : WithinLimit (Template.separated d gaps).toText)
    (counts : target.count '*' = 0 ∨ target.count '*' = gaps + 1) :
    compile (joined (Template.separated d gaps).toText target) count =
      .ok ⟨joined (Template.separated d gaps).toText target,
        .wildcard (Template.separated d gaps) (Template.ofText target)⟩ := by
  obtain ⟨notStar, notColon, notOpen, notClose⟩ : d ≠ '*' ∧ d ≠ ':' ∧ d ≠ '[' ∧ d ≠ ']' := by
    simpa using ordinary
  have stars := Template.stars_separated d gaps
  have plain : ∀ literal ∈ (Template.separated d gaps).literals, '*' ∉ literal := by
    intro literal present
    rcases Template.literals_separated d gaps literal present with nothing | single
    · simp [nothing]
    · simp [single, Ne.symm notStar]
  have unguarding : ∀ last, (Template.separated d gaps).literals.getLast? = some last →
      last.getLast? ≠ some '\\' := by
    intro last ends
    cases (Template.last_separated d gaps).symm.trans ends
    simp
  have colonless : ':' ∉ (Template.separated d gaps).toText := by
    rw [Template.to_text_separated]
    intro present
    rcases Text.mem_of_mem_intercalate [d] _ ':' present with between | ⟨star, member, inside⟩
    · exact notColon (List.mem_singleton.1 between).symm
    · rw [List.eq_of_mem_replicate member] at inside
      simp at inside
  have isSource := is_source_of_guarded (Template.separated d gaps) (by omega) unguarding
    (Text.guarded_of_plain _ colonless)
  have compiled := compile_written (Template.separated d gaps) target count isSource plain something
    (by omega) small (by omega)
  rwa [Template.read_separated d gaps (by simp [notOpen, notClose])] at compiled

-- The fields are told by the value alone: there is one way only to write it as so many fields of which none
-- but the last holds the character.
theorem bounded_split (d : Char) (n : Nat) (target : Text) (count : Nat) (starred : 1 ≤ n)
    (small : WithinLimit ([d].intercalate (List.replicate n ['*'])))
    (ordinary : d ∉ ['*', ':', '[', ']', '\n']) (something : target ≠ [])
    (counts : target.count '*' = 0 ∨ target.count '*' = n) :
    ∃ rule source, compile (joined ([d].intercalate (List.replicate n ['*'])) target) count = .ok rule ∧
      rule.action = .wildcard source (Template.ofText target) ∧
      ∀ value, value.OneLine →
        ((rule.apply value).isSome ↔ n - 1 ≤ value.count d) ∧
        (n - 1 ≤ value.count d → ∃ fields, fields.length = n ∧ Text.Fields d value fields) ∧
        ∀ fields, fields.length = n → Text.Fields d value fields →
          source.captures? value = some fields ∧
          (target.count '*' = 0 → rule.apply value = some target) ∧
          (target.count '*' = n → rule.apply value = some ((Template.ofText target).head ++
            (List.zipWith (· ++ ·) fields (Template.ofText target).tail).flatten)) := by
  obtain ⟨gaps, rfl⟩ : ∃ gaps, n = gaps + 1 := ⟨n - 1, by omega⟩
  have unbracketed : d ∉ ['*', ':', '[', ']'] := fun present => ordinary (List.mem_append_left ['\n'] present)
  obtain ⟨rule, compiled, action⟩ :
      ∃ rule, compile (joined ([d].intercalate (List.replicate (gaps + 1) ['*'])) target) count = .ok rule ∧
        rule.action = .wildcard (Template.separated d gaps) (Template.ofText target) := by
    rw [← Template.to_text_separated] at small ⊢
    exact ⟨_, compile_separated d gaps target count unbracketed something small counts, rfl⟩
  refine ⟨rule, Template.separated d gaps, compiled, action, ?_⟩
  intro value inline
  refine ⟨?_, Text.fields_exist d gaps value, ?_⟩
  · rw [apply_is_some_iff_of_wildcard rule _ _ value action]
    exact Template.fits_separated_iff d gaps value inline
  · intro fields counted split
    have leftmost := Template.leftmost_of_fields d gaps value inline fields counted split
    have captured := (Template.captures_eq_some_iff_leftmost _ value fields).2 leftmost
    have applied := apply_of_captures rule _ _ value fields action captured
    refine ⟨captured, ?_, ?_⟩
    · intro plain
      rwa [Template.fill_of_text_plain fields target (by rwa [Template.stars_of_text])] at applied
    · intro wanted
      rwa [Template.fill_eq_flatten _ fields (by rw [counted, Template.stars_of_text, wanted])] at applied

theorem bounded_split_dashes :
    ∃ rule, compile "*-*-*:<*|*|*>".toList 1 = .ok rule ∧
      rule.apply "-b-c-d".toList = some "<|b|c-d>".toList ∧ rule.apply "b-c".toList = none := by
  obtain ⟨rule, source, compiled, action, splits⟩ := bounded_split '-' 3 "<*|*|*>".toList 1
    (by decide) (by decide) (by decide) (by decide) (.inr (by decide))
  have split : Text.Fields '-' "-b-c-d".toList [[], "b".toList, "c-d".toList] := ⟨by decide, by decide⟩
  obtain ⟨-, -, fills⟩ := splits "-b-c-d".toList (by decide)
  obtain ⟨-, -, starred⟩ := fills _ rfl split
  obtain ⟨applies, -, -⟩ := splits "b-c".toList (by decide)
  refine ⟨rule, compiled, starred (by decide), ?_⟩
  rw [← Option.not_isSome_iff_eq_none, applies]
  decide

end Rule

end WildcardRules
