import WildcardRules.Template

set_option autoImplicit false

namespace WildcardRules.Template

theorem paired_induction
    {motive : (captures literals : List Text) → captures.length = literals.length → Prop} (nil : motive [] [] rfl)
    (cons : ∀ capture captures literal literals (count : captures.length = literals.length),
      motive captures literals count →
      motive (capture :: captures) (literal :: literals) (congrArg Nat.succ count))
    (captures literals : List Text) (count : captures.length = literals.length) :
    motive captures literals count := by
  induction literals generalizing captures with
  | nil =>
      obtain rfl : captures = [] := List.eq_nil_of_length_eq_zero count
      exact nil
  | cons literal literals ih =>
      obtain ⟨capture, captures, rfl⟩ := List.exists_cons_of_length_eq_add_one count
      exact cons capture captures literal literals _ (ih captures (Nat.succ.inj count))

theorem interleave_eq_flatten (captures literals : List Text)
    (count : captures.length = literals.length) :
    interleave captures literals = (List.zipWith (· ++ ·) captures literals).flatten := by
  induction captures, literals, count using paired_induction with
  | nil => rfl
  | cons capture captures literal literals count ih => simp [interleave, ih]

theorem interleave_append (captures others literals more : List Text)
    (count : captures.length = literals.length) :
    interleave (captures ++ others) (literals ++ more) =
      interleave captures literals ++ interleave others more := by
  induction captures, literals, count using paired_induction with
  | nil => rfl
  | cons capture captures literal literals count ih => simp [interleave, ih]

theorem interleave_eq_nil_iff (captures literals : List Text)
    (count : captures.length = literals.length) :
    interleave captures literals = [] ↔
      (∀ literal ∈ literals, literal = []) ∧ ∀ capture ∈ captures, capture = [] := by
  induction captures, literals, count using paired_induction with
  | nil => simp [interleave]
  | cons capture captures literal literals count ih =>
      simp only [interleave, List.append_eq_nil_iff, ih, List.forall_mem_cons]
      constructor
      · intro parts
        obtain ⟨captureEmpty, literalEmpty, literalsEmpty, capturesEmpty⟩ := parts
        exact ⟨⟨literalEmpty, literalsEmpty⟩, captureEmpty, capturesEmpty⟩
      · intro parts
        obtain ⟨⟨literalEmpty, literalsEmpty⟩, captureEmpty, capturesEmpty⟩ := parts
        exact ⟨captureEmpty, literalEmpty, literalsEmpty, capturesEmpty⟩

theorem interleave_replicate_nil (literals : List Text) :
    interleave (List.replicate literals.length []) literals = literals.flatten := by
  induction literals with
  | nil => rfl
  | cons literal literals ih =>
      simp only [List.length_cons, List.replicate_succ, interleave, ih, List.nil_append,
        List.flatten_cons]

variable (t : Template) (captures : List Text)

theorem fill_eq_flatten (count : captures.length = t.stars) :
    t.fill captures = t.head ++ (List.zipWith (· ++ ·) captures t.tail).flatten := by
  rw [fill, interleave_eq_flatten captures t.tail count]

theorem fill_eq_nil_iff (count : captures.length = t.stars) :
    t.fill captures = [] ↔
      (∀ literal ∈ t.literals, literal = []) ∧ ∀ capture ∈ captures, capture = [] := by
  rw [fill, List.append_eq_nil_iff, interleave_eq_nil_iff captures t.tail count, literals,
    List.forall_mem_cons, and_assoc]

theorem fill_replicate_nil : t.fill (List.replicate t.stars []) = t.literals.flatten := by
  rw [fill, stars, interleave_replicate_nil]
  rfl

theorem fill_of_text_plain (text : Text) (plain : (ofText text).stars = 0) :
    (ofText text).fill captures = text := by
  have noTail : (ofText text).tail = [] := List.eq_nil_of_length_eq_zero plain
  have whole := to_text_of_text text
  simp only [toText, fill, noTail, interleave] at whole ⊢
  exact whole

theorem literals_of_text_plain (text : Text) :
    ∀ literal ∈ (ofText text).literals, '*' ∉ literal := by
  induction text with
  | nil => simp [ofText, literals]
  | cons c text ih =>
      obtain ⟨headPlain, tailPlain⟩ := List.forall_mem_cons.1 ih
      by_cases star : c = '*'
      · simp only [ofText, if_pos star, literals, List.forall_mem_cons]
        exact ⟨by simp, headPlain, tailPlain⟩
      · have longerPlain : '*' ∉ c :: (ofText text).head := by
          simp only [List.mem_cons, not_or]
          exact ⟨Ne.symm star, headPlain⟩
        simp only [ofText, if_neg star, literals]
        exact List.forall_mem_cons.2 ⟨longerPlain, tailPlain⟩

theorem of_text_append (literal text : Text) (plain : '*' ∉ literal) :
    ofText (literal ++ text) = ⟨literal ++ (ofText text).head, (ofText text).tail⟩ := by
  induction literal with
  | nil => rfl
  | cons c literal ih =>
      simp only [List.mem_cons, not_or] at plain
      rw [List.cons_append, ofText, ih plain.2, if_neg (Ne.symm plain.1)]
      rfl

-- Literals without stars are found again in the text that they spell. The induction is on the literals
-- behind the first, and the first varies.
theorem of_text_to_text (t : Template) (plain : ∀ literal ∈ t.literals, '*' ∉ literal) :
    ofText t.toText = t := by
  obtain ⟨head, tail⟩ := t
  induction tail generalizing head with
  | nil =>
      have headPlain : '*' ∉ head := plain head (by simp [literals])
      simpa [toText, fill, interleave, ofText] using of_text_append head [] headPlain
  | cons literal tail ih =>
      obtain ⟨headPlain, tailPlain⟩ := List.forall_mem_cons.1 plain
      have rest : ofText (toText ⟨literal, tail⟩) = ⟨literal, tail⟩ := ih literal tailPlain
      have whole : toText ⟨head, literal :: tail⟩ = head ++ '*' :: toText ⟨literal, tail⟩ := by
        simp [toText, fill, stars, List.replicate_succ, interleave]
      rw [whole, of_text_append head _ headPlain, ofText, if_pos rfl, rest]
      simp

theorem flatten_literals_of_text (text : Text) :
    (ofText text).literals.flatten = text.filter (· ≠ '*') := by
  induction text with
  | nil => rfl
  | cons c text ih =>
      by_cases star : c = '*'
      · simpa [ofText, star, literals] using ih
      · simpa [ofText, star, literals] using ih

theorem literals_of_text_empty_iff (text : Text) :
    (∀ literal ∈ (ofText text).literals, literal = []) ↔ ∀ c ∈ text, c = '*' := by
  rw [← List.flatten_eq_nil_iff, flatten_literals_of_text, List.filter_eq_nil_iff]
  simp

end WildcardRules.Template
