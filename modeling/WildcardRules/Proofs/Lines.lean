import WildcardRules.Text.Bytes
import Mathlib.Data.List.Basic

set_option autoImplicit false

namespace WildcardRules

namespace Text

-- In UTF-8 a byte below 128 is a character of its own and no part of any other.
theorem char_of_small_byte (c : Char) (b : UInt8) (member : b ∈ String.utf8EncodeChar c)
    (small : b.toNat < 128) : c.toNat = b.toNat := by
  have value : c.toNat = c.val.toNat := rfl
  unfold String.utf8EncodeChar at member
  dsimp only at member
  split at member
  · simp only [List.mem_singleton] at member
    subst member
    simp only [UInt8.toNat_ofNat'] at small ⊢
    omega
  · split at member
    · simp only [List.mem_cons, List.not_mem_nil, or_false] at member
      rcases member with rfl | rfl <;> simp only [UInt8.toNat_ofNat'] at small <;> omega
    · split at member
      · simp only [List.mem_cons, List.not_mem_nil, or_false] at member
        rcases member with rfl | rfl | rfl <;> simp only [UInt8.toNat_ofNat'] at small <;> omega
      · simp only [List.mem_cons, List.not_mem_nil, or_false] at member
        rcases member with rfl | rfl | rfl | rfl <;> simp only [UInt8.toNat_ofNat'] at small <;> omega

theorem mem_of_small_byte (t : Text) (c : Char) (b : UInt8) (member : b ∈ t.toBytes)
    (small : b.toNat < 128) (same : c.toNat = b.toNat) : c ∈ t := by
  obtain ⟨d, present, encoded⟩ := List.mem_flatMap.1 member
  have code := char_of_small_byte d b encoded small
  have equal : d = c := Char.toNat_inj.1 (code.trans same.symm)
  rwa [← equal]

theorem to_bytes_concat (t : Text) (c : Char) : toBytes (t ++ [c]) = t.toBytes ++ String.utf8EncodeChar c := by
  simp [toBytes]

theorem last_of_small_byte (t : Text) (c : Char) (b : UInt8) (last : t.toBytes.getLast? = some b)
    (small : b.toNat < 128) (same : c.toNat = b.toNat) : t.getLast? = some c := by
  rcases List.eq_nil_or_concat' t with rfl | ⟨front, d, rfl⟩
  · cases last
  · have encoded : String.utf8EncodeChar d ≠ [] := String.utf8EncodeChar_ne_nil
    rw [to_bytes_concat, List.getLast?_append_of_ne_nil _ encoded] at last
    have code := char_of_small_byte d b (List.mem_of_getLast? last) small
    have equal : d = c := Char.toNat_inj.1 (code.trans same.symm)
    simp [equal]

theorem of_bytes_eq_some_iff (bytes : Bytes) (t : Text) : ofBytes? bytes = some t ↔ bytes = t.toBytes := by
  constructor
  · intro decoded
    have valid : bytes.toByteArray.IsValidUTF8 := by
      rw [← ByteArray.isSome_utf8Decode?_iff, ← Option.isSome_map (f := Array.toList), ← ofBytes?, decoded]
      rfl
    obtain ⟨u, encoded⟩ := valid
    have same : bytes = toBytes u := List.toByteArray_inj.1 encoded
    rw [same, of_bytes_to_bytes] at decoded
    rw [same, Option.some.inj decoded]
  · intro same
    rw [same, of_bytes_to_bytes]

theorem of_bytes_none_of_small_byte (bytes : Bytes) (c : Char) (b : UInt8)
    (single : String.utf8EncodeChar c = [b]) (undecoded : ofBytes? (bytes ++ [b]) = none) :
    ofBytes? bytes = none := by
  cases decoded : ofBytes? bytes with
  | none => rfl
  | some t =>
      have longer : bytes ++ [b] = toBytes (t ++ [c]) := by
        rw [to_bytes_concat, single, (of_bytes_eq_some_iff bytes t).1 decoded]
      cases undecoded.symm.trans ((of_bytes_eq_some_iff _ _).2 longer)

end Text

namespace Bytes

theorem lines_cons (b : UInt8) (bytes line : Bytes) (rest : List Bytes) (inside : b ≠ lineFeed)
    (kept : b = carriageReturn → bytes.head? ≠ some lineFeed) (found : lines bytes = line :: rest) :
    lines (b :: bytes) = (b :: line) :: rest := by
  have notEnding : ¬ (b = carriageReturn ∧ bytes.head? = some lineFeed) := fun both => kept both.1 both.2
  rw [lines, if_neg inside, if_neg notEnding, found]

-- What stands in front of the end of a line belongs to that line. The last of it may only be a carriage
-- return if no line feed comes next, or it would be part of the end.
theorem lines_append (line rest first : Bytes) (more : List Bytes) (unbroken : lineFeed ∉ line)
    (kept : line.getLast? = some carriageReturn → rest.head? ≠ some lineFeed)
    (found : lines rest = first :: more) : lines (line ++ rest) = (line ++ first) :: more := by
  induction line with
  | nil => exact found
  | cons b line ih =>
      obtain ⟨inside, unbrokenRest⟩ := not_or.1 (mt List.mem_cons.2 unbroken)
      cases line with
      | nil => exact lines_cons b rest first more (Ne.symm inside) (fun same => kept (by simp [same])) found
      | cons d line =>
          have later := ih unbrokenRest (by rwa [List.getLast?_cons_cons] at kept)
          refine lines_cons b _ _ _ (Ne.symm inside) (fun _ => ?_) later
          simpa using fun same => unbrokenRest (by simp [same])

theorem lines_before_line_feed (line rest : Bytes) (unbroken : lineFeed ∉ line)
    (plain : line.getLast? ≠ some carriageReturn) : lines (line ++ lineFeed :: rest) = line :: lines rest := by
  have found := lines_append line (lineFeed :: rest) [] (lines rest) unbroken (fun last => absurd last plain) rfl
  rwa [List.append_nil] at found

theorem lines_before_carriage_return (line rest : Bytes) (unbroken : lineFeed ∉ line) :
    lines (line ++ carriageReturn :: lineFeed :: rest) = line :: lines rest := by
  have other : (carriageReturn :: lineFeed :: rest).head? ≠ some lineFeed := by
    simp [carriageReturn, lineFeed]
  have found := lines_append line (carriageReturn :: lineFeed :: rest) [] (lines rest) unbroken
    (fun _ => other) rfl
  rwa [List.append_nil] at found

theorem lines_unfinished (line : Bytes) (unbroken : lineFeed ∉ line) (nonempty : line ≠ []) :
    lines line = [line] := by
  obtain ⟨front, b, rfl⟩ := (List.eq_nil_or_concat' line).resolve_left nonempty
  have inside : b ≠ lineFeed := by
    rintro rfl
    simp at unbroken
  have single : lines [b] = [[b]] := by simp [lines, inside]
  have unbrokenFront : lineFeed ∉ front := fun member => unbroken (by simp [member])
  exact lines_append front [b] [b] [] unbrokenFront (fun _ => by simpa using inside) single

inductive LineEnd : Bytes → Prop where
  | lineFeed : LineEnd [Bytes.lineFeed]
  | carriageReturn : LineEnd [Bytes.carriageReturn, Bytes.lineFeed]

inductive Leads : (stream : Bytes) → (lines : List Bytes) → (rest : Bytes) → Prop where
  | none (rest : Bytes) : Leads rest [] rest
  | line (stream line ending : Bytes) (lines : List Bytes) (rest : Bytes) : LineEnd ending →
      Leads stream lines rest → Leads (line ++ (ending ++ stream)) (line :: lines) rest

-- A stream that holds these lines and nothing else. If there is something to the last one, it may do
-- without its end.
inductive Holds (stream : Bytes) (lines : List Bytes) : Prop where
  | ended : Leads stream lines [] → Holds stream lines
  | unfinished (front : List Bytes) (last : Bytes) : lines = front ++ [last] → last ≠ [] →
      Leads stream front last → Holds stream lines

structure IsLine (line : Bytes) : Prop where
  unbroken : lineFeed ∉ line
  plain : line.getLast? ≠ some carriageReturn

theorem lines_of_leads (stream : Bytes) (found : List Bytes) (rest : Bytes) (leads : Leads stream found rest)
    (whole : ∀ line ∈ found, IsLine line) : lines stream = found ++ lines rest := by
  induction leads with
  | none rest => rfl
  | line stream line ending found rest ends _ ih =>
      obtain ⟨first, others⟩ := List.forall_mem_cons.1 whole
      have later := ih others
      cases ends with
      | lineFeed =>
          rw [List.singleton_append, lines_before_line_feed line stream first.unbroken first.plain, later,
            List.cons_append]
      | carriageReturn =>
          rw [List.cons_append, List.singleton_append, lines_before_carriage_return line stream first.unbroken,
            later, List.cons_append]

theorem lines_of_holds (stream : Bytes) (found : List Bytes) (holds : Holds stream found)
    (whole : ∀ line ∈ found, IsLine line) : lines stream = found := by
  cases holds with
  | ended leads =>
      rw [lines_of_leads stream found [] leads whole]
      exact List.append_nil found
  | unfinished front last split nonempty leads =>
      subst split
      have finished := lines_of_leads stream front last leads fun line member => whole line (by simp [member])
      have unbroken := (whole last (by simp)).unbroken
      rw [finished, lines_unfinished last unbroken nonempty]

theorem lines_of_undecoded (line tail : Bytes) (unbroken : lineFeed ∉ line)
    (undecoded : Text.ofBytes? line = none) (ended : tail = [] ∨ tail.head? = some lineFeed) :
    ∃ first rest, lines (line ++ tail) = first :: rest ∧ Text.ofBytes? first = none := by
  rcases ended with rfl | starts
  · have nonempty : line ≠ [] := by
      rintro rfl
      cases undecoded.symm.trans (Text.of_bytes_to_bytes [])
    refine ⟨line, [], ?_, undecoded⟩
    rw [List.append_nil, lines_unfinished line unbroken nonempty]
  · obtain ⟨rest, rfl⟩ := List.head?_eq_some_iff.1 starts
    by_cases returned : line.getLast? = some carriageReturn
    · obtain ⟨front, rfl⟩ := List.getLast?_eq_some_iff.1 returned
      have unbrokenFront : lineFeed ∉ front := fun member => unbroken (by simp [member])
      refine ⟨front, lines rest, ?_, Text.of_bytes_none_of_small_byte front '\r' carriageReturn rfl undecoded⟩
      rw [List.append_assoc, List.singleton_append, lines_before_carriage_return front rest unbrokenFront]
    · exact ⟨line, lines rest, lines_before_line_feed line rest unbroken returned, undecoded⟩

end Bytes

namespace Text

theorem is_line_to_bytes (t : Text) (unbroken : '\n' ∉ t) (plain : t.getLast? ≠ some '\r') :
    Bytes.IsLine t.toBytes where
  unbroken := fun member => unbroken (mem_of_small_byte t '\n' _ member (by decide) (by decide))
  plain := fun last => plain (last_of_small_byte t '\r' _ last (by decide) (by decide))

end Text

end WildcardRules
