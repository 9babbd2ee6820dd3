import WildcardRules.Proofs.Lines
import WildcardRules.Proofs.Runs

/-!
Going through values. Results are written in order up to the first value that has none, and that one
decides how the run ends; it makes no difference whether the values are arguments or lines of the input.
-/

set_option autoImplicit false

namespace WildcardRules.CommandLine

def attempt (r : Replacer) : Option Text → Except Failure Text
  | none => .error (.reading .notUtf8)
  | some value => (r.replace value).mapError .replacing

def attemptEvents (r : Replacer) : Option Text → List Log.Event
  | none => []
  | some value => Log.replaceEvents r value

def onLines (results : List Text) : Text := results.flatMap fun result => result ++ ['\n']

-- What going through values leaves behind: the results of all of them, or those of the values before the
-- first that has none, and why it has none. What comes after that one leaves nothing.
inductive Through (r : Replacer) (values : List (Option Text)) : Transcript → Prop where
  | all (results : List Text) : List.Forall₂ (fun value result => attempt r value = .ok result) values results →
      Through r values ⟨onLines results, values.flatMap (attemptEvents r), none⟩
  | upTo (before after : List (Option Text)) (value : Option Text) (results : List Text) (failure : Failure) :
      values = before ++ value :: after →
      List.Forall₂ (fun value result => attempt r value = .ok result) before results →
      attempt r value = .error failure →
      Through r values ⟨onLines results, (before ++ [value]).flatMap (attemptEvents r), some failure⟩

section

variable (r : Replacer)

theorem replace_all_of_ok (value : Option Text) (values : List (Option Text)) (result : Text)
    (made : attempt r value = .ok result) :
    replaceAll r (value :: values) =
      ⟨result ++ ['\n'] ++ (replaceAll r values).output, attemptEvents r value ++ (replaceAll r values).events,
        (replaceAll r values).failure⟩ := by
  cases value with
  | none => cases made
  | some value =>
      cases replaced : r.replace value with
      | error cause =>
          rw [attempt, replaced] at made
          cases made
      | ok other =>
          rw [attempt, replaced] at made
          cases made
          rw [replaceAll, replaced]
          rfl

theorem replace_all_of_error (value : Option Text) (values : List (Option Text)) (failure : Failure)
    (failed : attempt r value = .error failure) :
    replaceAll r (value :: values) = ⟨[], attemptEvents r value, some failure⟩ := by
  cases value with
  | none =>
      cases failed
      rfl
  | some value =>
      cases replaced : r.replace value with
      | ok result =>
          rw [attempt, replaced] at failed
          cases failed
      | error cause =>
          rw [attempt, replaced] at failed
          cases failed
          rw [replaceAll, replaced]
          rfl

theorem replace_all_past (before values : List (Option Text)) (results : List Text)
    (made : List.Forall₂ (fun value result => attempt r value = .ok result) before results) :
    replaceAll r (before ++ values) =
      ⟨onLines results ++ (replaceAll r values).output,
        before.flatMap (attemptEvents r) ++ (replaceAll r values).events, (replaceAll r values).failure⟩ := by
  induction made with
  | nil => rfl
  | @cons value result before results head _ ih =>
      rw [List.cons_append, replace_all_of_ok r value _ result head, ih]
      simp only [onLines, List.flatMap_cons, List.append_assoc]

theorem replace_all_of_through (values : List (Option Text)) (t : Transcript) (through : Through r values t) :
    replaceAll r values = t := by
  cases through with
  | all results made =>
      have past := replace_all_past r values [] results made
      rw [List.append_nil] at past
      rw [past]
      simp [replaceAll]
  | upTo before after value results failure whole made failed =>
      rw [whole, replace_all_past r before _ results made, replace_all_of_error r value after failure failed]
      simp

theorem through_exists (values : List (Option Text)) : ∃ t, Through r values t := by
  cases whole : values.mapM (attempt r) with
  | ok results =>
      exact ⟨_, .all results ((map_m_ok_iff_pointwise (attempt r) values results).1 whole)⟩
  | error failure =>
      obtain ⟨before, value, after, split, passed, failed⟩ := (map_m_error_iff (attempt r) values failure).1 whole
      obtain ⟨results, made⟩ := map_m_ok_of_all (attempt r) before passed
      have pointwise := (map_m_ok_iff_pointwise (attempt r) before results).1 made
      exact ⟨_, .upTo before after value results failure split pointwise failed⟩

theorem through_replace_all (values : List (Option Text)) : Through r values (replaceAll r values) := by
  obtain ⟨t, through⟩ := through_exists r values
  rwa [replace_all_of_through r values t through]

theorem replace_all_before_later (before after : List (Option Text)) (value : Option Text) (failure : Failure)
    (failed : attempt r value = .error failure) :
    replaceAll r (before ++ value :: after) = replaceAll r (before ++ [value]) := by
  induction before with
  | nil => rw [List.nil_append, List.nil_append, replace_all_of_error r value after failure failed,
      replace_all_of_error r value [] failure failed]
  | cons first before ih =>
      cases made : attempt r first with
      | ok result =>
          rw [List.cons_append, List.cons_append, replace_all_of_ok r first _ result made,
            replace_all_of_ok r first _ result made, ih]
      | error earlier =>
          rw [List.cons_append, List.cons_append, replace_all_of_error r first _ earlier made,
            replace_all_of_error r first _ earlier made]

end

theorem values_of_arguments (values : List Text) (unread : Bytes) (inhabited : values ≠ []) :
    valuesOf values unread = values.map some := by
  rw [valuesOf, List.isEmpty_eq_false_iff.2 inhabited]
  rfl

theorem values_of_input (input : Bytes) : valuesOf [] input = input.lines.map Text.ofBytes? := rfl

-- A text without line breaks that does not end in a carriage return, which the end of its line would
-- take away.
def FitsLine (value : Text) : Prop := '\n' ∉ value ∧ value.getLast? ≠ some '\r'

instance (value : Text) : Decidable (FitsLine value) := inferInstanceAs (Decidable (_ ∧ _))

theorem lines_of_texts (values : List Text) (fits : ∀ value ∈ values, FitsLine value) :
    ∀ line ∈ values.map Text.toBytes, Bytes.IsLine line := by
  intro line member
  obtain ⟨value, present, rfl⟩ := List.mem_map.1 member
  obtain ⟨unbroken, plain⟩ := fits value present
  exact Text.is_line_to_bytes value unbroken plain

theorem decoded_texts (values : List Text) : (values.map Text.toBytes).map Text.ofBytes? = values.map some := by
  simp [Function.comp_def, Text.of_bytes_to_bytes]

theorem values_of_texts (values : List Text) (input : Bytes) (fits : ∀ value ∈ values, FitsLine value)
    (holds : input.Holds (values.map Text.toBytes)) : valuesOf [] input = values.map some := by
  rw [values_of_input, Bytes.lines_of_holds input _ holds (lines_of_texts values fits), decoded_texts]

theorem values_of_undecoded (before : List Text) (line tail input : Bytes)
    (fits : ∀ value ∈ before, FitsLine value) (leads : input.Leads (before.map Text.toBytes) (line ++ tail))
    (unbroken : Bytes.lineFeed ∉ line) (undecoded : Text.ofBytes? line = none)
    (ended : tail = [] ∨ tail.head? = some Bytes.lineFeed) :
    ∃ after, valuesOf [] input = before.map some ++ none :: after := by
  obtain ⟨first, rest, found, bad⟩ := Bytes.lines_of_undecoded line tail unbroken undecoded ended
  refine ⟨rest.map Text.ofBytes?, ?_⟩
  rw [values_of_input, Bytes.lines_of_leads input _ _ leads (lines_of_texts before fits), found,
    List.map_append, decoded_texts, List.map_cons, bad]

def AsksFor (r : Replacer) (s : Surroundings) (values arguments : List Text) : Prop :=
  ∃ source, replacerOf s.files source = .ok r ∧ Asks arguments (.replace source values)

def Leaves (t : Transcript) (o : Outcome) : Prop :=
  o.output = t.output ∧ o.exitCode = if t.failure.isSome then 1 else 0

theorem run_of_asks_for (r : Replacer) (s : Surroundings) (values arguments : List Text)
    (asks : AsksFor r s values arguments) : Leaves (replaceAll r (valuesOf values s.input)) (run arguments s) := by
  obtain ⟨source, made, asked⟩ := asks
  obtain ⟨exits, written⟩ := run_of_asks arguments s _ asked
  obtain ⟨failure, output⟩ := replace_values_of_ok s.files s.input source values r made
  rw [Leaves, exits, written, execute, failure, output]
  exact ⟨rfl, rfl⟩

theorem arguments_and_lines_agree (r : Replacer) (values : List Text) (input : Bytes) (inhabited : values ≠ [])
    (fits : ∀ value ∈ values, FitsLine value) (holds : input.Holds (values.map Text.toBytes)) :
    (∃ t, Through r (values.map some) t ∧ (∀ unread, replaceAll r (valuesOf values unread) = t) ∧
      replaceAll r (valuesOf [] input) = t ∧
      ∀ s arguments, AsksFor r s values arguments ∨ s.input = input ∧ AsksFor r s [] arguments →
        Leaves t (run arguments s)) ∧
    (∀ (before : List Text) (line tail stream : Bytes), (∀ value ∈ before, FitsLine value) →
      stream.Leads (before.map Text.toBytes) (line ++ tail) → Bytes.lineFeed ∉ line →
      Text.ofBytes? line = none → tail = [] ∨ tail.head? = some Bytes.lineFeed →
      ∃ t, Through r (before.map some ++ [none]) t ∧ replaceAll r (valuesOf [] stream) = t ∧
        ∀ s arguments, s.input = stream → AsksFor r s [] arguments → Leaves t (run arguments s)) ∧
    ∀ failure, attempt r none = .error failure →
      failure.chain.head? = some "Failed to read from stdin".toList := by
  refine ⟨⟨replaceAll r (values.map some), through_replace_all r _, ?_, ?_, ?_⟩, ?_, ?_⟩
  · intro unread
    rw [values_of_arguments values unread inhabited]
  · rw [values_of_texts values input fits holds]
  · intro s arguments asks
    rcases asks with asks | ⟨piped, asks⟩
    · have leaves := run_of_asks_for r s values arguments asks
      rwa [values_of_arguments values s.input inhabited] at leaves
    · have leaves := run_of_asks_for r s [] arguments asks
      rwa [piped, values_of_texts values input fits holds] at leaves
  · intro before line tail stream fitsBefore leads unbroken undecoded ended
    obtain ⟨after, found⟩ := values_of_undecoded before line tail stream fitsBefore leads unbroken undecoded ended
    have stops : replaceAll r (valuesOf [] stream) = replaceAll r (before.map some ++ [none]) := by
      rw [found, replace_all_before_later r (before.map some) after none _ rfl]
    refine ⟨_, through_replace_all r _, stops, ?_⟩
    intro s arguments piped asks
    have leaves := run_of_asks_for r s [] arguments asks
    rwa [piped, stops] at leaves
  · intro failure failed
    cases failed
    rfl

def threeLines : Bytes :=
  Text.toBytes "f-é".toList ++ ([13, 10] ++ (Text.toBytes "no".toList ++ ([10] ++ Text.toBytes "f-x".toList)))

def brokenLine : Bytes := Text.toBytes "f-é".toList ++ ([10] ++ ([255] ++ [10, 13, 255]))

theorem three_lines_hold : threeLines.Holds (["f-é".toList, "no".toList, "f-x".toList].map Text.toBytes) :=
  .unfinished (["f-é".toList, "no".toList].map Text.toBytes) (Text.toBytes "f-x".toList) rfl (by decide)
    (.line _ _ _ _ _ .carriageReturn (.line _ _ _ _ _ .lineFeed (.none _)))

theorem broken_line_leads : brokenLine.Leads (["f-é".toList].map Text.toBytes) ([255] ++ [10, 13, 255]) :=
  .line _ _ _ _ _ .lineFeed (.none _)

theorem arguments_and_lines_agree_early :
    ∃ r t, Replacer.build (.many ["f-*:g-*".toList]) {} = .ok r ∧
      Through r [some "f-é".toList, some "no".toList, some "f-x".toList] t ∧
      t.output = "g-é\n".toList ∧ t.failure = some (.replacing ⟨"no".toList, ["f-*:g-*".toList]⟩) ∧
      replaceAll r (valuesOf [] threeLines) = t ∧
      (∀ files, Leaves t (run ["-r".toList, "f-*:g-*".toList] { files, input := threeLines })) ∧
      ∃ u, Through r [some "f-é".toList, none] u ∧ u.output = "g-é\n".toList ∧
        replaceAll r (valuesOf [] brokenLine) = u := by
  obtain ⟨r, built, written, failed, early⟩ : ∃ r, Replacer.build (.many ["f-*:g-*".toList]) {} = .ok r ∧
      (replaceAll r [some "f-é".toList, some "no".toList, some "f-x".toList]).output = "g-é\n".toList ∧
      (replaceAll r [some "f-é".toList, some "no".toList, some "f-x".toList]).failure =
        some (.replacing ⟨"no".toList, ["f-*:g-*".toList]⟩) ∧
      (replaceAll r [some "f-é".toList, none]).output = "g-é\n".toList :=
    ⟨⟨none, true, ["f-*:g-*".toList], [⟨"f-*:g-*".toList, .wildcard ⟨"f-".toList, [[]]⟩ ⟨"g-".toList, [[]]⟩⟩]⟩,
      by decide⟩
  have asks : ∀ files, AsksFor r { files, input := threeLines } [] ["-r".toList, "f-*:g-*".toList] := by
    intro files
    have single : Replacer.build (ruleInputOf ["f-*:g-*".toList]) ⟨none, !false⟩ = .ok r := built
    refine ⟨.options ["f-*:g-*".toList] false, ?_, 0, by decide⟩
    rw [replacerOf, single]
  obtain ⟨⟨t, through, -, streamed, leaves⟩, undecoded, -⟩ := arguments_and_lines_agree r
    ["f-é".toList, "no".toList, "f-x".toList] threeLines (by decide) (by decide) three_lines_hold
  obtain ⟨u, cut, piped, -⟩ := undecoded ["f-é".toList] [255] [10, 13, 255] brokenLine
    (by decide) broken_line_leads (by decide) (by decide) (.inr rfl)
  have same := replace_all_of_through r _ t through
  have alike := replace_all_of_through r _ u cut
  refine ⟨r, t, built, through, same ▸ written, same ▸ failed, streamed, ?_, u, cut, alike ▸ early, piped⟩
  exact fun files => leaves _ _ (.inr ⟨rfl, asks files⟩)

end WildcardRules.CommandLine
