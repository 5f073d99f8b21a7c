import RecordSearch.Proofs.WrittenPairs

/-!
# Reading a query again

The query that is read from a text can be written as a text: its choices as pairs.  This text is
read as the same query.  It lacks the blanks, the empty values and the fragments of the first text
that were dropped, but all other pieces still have their quotes; so each of them ends where it did.
-/

namespace RecordSearch.RawQuery

variable {options : Options} {raw fragment : Text} {pair : Pair} {kept : List Pair}

/-- Conditions on one label as a pair of the label and their values. -/
def writeFields : List FieldMatch → Text
  | [] => []
  | field :: fields =>
      field.label ++ labelSeparator :: Text.join [valueSeparator] ((field :: fields).map (·.value))

/-- A query in normal form as a raw query: its choices as pairs. -/
def write : Query → Text
  | .conjunction choices =>
      Text.join [pairSeparator] (choices.map fun choice => writeFields choice.fields)
  | choice => writeFields choice.fields

def Pair.text (pair : Pair) : Text :=
  pair.label ++ labelSeparator :: Text.join [valueSeparator] pair.values

theorem written_text (pair : Pair) : pair.Written pair.text :=
  ⟨pair.label, pair.values, Text.padded_self _,
    List.forall₂_same.2 fun _ _ => Text.padded_self _, rfl⟩

section Marks

theorem flatten_map_filter {view : Text → Text} {keep : Text → Bool}
    (empty : ∀ piece, keep piece = false → view piece = []) (pieces : List Text) :
    ((pieces.filter keep).map view).flatten = (pieces.map view).flatten := by
  induction pieces with
  | nil => rfl
  | cons piece pieces induction =>
      cases stays : keep piece with
      | true => simp [stays, induction]
      | false => simp [stays, induction, empty piece stays]

theorem marks_keptValues {written : Text} :
    ((keptValues options written).map (Text.marks pairSeparator)).flatten =
      Text.marks pairSeparator written := by
  have empty (value : Text) (dropped : (options.allowEmptyValues || value ≠ []) = false) :
      Text.marks pairSeparator value = [] := by
    simp only [ne_eq, decide_not, Bool.or_eq_false_iff, Bool.not_eq_false', decide_eq_true_eq]
      at dropped
    rw [dropped.2]
    rfl
  rw [keptValues, flatten_map_filter empty, Text.map_marks_trim isBlank_pairSeparator,
    ← Text.marks_join valueSeparator_ne_quote valueSeparator_ne_pairSeparator,
    Text.join_splitUnquoted valueSeparator_ne_quote]

theorem marks_text_of_readPair (run : readPair options fragment = .ok pair) :
    Text.marks pairSeparator pair.text = Text.marks pairSeparator fragment := by
  obtain ⟨label, values, rfl, _, _, _, rfl⟩ := readPair_eq_ok_iff.1 run
  rw [marks_of_written (written_text _), marks_keptValues, Text.marks_append,
    marks_cons_labelSeparator, (Text.padded_trim label).marks_eq isBlank_pairSeparator]

theorem sublist_marks_pairs :
    ((pairs options raw).map fun pair => Text.marks pairSeparator pair.text).Sublist
      ((fragments raw).map (Text.marks pairSeparator)) := by
  unfold pairs
  induction fragments raw with
  | nil => exact .slnil
  | cons fragment fragments induction =>
      cases run : readPair options fragment with
      | error reason =>
          rw [List.filterMap_cons_none (by rw [run])]
          exact induction.cons _
      | ok pair =>
          rw [List.filterMap_cons_some (by rw [run]), List.map_cons, List.map_cons,
            marks_text_of_readPair run]
          exact induction.cons_cons _

theorem isCut_text_pairs (nonempty : pairs options raw ≠ []) :
    Text.IsCut pairSeparator ((pairs options raw).map Pair.text) := by
  rw [← Text.isCut_map_marks_iff, List.map_map]
  have cut := Text.isCut_splitUnquoted pairSeparator_ne_quote raw
  exact (Text.isCut_map_marks_iff.2 cut).sublist sublist_marks_pairs
    (mt List.map_eq_nil_iff.1 nonempty)

end Marks

section Readable

theorem readable_of_readPair (run : readPair {} fragment = .ok pair) : pair.Readable := by
  have wellFormed := wellFormed_of_readPair run
  obtain ⟨label, values, rfl, _, _, valued, rfl⟩ := readPair_eq_ok_iff.1 run
  refine ⟨wellFormed.label, fun value member => ⟨?_, wellFormed.trimmed value member⟩, ?_⟩
  · simpa using (List.mem_filter.1 member).2
  · have cut := Text.isCut_splitUnquoted valueSeparator_ne_quote values
    have trimmedCut := (Text.isCut_map_trim_iff isBlank_valueSeparator).2 cut
    exact trimmedCut.sublist List.filter_sublist valued

theorem readable_of_mem_pairs (member : pair ∈ pairs {} raw) : pair.Readable := by
  obtain ⟨fragment, _, run⟩ := mem_pairs_iff.1 member
  exact readable_of_readPair run

theorem pairs_join_text (options : Options) (cut : Text.IsCut pairSeparator (kept.map Pair.text))
    (readable : ∀ pair ∈ kept, pair.Readable) :
    pairs options (Text.join [pairSeparator] (kept.map Pair.text)) = kept ∧
      skippedPairs options (Text.join [pairSeparator] (kept.map Pair.text)) = [] := by
  refine pairs_eq_of_fragments (Text.splitUnquoted_join pairSeparator_ne_quote cut) ?_
  rw [List.forall₂_map_right_iff, List.forall₂_same]
  exact fun pair member => readPair_of_written (readable pair member) (written_text pair)

end Readable

section Write

theorem write_allOf {choices : List Query} (each : ∀ choice ∈ choices, choice.IsChoice) :
    write (.allOf choices) =
      Text.join [pairSeparator] (choices.map fun choice => writeFields choice.fields) := by
  unfold Query.allOf
  induction choices using Query.collapse_cases .conjunction with
  | none => rfl
  | single choice =>
      cases each choice (List.mem_singleton_self choice) with
      | single field => rfl
      | alternatives several same => rfl
  | several choices several => rfl

theorem writeFields_pairQuery (readable : pair.Readable) :
    writeFields (pairQuery false pair).fields = pair.text := by
  rw [fields_pairQuery, fieldMatches_of_proper readable.values, Pair.text]
  have nonempty := readable.cut.nonempty
  cases values : pair.values with
  | nil => exact absurd values nonempty
  | cons value values => simp [writeFields, Function.comp_def]

theorem write_read (readable : ∀ pair ∈ pairs options raw, pair.Readable)
    (finished : options.autocomplete = false) :
    write (read options raw).query =
      Text.join [pairSeparator] ((pairs options raw).map Pair.text) := by
  have texts : (pairs options raw).map (fun pair => writeFields (pairQuery false pair).fields) =
      (pairs options raw).map Pair.text :=
    List.map_congr_left fun pair member => writeFields_pairQuery (readable pair member)
  simp only [read]
  rw [write_allOf fun _ => isChoice_of_mem_read, finished, pairQueries_false, List.map_map, ← texts]
  rfl

/-- A query that a text is read as can be written and read again, without any change and without
anything that is dropped. -/
theorem rereads_as_itself {raw : Text} {query : Query} (run : readStrict {} raw = some query) :
    readStrict {} (write query) = some query ∧ (read {} (write query)).skipped = [] := by
  obtain ⟨nonempty, rfl⟩ := readStrict_eq_some_iff.1 run
  have readable : ∀ pair ∈ pairs {} raw, pair.Readable := fun _ => readable_of_mem_pairs
  rw [write_read readable rfl]
  obtain ⟨same, dropped⟩ := pairs_join_text {} (isCut_text_pairs nonempty) readable
  refine ⟨readStrict_eq_some_iff.2 ⟨?_, ?_⟩, dropped⟩
  · rwa [same]
  · simp only [read, same]

end Write

end RecordSearch.RawQuery

namespace RecordSearch.Samples

open RawQuery

/-- A text with quotes in a label, empty values, fragments that are no pairs, and a quotation that
is never closed. -/
def carelessText : Text :=
  "A\"+\"B : a ,, \"b,+c\" ,+junk+:v+Tag: d ,\"e,f+g :h  ".toList

def carelessQuery : Query :=
  .conjunction [
    .matchAny "A\"+\"B".toList ["a".toList, "\"b,+c\"".toList],
    .matchAny "Tag".toList ["d".toList, "\"e,f+g :h".toList]]

example : write carelessQuery = "A\"+\"B:a,\"b,+c\"+Tag:d,\"e,f+g :h".toList := by rfl

theorem rereads_as_itself_careless :
    readStrict {} carelessText = some carelessQuery ∧
      readStrict {} (write carelessQuery) = some carelessQuery ∧
      (read {} (write carelessQuery)).skipped = [] := by
  have run : readStrict {} carelessText = some carelessQuery := rfl
  exact ⟨run, rereads_as_itself run⟩

end RecordSearch.Samples
