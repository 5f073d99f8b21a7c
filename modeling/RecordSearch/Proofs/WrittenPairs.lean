import Mathlib.Data.List.Forall2
import RecordSearch.Proofs.Quotations
import RecordSearch.Proofs.ReadQueries

/-!
# Pairs as they are written

A pair can be written with blanks around its label and around each of its values, and pairs are
joined to a raw query.  Where a text is cut into pairs, and a pair into values, depends on quotes:
if the values close their quotations and have separators only inside of them, and the labels have
no quotes at all, reading finds exactly the pairs that were written.
-/

namespace RecordSearch.RawQuery

variable {options : Options} {raw fragment text label value : Text} {pair : Pair}
  {kept : List Pair}

def keptValues (options : Options) (written : Text) : List Text :=
  ((Text.splitUnquoted valueSeparator written).map Text.trim).filter fun value =>
    options.allowEmptyValues || value ≠ []

/-- The pair is written in the text, with some blanks around its label and each of its values. -/
def Pair.Written (pair : Pair) (text : Text) : Prop :=
  ∃ label values, Text.Padded pair.label label ∧ List.Forall₂ Text.Padded pair.values values ∧
    text = label ++ labelSeparator :: Text.join [valueSeparator] values

/-- The pairs are written in the text, one after the other. -/
def Written (pairs : List Pair) (raw : Text) : Prop :=
  ∃ texts, List.Forall₂ Pair.Written pairs texts ∧ raw = Text.join [pairSeparator] texts

/-- A proper label without the marks by which texts are cut. -/
structure IsPlainLabel (label : Text) : Prop extends IsLabel label where
  unjoined : '+' ∉ label
  unquoted : '"' ∉ label

/-- A proper value with separators only inside its quotations, all of which are closed. -/
structure IsPlainValue (value : Text) : Prop extends IsValue value where
  closed : Text.Closed value
  enclosesPairs : Text.Encloses '+' value
  enclosesValues : Text.Encloses ',' value

/-- A plain label with at least one plain value. -/
structure Pair.Plain (pair : Pair) : Prop where
  label : IsPlainLabel pair.label
  nonempty : pair.values ≠ []
  values : ∀ value ∈ pair.values, IsPlainValue value

/-- A proper label with proper values into which a text can be cut. -/
structure Pair.Readable (pair : Pair) : Prop where
  label : IsLabel pair.label
  values : ∀ value ∈ pair.values, IsValue value
  cut : Text.IsCut valueSeparator pair.values

section Separators

theorem pairSeparator_ne_quote : pairSeparator ≠ '"' := by decide

theorem valueSeparator_ne_quote : valueSeparator ≠ '"' := by decide

theorem valueSeparator_ne_pairSeparator : valueSeparator ≠ pairSeparator := by decide

theorem isBlank_pairSeparator : Text.isBlank pairSeparator = false := by decide

theorem isBlank_labelSeparator : Text.isBlank labelSeparator = false := by decide

theorem isBlank_valueSeparator : Text.isBlank valueSeparator = false := by decide

/-- The colon of a pair has no part in how a text is cut into pairs. -/
theorem marks_cons_labelSeparator (text : Text) :
    Text.marks pairSeparator (labelSeparator :: text) = Text.marks pairSeparator text :=
  Text.marks_cons_of_ne (by decide) (by decide)

end Separators

section Decidable

theorem isPlainLabel_iff :
    IsPlainLabel label ↔
      label ≠ [] ∧ Text.trim label = label ∧ ':' ∉ label ∧ '+' ∉ label ∧ '"' ∉ label := by
  constructor
  · intro plain
    exact ⟨plain.nonempty, plain.trimmed, plain.unmarked, plain.unjoined, plain.unquoted⟩
  · intro plain
    obtain ⟨nonempty, trimmed, unmarked, unjoined, unquoted⟩ := plain
    exact ⟨⟨nonempty, trimmed, unmarked⟩, unjoined, unquoted⟩

theorem isPlainValue_iff :
    IsPlainValue value ↔
      value ≠ [] ∧ Text.trim value = value ∧ Text.Closed value ∧
        Text.splitUnquoted '+' value = [value] ∧ Text.splitUnquoted ',' value = [value] := by
  have uncut {separator : Char} (differs : separator ≠ '"') :
      Text.splitUnquoted separator value = [value] ↔ Text.Encloses separator value :=
    Text.splitUnquoted_eq_self_iff differs
  rw [uncut (by decide), uncut (by decide)]
  constructor
  · intro plain
    exact ⟨plain.nonempty, plain.trimmed, plain.closed, plain.enclosesPairs, plain.enclosesValues⟩
  · intro plain
    obtain ⟨nonempty, trimmed, closed, enclosesPairs, enclosesValues⟩ := plain
    exact ⟨⟨nonempty, trimmed⟩, closed, enclosesPairs, enclosesValues⟩

theorem plain_iff :
    pair.Plain ↔
      IsPlainLabel pair.label ∧ pair.values ≠ [] ∧ ∀ value ∈ pair.values, IsPlainValue value :=
  ⟨fun plain => ⟨plain.label, plain.nonempty, plain.values⟩,
    fun ⟨label, nonempty, values⟩ => ⟨label, nonempty, values⟩⟩

instance : DecidablePred IsPlainLabel := fun _ =>
  decidable_of_iff _ isPlainLabel_iff.symm

instance : DecidablePred IsPlainValue := fun _ =>
  decidable_of_iff _ isPlainValue_iff.symm

instance : DecidablePred Pair.Plain := fun _ =>
  decidable_of_iff _ plain_iff.symm

end Decidable

section Reading

/-- Blanks around the values and around their list make no difference to reading them. -/
theorem splitValues_trimEnd (written : Text) :
    splitValues (Text.trimEnd written) =
      (Text.splitUnquoted valueSeparator written).map Text.trim := by
  have padded : Text.Padded (Text.trim (Text.trimEnd written)) written :=
    (Text.padded_trimEnd written).trans (Text.padded_trim _)
  rw [splitValues,
    Text.map_trim_splitUnquoted valueSeparator_ne_quote isBlank_valueSeparator padded]

/-- Only the label and the single values need to be trimmed. -/
theorem readPair_eq_match :
    readPair options fragment =
      match Text.cutAt labelSeparator fragment with
      | none => .error .missingColon
      | some (label, values) =>
          if Text.trim label = [] then .error .emptyLabel
          else if keptValues options values = [] then .error .emptyValue
          else .ok { label := Text.trim label, values := keptValues options values } := by
  unfold readPair
  rw [Text.cutAt_trim isBlank_labelSeparator]
  cases Text.cutAt labelSeparator fragment with
  | none => rfl
  | some parts =>
      have labelled : Text.trim (Text.trimStart parts.1) = Text.trim parts.1 :=
        (Text.padded_trimStart parts.1).trim_eq.symm
      simp only [Option.map_some, labelled, splitValues_trimEnd, keptValues]
      rfl

/-- A fragment is read as the label in front of its first colon and the values behind it. -/
theorem readPair_eq_ok_iff :
    readPair options fragment = .ok pair ↔
      ∃ label values, fragment = label ++ labelSeparator :: values ∧ labelSeparator ∉ label ∧
        Text.trim label ≠ [] ∧ keptValues options values ≠ [] ∧
        pair = { label := Text.trim label, values := keptValues options values } := by
  rw [readPair_eq_match]
  simp only [← and_assoc, ← Text.cutAt_eq_some_iff]
  cases Text.cutAt labelSeparator fragment with
  | none => simp
  | some parts =>
      obtain ⟨label, values⟩ := parts
      simp only [Option.some.injEq, Prod.mk.injEq]
      by_cases labelled : Text.trim label = []
      · simp [labelled]
      · by_cases valued : keptValues options values = []
        · simp [labelled, valued]
        · simp [labelled, valued, eq_comm]

end Reading

section Padded

variable {values written : List Text}

theorem map_of_padded {α : Type} {view : Text → α}
    (same : ∀ text written, Text.Padded text written → view written = view text)
    (padded : List.Forall₂ Text.Padded values written) : written.map view = values.map view := by
  induction padded with
  | nil => rfl
  | cons first _ induction => rw [List.map_cons, List.map_cons, same _ _ first, induction]

theorem map_marks_of_padded {separator : Char} (visible : Text.isBlank separator = false)
    (padded : List.Forall₂ Text.Padded values written) :
    written.map (Text.marks separator) = values.map (Text.marks separator) :=
  map_of_padded (fun _ _ inside => inside.marks_eq visible) padded

theorem keptValues_join (proper : ∀ value ∈ values, IsValue value)
    (cut : Text.IsCut valueSeparator values) (padded : List.Forall₂ Text.Padded values written) :
    keptValues options (Text.join [valueSeparator] written) = values := by
  have writtenCut : Text.IsCut valueSeparator written := by
    rw [← Text.isCut_map_marks_iff, map_marks_of_padded isBlank_valueSeparator padded]
    exact Text.isCut_map_marks_iff.2 cut
  have trimmed : values.map Text.trim = values := by
    refine (List.map_congr_left fun value member => ?_).trans values.map_id
    exact (proper value member).trimmed
  rw [keptValues, Text.splitUnquoted_join valueSeparator_ne_quote writtenCut,
    map_of_padded (fun _ _ inside => inside.trim_eq) padded, trimmed, List.filter_eq_self]
  intro value member
  simp [(proper value member).nonempty]

end Padded

section Written

theorem readPair_of_written (readable : pair.Readable) (written : pair.Written text) :
    readPair options text = .ok pair := by
  obtain ⟨label, values, labelPadded, valuesPadded, rfl⟩ := written
  have unmarked : labelSeparator ∉ label := fun colon =>
    readable.label.unmarked (labelPadded.mem_of_mem isBlank_labelSeparator colon)
  have labelled : Text.trim label = pair.label :=
    labelPadded.trim_eq.trans readable.label.trimmed
  have valued : keptValues options (Text.join [valueSeparator] values) = pair.values :=
    keptValues_join readable.values readable.cut valuesPadded
  refine readPair_eq_ok_iff.2 ⟨label, _, rfl, unmarked, ?_, ?_, ?_⟩
  · rw [labelled]
    exact readable.label.nonempty
  · rw [valued]
    exact readable.cut.nonempty
  · rw [labelled, valued]

theorem marks_of_written (written : pair.Written text) :
    Text.marks pairSeparator text =
      Text.marks pairSeparator pair.label ++
        (pair.values.map (Text.marks pairSeparator)).flatten := by
  obtain ⟨label, values, labelPadded, valuesPadded, rfl⟩ := written
  rw [Text.marks_append, marks_cons_labelSeparator,
    Text.marks_join valueSeparator_ne_quote valueSeparator_ne_pairSeparator,
    labelPadded.marks_eq isBlank_pairSeparator,
    map_marks_of_padded isBlank_pairSeparator valuesPadded]

end Written

section Plain

theorem Pair.Plain.readable (plain : pair.Plain) : pair.Readable := by
  refine ⟨plain.label.toIsLabel, fun value member => (plain.values value member).toIsValue, ?_⟩
  refine ⟨plain.nonempty, ?_, fun value member => (plain.values value member).enclosesValues⟩
  refine List.pairwise_of_forall_mem_list fun value member _ _ => ?_
  exact (plain.values value member).closed

theorem Pair.Plain.marks (plain : pair.Plain) (written : pair.Written text) :
    Text.marks pairSeparator text = (pair.values.map (Text.marks pairSeparator)).flatten := by
  have unmarked : Text.marks pairSeparator pair.label = [] := by
    refine Text.marks_eq_nil fun character member => ⟨?_, ?_⟩
    · rintro rfl
      exact plain.label.unquoted member
    · rintro rfl
      exact plain.label.unjoined member
  rw [marks_of_written written, unmarked, List.nil_append]

theorem Pair.Plain.closed (plain : pair.Plain) (written : pair.Written text) :
    Text.Closed text := by
  rw [← Text.closed_marks_iff, plain.marks written]
  refine Text.closed_flatten (List.forall_mem_map.2 fun value member => ?_)
  exact Text.closed_marks_iff.2 (plain.values value member).closed

theorem Pair.Plain.encloses (plain : pair.Plain) (written : pair.Written text) :
    Text.Encloses pairSeparator text := by
  rw [← Text.encloses_marks_iff, plain.marks written]
  refine Text.encloses_flatten ?_ ?_
  · refine List.forall_mem_map.2 fun value member => ?_
    exact Text.closed_marks_iff.2 (plain.values value member).closed
  · refine List.forall_mem_map.2 fun value member => ?_
    exact Text.encloses_marks_iff.2 (plain.values value member).enclosesPairs

end Plain

section Queries

variable {texts : List Text} {query : Query}

theorem pairs_eq_of_fragments (split : fragments raw = texts)
    (found : List.Forall₂ (fun pair text => readPair options text = .ok pair) kept texts) :
    pairs options raw = kept ∧ skippedPairs options raw = [] := by
  rw [pairs, skippedPairs, split]
  clear split
  induction found with
  | nil => exact ⟨rfl, rfl⟩
  | cons first _ induction =>
      obtain ⟨keptRest, skippedRest⟩ := induction
      simp only [List.filterMap_cons, first]
      exact ⟨by rw [keptRest], skippedRest⟩

theorem pairQueries_false : pairQueries false kept = kept.map (pairQuery false) := by
  induction kept with
  | nil => rfl
  | cons pair kept induction =>
      cases kept with
      | nil => rfl
      | cons next kept => rw [pairQueries_cons_cons, induction]; rfl

theorem fieldMatches_false {values : List Text} :
    fieldMatches false label values = values.map (finishedMatch label) := by
  induction values with
  | nil => rfl
  | cons value values induction =>
      cases values with
      | nil => rfl
      | cons next values => rw [fieldMatches_cons_cons, induction]; rfl

theorem fieldMatches_of_proper {values : List Text} (proper : ∀ value ∈ values, IsValue value) :
    fieldMatches false label values = values.map fun value => { label, value } := by
  rw [fieldMatches_false]
  refine List.map_congr_left fun value member => ?_
  rw [finishedMatch, if_neg (proper value member).nonempty]

/-- A finished pair asks for one of its values, if none of them is empty. -/
theorem pairQuery_false_eq_matchAny (proper : ∀ value ∈ pair.values, IsValue value) :
    pairQuery false pair = .matchAny pair.label pair.values := by
  rw [pairQuery, fieldMatches_of_proper proper, List.map_map]
  rfl

theorem pairs_nil : pairs options [] = [] :=
  rfl

theorem readStrict_eq_some_iff :
    readStrict options raw = some query ↔
      pairs options raw ≠ [] ∧ (read options raw).query = query := by
  have noText : raw = [] → pairs options raw = [] := by
    rintro rfl
    exact pairs_nil
  have isEmpty : (read options raw).isEmpty = true ↔ pairs options raw = [] := by
    rw [Outcome.isEmpty, Option.isNone_iff_eq_none, read_lastLabel_eq_none_iff]
  simp only [readStrict, isEmpty, or_iff_right_of_imp noText]
  by_cases none : pairs options raw = []
  · simp [none]
  · simp [none]

/-- A text with proper pairs is read as the choices of one value for each label, all of which have
to hold. -/
theorem readStrict_of_pairs (found : pairs {} raw = kept) (nonempty : kept ≠ [])
    (proper : ∀ pair ∈ kept, ∀ value ∈ pair.values, IsValue value) :
    readStrict {} raw =
      some (.allOf (kept.map fun pair => .matchAny pair.label pair.values)) := by
  have queries : pairQueries false kept =
      kept.map fun pair => Query.matchAny pair.label pair.values := by
    rw [pairQueries_false]
    exact List.map_congr_left fun pair member => pairQuery_false_eq_matchAny (proper pair member)
  refine readStrict_eq_some_iff.2 ⟨by rwa [found], ?_⟩
  simp only [read, found, queries]

end Queries

section Grammar

variable {texts : List Text}

theorem isCut_of_written (nonempty : kept ≠ [])
    (written : List.Forall₂ (fun pair text => pair.Plain ∧ pair.Written text) kept texts) :
    Text.IsCut pairSeparator texts := by
  have alike : ∀ text ∈ texts, Text.Closed text ∧ Text.Encloses pairSeparator text := by
    clear nonempty
    induction written with
    | nil => exact nofun
    | cons first _ induction =>
        obtain ⟨plain, inText⟩ := first
        exact List.forall_mem_cons.2 ⟨⟨plain.closed inText, plain.encloses inText⟩, induction⟩
  refine ⟨fun none => nonempty ?_, ?_, fun text member => (alike text member).2⟩
  · subst none
    exact List.forall₂_nil_right_iff.1 written
  · exact List.pairwise_of_forall_mem_list fun text member _ _ => (alike text member).1

theorem pairs_of_written (options : Options) (nonempty : kept ≠ [])
    (plain : ∀ pair ∈ kept, pair.Plain) (written : Written kept raw) :
    pairs options raw = kept ∧ skippedPairs options raw = [] := by
  obtain ⟨texts, written, rfl⟩ := written
  have plainWritten := (List.forall₂_and_left kept texts).2 ⟨plain, written⟩
  have cut := isCut_of_written nonempty plainWritten
  have split := Text.splitUnquoted_join pairSeparator_ne_quote cut
  refine pairs_eq_of_fragments split (plainWritten.imp fun pair text inText => ?_)
  exact readPair_of_written inText.1.readable inText.2

/-- Plain pairs that are written one after the other, with blanks around the labels and around the
values, are read as the choices of one value for each label, all of which have to hold.  Nothing of
the text is dropped. -/
theorem reads_written_pairs {kept : List Pair} {raw : Text} (nonempty : kept ≠ [])
    (plain : ∀ pair ∈ kept, pair.Plain) (written : Written kept raw) :
    readStrict {} raw =
        some (.allOf (kept.map fun pair => .matchAny pair.label pair.values)) ∧
      (read {} raw).skipped = [] := by
  obtain ⟨found, dropped⟩ := pairs_of_written {} nonempty plain written
  have proper : ∀ pair ∈ kept, ∀ value ∈ pair.values, IsValue value :=
    fun pair member => (plain pair member).readable.values
  exact ⟨readStrict_of_pairs found nonempty proper, dropped⟩

end Grammar

end RecordSearch.RawQuery

namespace RecordSearch.Samples

open RawQuery

def quotedPairs : List RawQuery.Pair := [
  { label := "Name".toList, values := ["\"Smith + Sons, Ltd\"".toList, "a:b".toList] },
  { label := "Tag".toList, values := ["x\",\"y".toList] }]

def quotedPairsText : Text :=
  "  Name :\t\"Smith + Sons, Ltd\" ,a:b + Tag:x\",\"y\n".toList

theorem reads_written_pairs_quoted :
    readStrict {} quotedPairsText = some (.conjunction [
        .matchAny "Name".toList ["\"Smith + Sons, Ltd\"".toList, "a:b".toList],
        .matchField "Tag".toList "x\",\"y".toList]) ∧
      (read {} quotedPairsText).skipped = [] := by
  have nonempty : quotedPairs ≠ [] := nofun
  have plain : ∀ pair ∈ quotedPairs, pair.Plain := by decide
  have blank {text : Text} (each : text.all Text.isBlank = true) :
      ∀ character ∈ text, Text.isBlank character = true := List.all_eq_true.1 each
  have written : Written quotedPairs quotedPairsText := by
    refine ⟨["  Name :\t\"Smith + Sons, Ltd\" ,a:b ".toList, " Tag:x\",\"y\n".toList], ?_, rfl⟩
    refine .cons ⟨"  Name ".toList, ["\t\"Smith + Sons, Ltd\" ".toList, "a:b ".toList], ?_, ?_, rfl⟩
      (.cons ⟨" Tag".toList, ["x\",\"y\n".toList], ?_, ?_, rfl⟩ .nil)
    · exact ⟨"  ".toList, " ".toList, rfl, blank rfl, blank rfl⟩
    · exact .cons ⟨"\t".toList, " ".toList, rfl, blank rfl, blank rfl⟩
        (.cons ⟨[], " ".toList, rfl, blank rfl, blank rfl⟩ .nil)
    · exact ⟨" ".toList, [], rfl, blank rfl, blank rfl⟩
    · exact .cons ⟨[], "\n".toList, rfl, blank rfl, blank rfl⟩ .nil
  exact reads_written_pairs nonempty plain written

end RecordSearch.Samples
