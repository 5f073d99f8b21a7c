import RecordSearch.Event
import RecordSearch.Proofs.WrittenPairs

/-!
# What becomes of the fragments of a text

A text is cut into fragments, and reading accounts for all of them in their order.  A fragment with
a label and a value becomes a group of the query, and every other fragment is dropped as it stands,
for the one reason that applies to it.
-/

namespace RecordSearch

namespace Text

def AllBlank (text : Text) : Prop :=
  ∀ character ∈ text, isBlank character = true

theorem trim_eq_nil_iff {text : Text} : trim text = [] ↔ AllBlank text := by
  constructor
  · intro nothing
    obtain ⟨front, back, parts, frontBlank, backBlank⟩ := padded_trim text
    rw [nothing, List.append_nil] at parts
    rw [parts]
    exact List.forall_mem_append.2 ⟨frontBlank, backBlank⟩
  · intro blank
    have started : trimStart text = [] := List.dropWhile_eq_nil_iff.2 blank
    rw [trim, started]
    rfl

end Text

namespace Query

variable {queries : List Query}

/-- The groups of which a query that is read from a text consists. -/
def groups : Query → List Query
  | .conjunction children => children
  | .empty => []
  | query => [query]

theorem IsChoice.groups_eq {query : Query} (choice : query.IsChoice) : query.groups = [query] := by
  cases choice with
  | single field => rfl
  | alternatives several same => rfl

theorem groups_allOf (choices : ∀ query ∈ queries, query.IsChoice) :
    (allOf queries).groups = queries := by
  unfold allOf
  induction queries using collapse_cases .conjunction with
  | none => rfl
  | single query => exact (choices query (List.mem_singleton_self query)).groups_eq
  | several queries _ => rfl

end Query

namespace RawQuery

variable {options : Options} {raw fragment : Text} {fragments : List Text} {pair : Pair}
  {kept : List Pair} {groups : List Query} {reason : SkipReason} {skipped : SkippedPair}
  {dropped : List SkippedPair}

/-- The fragment has the label of the pair in front of its first colon, and the values that are
kept behind it. -/
def Pair.ReadFrom (options : Options) (fragment : Text) (pair : Pair) : Prop :=
  ∃ label values, fragment = label ++ labelSeparator :: values ∧ labelSeparator ∉ label ∧
    Text.trim label ≠ [] ∧ keptValues options values ≠ [] ∧
    pair = { label := Text.trim label, values := keptValues options values }

/-- The reason why the fragment is no pair. -/
def SkipReason.Concerns (options : Options) (fragment : Text) : SkipReason → Prop
  | .missingColon => labelSeparator ∉ fragment
  | .emptyLabel => ∃ label values, fragment = label ++ labelSeparator :: values ∧
      labelSeparator ∉ label ∧ Text.AllBlank label
  | .emptyValue => ∃ label values, fragment = label ++ labelSeparator :: values ∧
      labelSeparator ∉ label ∧ ¬Text.AllBlank label ∧ options.allowEmptyValues = false ∧
      ∀ value ∈ Text.splitUnquoted valueSeparator values, Text.AllBlank value

/-- Each of the fragments has become a group of its own, or has been dropped with a reason.  The
last group is the one that can still be in the making. -/
inductive Accounted (options : Options) : List Text → List Query → List SkippedPair → Prop where
  | done : Accounted options [] [] []
  | kept {fragment : Text} {fragments : List Text} {groups : List Query}
      {dropped : List SkippedPair} {pair : Pair} :
      pair.ReadFrom options fragment →
      Accounted options fragments groups dropped →
      Accounted options (fragment :: fragments)
        (pairQuery (options.autocomplete && groups.isEmpty) pair :: groups) dropped
  | dropped {fragment : Text} {fragments : List Text} {groups : List Query}
      {dropped : List SkippedPair} {reason : SkipReason} :
      reason.Concerns options fragment →
      Accounted options fragments groups dropped →
      Accounted options (fragment :: fragments) groups ({ fragment, reason } :: dropped)

section Reasons

theorem keptValues_eq_nil_iff {written : Text} :
    keptValues options written = [] ↔
      options.allowEmptyValues = false ∧
        ∀ value ∈ Text.splitUnquoted valueSeparator written, Text.AllBlank value := by
  obtain ⟨first, among⟩ : ∃ value, value ∈ Text.splitUnquoted valueSeparator written :=
    List.exists_mem_of_ne_nil _ (Text.splitFrom_ne_nil _ _ _)
  rw [keptValues, List.filter_eq_nil_iff, List.forall_mem_map]
  simp only [Bool.or_eq_true, decide_eq_true_eq, not_or, Bool.not_eq_true, ne_eq, not_not,
    Text.trim_eq_nil_iff]
  constructor
  · intro each
    exact ⟨(each first among).1, fun value member => (each value member).2⟩
  · intro dropped value member
    exact ⟨dropped.1, dropped.2 value member⟩

/-- A reason is about what is in front of the first colon and what is behind it. -/
theorem concerns_iff :
    reason.Concerns options fragment ↔
      match Text.cutAt labelSeparator fragment with
      | none => reason = .missingColon
      | some (label, values) =>
          if Text.trim label = [] then reason = .emptyLabel
          else keptValues options values = [] ∧ reason = .emptyValue := by
  cases reason with
  | missingColon =>
      rw [SkipReason.Concerns, ← Text.cutAt_eq_none_iff]
      cases Text.cutAt labelSeparator fragment <;> simp
  | emptyLabel =>
      have atCut : SkipReason.Concerns options fragment .emptyLabel ↔ ∃ label values,
          Text.cutAt labelSeparator fragment = some (label, values) ∧ Text.trim label = [] := by
        simp only [SkipReason.Concerns, Text.cutAt_eq_some_iff, Text.trim_eq_nil_iff, and_assoc]
      rw [atCut]
      rcases Text.cutAt labelSeparator fragment with _ | ⟨label, values⟩ <;> simp
  | emptyValue =>
      have atCut : SkipReason.Concerns options fragment .emptyValue ↔ ∃ label values,
          Text.cutAt labelSeparator fragment = some (label, values) ∧ ¬Text.trim label = [] ∧
            keptValues options values = [] := by
        simp only [SkipReason.Concerns, Text.cutAt_eq_some_iff, Text.trim_eq_nil_iff,
          keptValues_eq_nil_iff, and_assoc]
      rw [atCut]
      rcases Text.cutAt labelSeparator fragment with _ | ⟨label, values⟩ <;> simp

theorem readPair_eq_error_iff :
    readPair options fragment = .error reason ↔ reason.Concerns options fragment := by
  rw [readPair_eq_match, concerns_iff]
  cases Text.cutAt labelSeparator fragment with
  | none => simp [eq_comm]
  | some parts =>
      by_cases labelled : Text.trim parts.1 = []
      · simp [labelled, eq_comm]
      · by_cases valued : keptValues options parts.2 = []
        · simp [labelled, valued, eq_comm]
        · simp [labelled, valued]

theorem exists_readFrom_iff :
    (∃ pair : Pair, pair.ReadFrom options fragment) ↔
      ∀ reason : SkipReason, ¬reason.Concerns options fragment := by
  simp only [← readPair_eq_error_iff]
  have reads (pair : Pair) : pair.ReadFrom options fragment ↔
      readPair options fragment = .ok pair := readPair_eq_ok_iff.symm
  simp only [reads]
  cases readPair options fragment with
  | ok pair => exact iff_of_true ⟨pair, rfl⟩ nofun
  | error reason => exact iff_of_false nofun fun none => none reason rfl

theorem mem_skippedPairs_iff :
    skipped ∈ skippedPairs options raw ↔
      skipped.fragment ∈ RawQuery.fragments raw ∧
        skipped.reason.Concerns options skipped.fragment := by
  rw [skippedPairs, List.mem_filterMap, ← readPair_eq_error_iff]
  constructor
  · rintro ⟨fragment, member, found⟩
    cases run : readPair options fragment with
    | ok pair => simp [run] at found
    | error reason =>
        obtain rfl : { fragment, reason } = skipped := by simpa [run] using found
        exact ⟨member, run⟩
  · rintro ⟨member, run⟩
    exact ⟨skipped.fragment, member, by rw [run]⟩

end Reasons

section Accounts

/-- The group of a pair can be in the making only if no group follows. -/
theorem pairQueries_cons (completing : Bool) (pair : Pair) (kept : List Pair) :
    pairQueries completing (pair :: kept) =
      pairQuery (completing && (pairQueries completing kept).isEmpty) pair ::
        pairQueries completing kept := by
  cases kept with
  | nil => rw [pairQueries, pairQueries, List.isEmpty_nil, Bool.and_true]
  | cons next kept =>
      have following : pairQueries completing (next :: kept) ≠ [] :=
        fun none => List.cons_ne_nil next kept (pairQueries_eq_nil_iff.1 none)
      rw [pairQueries_cons_cons, List.isEmpty_eq_false_iff.2 following, Bool.and_false]

theorem accounted (options : Options) (raw : Text) :
    Accounted options (RawQuery.fragments raw)
      (pairQueries options.autocomplete (pairs options raw)) (skippedPairs options raw) := by
  -- The pairs and the dropped fragments are taken from the same list, which the induction is on.
  rw [pairs, skippedPairs]
  induction RawQuery.fragments raw with
  | nil => exact .done
  | cons fragment fragments induction =>
      cases run : readPair options fragment with
      | ok pair =>
          simp only [List.filterMap_cons, run, pairQueries_cons]
          exact .kept (readPair_eq_ok_iff.1 run) induction
      | error reason =>
          simp only [List.filterMap_cons, run]
          exact .dropped (readPair_eq_error_iff.1 run) induction

theorem groups_read :
    (read options raw).query.groups = pairQueries options.autocomplete (pairs options raw) :=
  Query.groups_allOf fun _ => isChoice_of_mem_read

end Accounts

/-- The fragments between the plus signs outside quotations make up the text, and each of them, in
order, becomes a group of the query or is dropped as it stands.  It is dropped for a reason exactly
if the reason concerns it, and a pair exactly if none does.  The dropped fragments are noted, and
nothing else is, in order. -/
theorem accounts_for_fragments (options : Options) (raw : Text) :
    Text.IsCut pairSeparator (RawQuery.fragments raw) ∧
      Text.join [pairSeparator] (RawQuery.fragments raw) = raw ∧
      Accounted options (RawQuery.fragments raw) (read options raw).query.groups
        (read options raw).skipped ∧
      (∀ fragment ∈ RawQuery.fragments raw, ∀ reason : SkipReason,
        { fragment, reason } ∈ (read options raw).skipped ↔ reason.Concerns options fragment) ∧
      (∀ fragment, (∃ pair : Pair, pair.ReadFrom options fragment) ↔
        ∀ reason : SkipReason, ¬reason.Concerns options fragment) ∧
      (events options raw).map Event.toJson =
        (read options raw).skipped.map fun skipped => .object [
          ("fragment".toList, .string skipped.fragment),
          ("reason".toList, .string skipped.reason.message),
          ("level".toList, .string "DEBUG".toList),
          ("message".toList, .string "dropping malformed query pair".toList)] := by
  refine ⟨Text.isCut_splitUnquoted pairSeparator_ne_quote raw,
    Text.join_splitUnquoted pairSeparator_ne_quote raw, ?_, ?_, fun _ => exists_readFrom_iff, ?_⟩
  · rw [groups_read]
    exact accounted options raw
  · intro fragment member reason
    exact mem_skippedPairs_iff.trans (and_iff_right member)
  · rw [events, List.map_map]
    rfl

end RawQuery

end RecordSearch
