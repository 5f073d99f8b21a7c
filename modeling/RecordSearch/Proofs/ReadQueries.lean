import RecordSearch.Proofs.Collapsing
import RecordSearch.Proofs.Trimming
import RecordSearch.Query.Raw

/-!
# What raw queries are read as

However a text is written, the query that is read from it is in normal form: the choice of a value
for one label, or several choices that all have to hold, or the empty query if there is no pair in
the text.  The labels and values are trimmed and not empty.  So no empty query gets inside another
one, and compiling a text can fail only for want of a pair or for a malformed literal.
-/

namespace RecordSearch

namespace Query

/-- A condition on one field, or several alternatives for one label. -/
inductive IsChoice : Query → Prop where
  | single (field : FieldMatch) : IsChoice (.base (.field field))
  | alternatives {label : Text} {fields : List FieldMatch} :
      2 ≤ fields.length →
      (∀ field ∈ fields, field.label = label) →
      IsChoice (.disjunction (fields.map fun field => .base (.field field)))

/-- The empty query, a choice, or several choices that all have to hold. -/
inductive IsNormal : Query → Prop where
  | empty : IsNormal .empty
  | choice {query : Query} : query.IsChoice → IsNormal query
  | choices {queries : List Query} :
      2 ≤ queries.length →
      (∀ query ∈ queries, query.IsChoice) →
      IsNormal (.conjunction queries)

theorem IsChoice.isEmpty {query : Query} (choice : query.IsChoice) : query.isEmpty = false := by
  cases choice with
  | single field => rfl
  | alternatives several same => rfl

theorem isChoice_anyOf {label : Text} {fields : List FieldMatch} (nonempty : fields ≠ [])
    (same : ∀ field ∈ fields, field.label = label) :
    (anyOf (fields.map fun field => .base (.field field))).IsChoice := by
  cases fields with
  | nil => exact absurd rfl nonempty
  | cons first rest =>
      cases rest with
      | nil => exact .single first
      | cons second rest =>
          have several : 2 ≤ (first :: second :: rest).length := by simp
          exact .alternatives several same

section AllOf

variable {queries : List Query}

theorem isNormal_allOf (choices : ∀ query ∈ queries, query.IsChoice) :
    (allOf queries).IsNormal := by
  unfold allOf
  induction queries using collapse_cases .conjunction with
  | none => exact .empty
  | single query => exact .choice (choices query (List.mem_singleton_self query))
  | several queries several => exact .choices several choices

theorem allOf_eq_empty_iff (choices : ∀ query ∈ queries, query.IsChoice) :
    allOf queries = .empty ↔ queries = [] := by
  unfold allOf
  induction queries using collapse_cases .conjunction with
  | none => simp
  | single query =>
      have nonempty := (choices query (List.mem_singleton_self query)).isEmpty
      exact iff_of_false (isEmpty_eq_false_iff.1 nonempty) nofun
  | several queries several =>
      exact iff_of_false nofun (Schema.ne_nil_of_two_le_length several)

end AllOf

end Query

namespace Schema

variable {schema : Schema} {query : Query} {error : SearchError}

theorem compileNested_error_of_isChoice [PropertyTable] (choice : query.IsChoice)
    (failed : schema.compileNested query = .error error) : error = .malformedPattern := by
  cases choice with
  | single field => exact (compileField_eq_error_iff.1 failed).2
  | alternatives several same =>
      obtain ⟨child, member, childFailed⟩ := exists_error_of_disjunction failed
      obtain ⟨field, _, rfl⟩ := List.mem_map.1 member
      exact (compileField_eq_error_iff.1 childFailed).2

theorem compile_error_of_isNormal [PropertyTable] (normal : query.IsNormal)
    (failed : schema.compile query = .error error) : error = .malformedPattern := by
  cases normal with
  | empty => cases failed
  | choice choice =>
      rw [compile_eq_compileNested choice.isEmpty] at failed
      exact compileNested_error_of_isChoice choice failed
  | choices several choices =>
      rw [compile_eq_compileNested rfl] at failed
      obtain ⟨child, member, childFailed⟩ := exists_error_of_conjunction failed
      exact compileNested_error_of_isChoice (choices child member) childFailed

/-- Compiling a text succeeds, or there is no pair in it, or a literal in it is malformed. -/
def EndsAsText (run : Except SearchError Predicate) : Prop :=
  (∃ predicate, run = .ok predicate) ∨ run = .error .emptyQuery ∨ run = .error .malformedPattern

theorem endsAsText_of_isNormal [PropertyTable] (normal : query.IsNormal) :
    EndsAsText (schema.compile query) := by
  cases run : schema.compile query with
  | ok predicate => exact .inl ⟨predicate, rfl⟩
  | error error =>
      have reason := compile_error_of_isNormal normal run
      subst reason
      exact .inr (.inr rfl)

theorem endsAsText_emptyQuery : EndsAsText (.error .emptyQuery) :=
  .inr (.inl rfl)

end Schema

namespace RawQuery

variable {options : Options} {raw fragment label value : Text} {values : List Text}
  {completing : Bool} {pair : Pair} {kept : List Pair} {field : FieldMatch} {query : Query}

/-- A trimmed text that is not empty and has no colon. -/
structure IsLabel (label : Text) : Prop where
  nonempty : label ≠ []
  trimmed : Text.trim label = label
  unmarked : ':' ∉ label

/-- A trimmed text that is not empty. -/
structure IsValue (value : Text) : Prop where
  nonempty : value ≠ []
  trimmed : Text.trim value = value

/-- A label with at least one value.  The values are trimmed, but can be empty. -/
structure Pair.WellFormed (pair : Pair) : Prop where
  label : IsLabel pair.label
  nonempty : pair.values ≠ []
  trimmed : ∀ value ∈ pair.values, Text.trim value = value

section Pairs

theorem trim_of_mem_splitValues {written : Text} (member : value ∈ splitValues written) :
    Text.trim value = value := by
  obtain ⟨piece, _, rfl⟩ := List.mem_map.1 member
  exact Text.trim_trim piece

theorem wellFormed_of_readPair (run : readPair options fragment = .ok pair) :
    pair.WellFormed := by
  unfold readPair at run
  cases cut : Text.cutAt labelSeparator (Text.trim fragment) with
  | none =>
      rw [cut] at run
      cases run
  | some parts =>
      obtain ⟨before, after⟩ := parts
      simp only [cut] at run
      split at run
      case isTrue => cases run
      case isFalse labelled =>
        split at run
        case isTrue => cases run
        case isFalse valued =>
          cases run
          have unmarked : ':' ∉ before := (Text.cutAt_eq_some_iff.1 cut).2
          constructor
          · exact ⟨labelled, Text.trim_trim before, fun colon =>
              unmarked (Text.mem_of_mem_trim colon)⟩
          · exact valued
          · intro value member
            exact trim_of_mem_splitValues (List.mem_of_mem_filter member)

theorem mem_pairs_iff :
    pair ∈ pairs options raw ↔
      ∃ fragment ∈ fragments raw, readPair options fragment = .ok pair := by
  rw [pairs, List.mem_filterMap]
  refine exists_congr fun fragment => and_congr_right fun _ => ?_
  cases readPair options fragment <;> simp

theorem wellFormed_of_mem_pairs (member : pair ∈ pairs options raw) : pair.WellFormed := by
  obtain ⟨fragment, _, run⟩ := mem_pairs_iff.1 member
  exact wellFormed_of_readPair run

end Pairs

section FieldMatches

variable {next : Text}

theorem fieldMatches_cons_cons :
    fieldMatches completing label (value :: next :: values) =
      finishedMatch label value :: fieldMatches completing label (next :: values) :=
  rfl

theorem exists_value_of_mem_fieldMatches (member : field ∈ fieldMatches completing label values) :
    ∃ value ∈ values, field = finishedMatch label value ∨ field = completingMatch label value := by
  induction values with
  | nil => cases member
  | cons value values induction =>
      cases values with
      | nil =>
          have whole := List.mem_singleton.1 member
          cases completing with
          | true => exact ⟨value, List.mem_singleton_self value, .inr whole⟩
          | false => exact ⟨value, List.mem_singleton_self value, .inl whole⟩
      | cons next values =>
          rw [fieldMatches_cons_cons, List.mem_cons] at member
          rcases member with first | later
          · exact ⟨value, List.mem_cons_self, .inl first⟩
          · obtain ⟨found, place, shape⟩ := induction later
            exact ⟨found, List.mem_cons_of_mem value place, shape⟩

theorem label_of_mem_fieldMatches (member : field ∈ fieldMatches completing label values) :
    field.label = label := by
  obtain ⟨value, _, rfl | rfl⟩ := exists_value_of_mem_fieldMatches member
  · rfl
  · rfl

theorem isValue_finishedMatch (trimmed : Text.trim value = value) :
    IsValue (finishedMatch label value).value := by
  unfold finishedMatch
  by_cases missing : value = []
  · rw [if_pos missing]
    exact ⟨nofun, by rfl⟩
  · rw [if_neg missing]
    exact ⟨missing, trimmed⟩

theorem isValue_completingMatch (trimmed : Text.trim value = value) :
    IsValue (completingMatch label value).value := by
  have visible : Text.isBlank '*' = false := by decide
  exact ⟨List.concat_ne_nil '*' value, Text.trim_concat trimmed visible⟩

theorem isValue_of_mem_fieldMatches (trimmed : ∀ value ∈ values, Text.trim value = value)
    (member : field ∈ fieldMatches completing label values) : IsValue field.value := by
  obtain ⟨value, place, rfl | rfl⟩ := exists_value_of_mem_fieldMatches member
  · exact isValue_finishedMatch (trimmed value place)
  · exact isValue_completingMatch (trimmed value place)

theorem fieldMatches_ne_nil (nonempty : values ≠ []) :
    fieldMatches completing label values ≠ [] := by
  cases values with
  | nil => exact absurd rfl nonempty
  | cons value values =>
      cases values with
      | nil => exact nofun
      | cons next values => exact nofun

end FieldMatches

section Queries

variable {next : Pair}

theorem pairQueries_cons_cons :
    pairQueries completing (pair :: next :: kept) =
      pairQuery false pair :: pairQueries completing (next :: kept) :=
  rfl

theorem exists_pair_of_mem_pairQueries (member : query ∈ pairQueries completing kept) :
    ∃ pair ∈ kept, ∃ typing, query = pairQuery typing pair := by
  induction kept with
  | nil => cases member
  | cons pair kept induction =>
      cases kept with
      | nil => exact ⟨pair, List.mem_singleton_self pair, completing, List.mem_singleton.1 member⟩
      | cons next kept =>
          rw [pairQueries_cons_cons, List.mem_cons] at member
          rcases member with first | later
          · exact ⟨pair, List.mem_cons_self, false, first⟩
          · obtain ⟨found, place, shape⟩ := induction later
            exact ⟨found, List.mem_cons_of_mem pair place, shape⟩

theorem pairQueries_eq_nil_iff : pairQueries completing kept = [] ↔ kept = [] := by
  cases kept with
  | nil => exact iff_of_true rfl rfl
  | cons pair kept =>
      cases kept with
      | nil => exact iff_of_false nofun nofun
      | cons next kept => exact iff_of_false nofun nofun

theorem isChoice_pairQuery (wellFormed : pair.WellFormed) : (pairQuery completing pair).IsChoice :=
  Query.isChoice_anyOf (fieldMatches_ne_nil wellFormed.nonempty) fun _ => label_of_mem_fieldMatches

theorem fields_pairQuery :
    (pairQuery completing pair).fields = fieldMatches completing pair.label pair.values := by
  rw [pairQuery, Query.fields_anyOf, List.flatMap_map]
  exact List.flatMap_singleton' _

theorem isChoice_of_mem_pairQueries (wellFormed : ∀ pair ∈ kept, pair.WellFormed)
    (member : query ∈ pairQueries completing kept) : query.IsChoice := by
  obtain ⟨pair, place, typing, rfl⟩ := exists_pair_of_mem_pairQueries member
  exact isChoice_pairQuery (wellFormed pair place)

theorem getLast?_label_pairQuery (wellFormed : pair.WellFormed) :
    (pairQuery completing pair).fields.getLast?.map (·.label) = some pair.label := by
  rw [fields_pairQuery]
  have nonempty : fieldMatches completing pair.label pair.values ≠ [] :=
    fieldMatches_ne_nil wellFormed.nonempty
  rw [List.getLast?_eq_some_getLast nonempty, Option.map_some]
  exact congrArg some (label_of_mem_fieldMatches (List.getLast_mem nonempty))

theorem getLast?_label_pairQueries (wellFormed : ∀ pair ∈ kept, pair.WellFormed) :
    ((pairQueries completing kept).flatMap Query.fields).getLast?.map (·.label) =
      kept.getLast?.map (·.label) := by
  induction kept with
  | nil => rfl
  | cons pair kept induction =>
      obtain ⟨pairFormed, keptFormed⟩ := List.forall_mem_cons.1 wellFormed
      cases kept with
      | nil =>
          rw [pairQueries, List.flatMap_singleton]
          exact getLast?_label_pairQuery pairFormed
      | cons next kept =>
          have last := List.getLast?_eq_some_getLast (List.cons_ne_nil next kept)
          rw [pairQueries_cons_cons, List.flatMap_cons, List.getLast?_append, Option.map_or,
            induction keptFormed, List.getLast?_cons_cons, last, Option.map_some, Option.some_or]

end Queries

section Read

variable {schema : Schema}

theorem isChoice_of_mem_read (member : query ∈ pairQueries completing (pairs options raw)) :
    query.IsChoice :=
  isChoice_of_mem_pairQueries (fun _ => wellFormed_of_mem_pairs) member

theorem read_isNormal : (read options raw).query.IsNormal :=
  Query.isNormal_allOf fun _ => isChoice_of_mem_read

theorem fields_read :
    (read options raw).query.fields =
      (pairQueries options.autocomplete (pairs options raw)).flatMap Query.fields :=
  Query.fields_allOf _

/-- Whatever is asked for in a text is asked for in one of its pairs. -/
theorem exists_pair_of_mem_fields_read (member : field ∈ (read options raw).query.fields) :
    ∃ pair ∈ pairs options raw, ∃ typing, field ∈ fieldMatches typing pair.label pair.values := by
  rw [fields_read] at member
  obtain ⟨query, place, inside⟩ := List.mem_flatMap.1 member
  obtain ⟨pair, kept, typing, rfl⟩ := exists_pair_of_mem_pairQueries place
  rw [fields_pairQuery] at inside
  exact ⟨pair, kept, typing, inside⟩

theorem wellFormed_of_mem_fields_read (member : field ∈ (read options raw).query.fields) :
    IsLabel field.label ∧ IsValue field.value := by
  obtain ⟨pair, kept, typing, inside⟩ := exists_pair_of_mem_fields_read member
  have wellFormed : pair.WellFormed := wellFormed_of_mem_pairs kept
  rw [label_of_mem_fieldMatches inside]
  exact ⟨wellFormed.label, isValue_of_mem_fieldMatches wellFormed.trimmed inside⟩

theorem read_query_eq_empty_iff : (read options raw).query = .empty ↔ pairs options raw = [] := by
  rw [read, Query.allOf_eq_empty_iff fun _ => isChoice_of_mem_read, pairQueries_eq_nil_iff]

theorem read_lastLabel_eq_none_iff :
    (read options raw).lastLabel = none ↔ pairs options raw = [] := by
  rw [read, Option.map_eq_none_iff, List.getLast?_eq_none_iff]

theorem read_lastLabel_eq :
    (read options raw).lastLabel = (read options raw).query.fields.getLast?.map (·.label) := by
  rw [fields_read, getLast?_label_pairQueries fun _ => wellFormed_of_mem_pairs]
  rfl

theorem isNormal_of_readStrict (run : readStrict options raw = some query) : query.IsNormal := by
  simp only [readStrict] at run
  split at run
  · cases run
  · cases run
    exact read_isNormal

theorem isNormal_of_readOrEmpty (run : readOrEmpty raw = some query) : query.IsNormal := by
  unfold readOrEmpty at run
  split at run
  · cases run
    exact .empty
  · exact isNormal_of_readStrict run

theorem isNormal_of_readCompleting {last : Text} (run : readCompleting raw = some (query, last)) :
    query.IsNormal := by
  simp only [readCompleting] at run
  split at run
  · cases run
  · obtain ⟨_, _, same⟩ := Option.map_eq_some_iff.1 run
    cases same
    exact read_isNormal

end Read

end RawQuery

namespace Schema

variable {schema : Schema} {raw : Text}

variable [PropertyTable]

theorem endsAsText_compileRaw : EndsAsText (schema.compileRaw raw) := by
  unfold compileRaw
  cases run : RawQuery.readStrict {} raw with
  | none => exact endsAsText_emptyQuery
  | some query => exact endsAsText_of_isNormal (RawQuery.isNormal_of_readStrict run)

theorem endsAsText_compileRawOrEmpty : EndsAsText (schema.compileRawOrEmpty raw) := by
  unfold compileRawOrEmpty
  cases run : RawQuery.readOrEmpty raw with
  | none => exact endsAsText_emptyQuery
  | some query => exact endsAsText_of_isNormal (RawQuery.isNormal_of_readOrEmpty run)

theorem endsAsText_compileCompleting : EndsAsText (schema.compileCompleting raw) := by
  unfold compileCompleting
  cases run : RawQuery.readCompleting raw with
  | none => exact endsAsText_emptyQuery
  | some result => exact endsAsText_of_isNormal (RawQuery.isNormal_of_readCompleting run)

end Schema

namespace RawQuery

/-- Every text is read as a query in normal form, which is the empty one exactly if there is no
pair in the text.  Its conditions are on proper labels and values, the last of them on the label
that is reported as the last one.  So against any schema, the text compiles, or there is no pair in
it, or a literal in it is malformed. -/
theorem reads_in_normal_form [PropertyTable] (options : Options) (raw : Text) (schema : Schema) :
    (read options raw).query.IsNormal ∧
      ((read options raw).query = .empty ↔ pairs options raw = []) ∧
      ((read options raw).lastLabel = none ↔ pairs options raw = []) ∧
      (∀ field ∈ (read options raw).query.fields, IsLabel field.label ∧ IsValue field.value) ∧
      (read options raw).lastLabel = (read options raw).query.fields.getLast?.map (·.label) ∧
      Schema.EndsAsText (schema.compileRaw raw) ∧
      Schema.EndsAsText (schema.compileRawOrEmpty raw) ∧
      Schema.EndsAsText (schema.compileCompleting raw) := by
  refine ⟨read_isNormal, read_query_eq_empty_iff, read_lastLabel_eq_none_iff, ?_,
    read_lastLabel_eq, ?_, ?_, ?_⟩
  · intro field member
    exact wellFormed_of_mem_fields_read member
  · exact Schema.endsAsText_compileRaw
  · exact Schema.endsAsText_compileRawOrEmpty
  · exact Schema.endsAsText_compileCompleting

example :
    (read {} " Tag : vip,, staff+x+Name:".toList).query =
      .matchAny "Tag".toList ["vip".toList, "staff".toList] := by rfl

end RawQuery

end RecordSearch
