import RecordSearch.Proofs.LinkedConditions
import RecordSearch.Proofs.LiteralTests

/-!
# Why a query does not compile

A query compiles unless something is wrong with one of its parts: an empty
query inside another one, a list of documents, a linked group without fields,
or a literal for texts that stands for no acceptable pattern.  It then fails for
the reason that its first wrong part gives, reading from left to right.
-/

namespace RecordSearch

namespace Query

/-- A part of a query: a query in it, or a condition of a linked group in it. -/
inductive Part
  | query (query : Query)
  | linkedField (group : List FieldMatch) (field : FieldMatch)

def linkedParts : Condition → List Part
  | .linked fields => fields.map (.linkedField fields)
  | _ => []

mutual

/-- The parts of a query, each before those inside it, from left to right. -/
def parts : Query → List Part
  | .conjunction children => .query (.conjunction children) :: partsOfList children
  | .disjunction children => .query (.disjunction children) :: partsOfList children
  | .boolean must mustNot =>
      .query (.boolean must mustNot) :: (partsOfList must ++ partsOfList mustNot)
  | .base condition => .query (.base condition) :: linkedParts condition
  | .empty => [.query .empty]

def partsOfList : List Query → List Part
  | [] => []
  | query :: queries => parts query ++ partsOfList queries

end

@[simp]
theorem partsOfList_eq_flatMap (queries : List Query) :
    partsOfList queries = queries.flatMap parts := by
  induction queries with
  | nil => rfl
  | cons query queries induction => simp [partsOfList, induction]

end Query

namespace Schema

variable {schema : Schema} {error : SearchError}

theorem forall_known_of_resolveAll? {fields : List FieldMatch}
    {resolved : List (FieldMatch × FieldPath)} (run : schema.resolveAll? fields = some resolved) :
    ∀ field ∈ fields, ∃ path, schema.get? field.label = some path := by
  induction fields generalizing resolved with
  | nil => simp
  | cons field fields induction =>
      simp only [resolveAll?, List.mapM_cons, Option.bind_eq_bind, Option.bind_eq_some_iff,
        Option.map_eq_some_iff] at run
      obtain ⟨_, ⟨path, known, _⟩, rest, restRun, _⟩ := run
      exact List.forall_mem_cons.2 ⟨⟨path, known⟩, induction restRun⟩

variable [PropertyTable]

/-- The schema knows the label of the condition, and its path may end in texts, for which the
literal is malformed. -/
def Refuses (schema : Schema) (field : FieldMatch) : Prop :=
  ∃ path, schema.get? field.label = some path ∧ .string ∈ path.leaves ∧
    Matcher.Malformed field.value

/-- Something is wrong with the part of a query, and this is the reason.  A condition of a linked
group is read only if the schema knows all labels of the group. -/
inductive Fault (schema : Schema) : Query.Part → SearchError → Prop where
  | empty : Fault schema (.query .empty) .nestedEmpty
  | documents {identifiers : List Text} :
      Fault schema (.query (.base (.documents identifiers))) .documents
  | noFields : Fault schema (.query (.base (.linked []))) .linkedWithoutFields
  | field {field : FieldMatch} :
      schema.Refuses field →
      Fault schema (.query (.base (.field field))) .malformedPattern
  | linkedField {group : List FieldMatch} {field : FieldMatch} :
      (∀ member ∈ group, ∃ path, schema.get? member.label = some path) →
      schema.Refuses field →
      Fault schema (.linkedField group field) .malformedPattern

theorem fault_empty_iff : schema.Fault (.query .empty) error ↔ error = .nestedEmpty := by
  constructor
  · intro fault
    cases fault
    rfl
  · intro reason
    subst reason
    exact .empty

theorem fault_field_iff {field : FieldMatch} :
    schema.Fault (.query (.base (.field field))) error ↔
      schema.Refuses field ∧ error = .malformedPattern := by
  constructor
  · intro fault
    cases fault with
    | field refuses => exact ⟨refuses, rfl⟩
  · intro parts
    obtain ⟨refuses, rfl⟩ := parts
    exact .field refuses

theorem fault_linkedField_iff {group : List FieldMatch} {field : FieldMatch} :
    schema.Fault (.linkedField group field) error ↔
      ((∀ member ∈ group, ∃ path, schema.get? member.label = some path) ∧
        schema.Refuses field) ∧ error = .malformedPattern := by
  constructor
  · intro fault
    cases fault with
    | linkedField known refuses => exact ⟨⟨known, refuses⟩, rfl⟩
  · intro parts
    obtain ⟨⟨known, refuses⟩, rfl⟩ := parts
    exact .linkedField known refuses

theorem fault_linked_iff {fields : List FieldMatch} :
    schema.Fault (.query (.base (.linked fields))) error ↔
      fields = [] ∧ error = .linkedWithoutFields := by
  constructor
  · intro fault
    cases fault
    exact ⟨rfl, rfl⟩
  · intro parts
    obtain ⟨rfl, rfl⟩ := parts
    exact .noFields

theorem fault_documents_iff {identifiers : List Text} :
    schema.Fault (.query (.base (.documents identifiers))) error ↔ error = .documents := by
  constructor
  · intro fault
    cases fault
    rfl
  · intro reason
    subst reason
    exact .documents

theorem compileField_eq_error_iff {field : FieldMatch} :
    schema.compileField field = .error error ↔
      schema.Refuses field ∧ error = .malformedPattern := by
  unfold compileField Refuses
  cases known : schema.get? field.label with
  | none => simp
  | some path =>
      simp only [Run.bind_eq_error_iff, FieldPath.leafTest_eq_error_iff]
      simp [pure, Except.pure]

theorem branch_eq_error_iff {shared : List Step} {field : FieldMatch} {path : FieldPath} :
    branch shared (field, path) = .error error ↔
      (.string ∈ path.leaves ∧ Matcher.Malformed field.value) ∧ error = .malformedPattern := by
  simp only [branch, Run.bind_eq_error_iff, FieldPath.leafTest_eq_error_iff]
  simp [pure, Except.pure]

theorem compileResolved_eq_bind (resolved : List (FieldMatch × FieldPath)) :
    compileResolved resolved = (do
      let branches ← resolved.mapM (branch (FieldPath.sharedSteps (resolved.map (·.2))))
      return .wrap (FieldPath.sharedSteps (resolved.map (·.2))) (.all branches)) :=
  rfl

theorem compileResolved_eq_error_iff {resolved : List (FieldMatch × FieldPath)} :
    compileResolved resolved = .error error ↔
      (∃ pair ∈ resolved, .string ∈ pair.2.leaves ∧ Matcher.Malformed pair.1.value) ∧
        error = .malformedPattern := by
  have fails (pair : FieldMatch × FieldPath) (other : SearchError) :
      branch (FieldPath.sharedSteps (resolved.map (·.2))) pair = .error other ↔
        (.string ∈ pair.2.leaves ∧ Matcher.Malformed pair.1.value) ∧ other = .malformedPattern :=
    branch_eq_error_iff
  rw [compileResolved_eq_bind, Run.bind_eq_error_iff, Run.mapM_eq_error_iff,
    First.iff_of_single fails]
  simp [pure, Except.pure]

theorem compileLinked_eq_error_iff {fields : List FieldMatch} (nonempty : fields ≠ []) :
    schema.compileLinked fields = .error error ↔
      (∃ field ∈ fields, (∀ member ∈ fields, ∃ path, schema.get? member.label = some path) ∧
        schema.Refuses field) ∧ error = .malformedPattern := by
  rw [compileLinked, if_neg nonempty]
  by_cases known : ∀ field ∈ fields, ∃ path, schema.get? field.label = some path
  · obtain ⟨resolved, run, _, members⟩ := exists_resolveAll? known
    rw [run, compileResolved_eq_error_iff]
    refine and_congr_left fun _ => ?_
    constructor
    · intro refused
      obtain ⟨⟨field, path⟩, member, text, malformed⟩ := refused
      obtain ⟨fieldMember, found⟩ := (members field path).1 member
      exact ⟨field, fieldMember, known, path, found, text, malformed⟩
    · intro refused
      obtain ⟨field, member, _, path, found, text, malformed⟩ := refused
      exact ⟨(field, path), (members field path).2 ⟨member, found⟩, text, malformed⟩
  · have unresolved : schema.resolveAll? fields = none := by
      cases run : schema.resolveAll? fields with
      | none => rfl
      | some resolved => exact absurd (forall_known_of_resolveAll? run) known
    simp [unresolved, known]

theorem compileCondition_eq_error_iff {condition : Condition} :
    schema.compileCondition condition = .error error ↔
      First schema.Fault (Query.base condition).parts error := by
  rw [Query.parts]
  cases condition with
  | field field =>
      rw [compileCondition, compileField_eq_error_iff, ← fault_field_iff]
      simp [Query.linkedParts, First.cons_iff, First.nil_iff]
  | linked fields =>
      rw [compileCondition, Query.linkedParts]
      by_cases nonempty : fields = []
      · subst nonempty
        simp [First.cons_iff, First.nil_iff, fault_linked_iff, compileLinked, eq_comm]
      · have sound (other : SearchError) :
            ¬schema.Fault (.query (.base (.linked fields))) other := by
          simp [fault_linked_iff, nonempty]
        have member (field : FieldMatch) (other : SearchError) :
            schema.Fault (.linkedField fields field) other ↔
              ((∀ member ∈ fields, ∃ path, schema.get? member.label = some path) ∧
                schema.Refuses field) ∧ other = .malformedPattern :=
          fault_linkedField_iff
        rw [First.cons_iff_of_right sound, First.map_iff, First.iff_of_single member,
          compileLinked_eq_error_iff nonempty]
  | documents identifiers =>
      simp [compileCondition, Query.linkedParts, First.cons_iff, First.nil_iff,
        fault_documents_iff, eq_comm]
  | nothing =>
      have sound (other : SearchError) : ¬schema.Fault (.query (.base .nothing)) other := by
        intro fault
        cases fault
      simp [compileCondition, Query.linkedParts, First.cons_iff, First.nil_iff, sound]

theorem mapM_compileNested_eq_error_iff {queries : List Query}
    (each : ∀ query ∈ queries, ∀ error, schema.compileNested query = .error error ↔
      First schema.Fault query.parts error) :
    queries.mapM schema.compileNested = .error error ↔
      First schema.Fault (queries.flatMap Query.parts) error := by
  rw [Run.mapM_eq_error_iff, First.flatMap_iff]
  exact First.congr each

theorem mapM_compileNested_isOk_iff {queries : List Query}
    (each : ∀ query ∈ queries, ∀ error, schema.compileNested query = .error error ↔
      First schema.Fault query.parts error) :
    (∃ predicates, queries.mapM schema.compileNested = .ok predicates) ↔
      ∀ part ∈ queries.flatMap Query.parts, ∀ error, ¬schema.Fault part error := by
  rw [Run.isOk_iff_forall_ne_error, ← First.forall_not_iff]
  exact forall_congr' fun error => not_congr (mapM_compileNested_eq_error_iff each)

theorem compileNested_eq_error_iff {query : Query} :
    schema.compileNested query = .error error ↔ First schema.Fault query.parts error := by
  induction query generalizing error with
  | conjunction children induction =>
      have sound (other : SearchError) :
          ¬schema.Fault (.query (.conjunction children)) other := by
        intro fault
        cases fault
      rw [compileNested, compileList_eq_mapM, Run.map_eq_error_iff,
        mapM_compileNested_eq_error_iff fun child member _ => induction child member,
        Query.parts, Query.partsOfList_eq_flatMap, First.cons_iff_of_right sound]
  | disjunction children induction =>
      have sound (other : SearchError) :
          ¬schema.Fault (.query (.disjunction children)) other := by
        intro fault
        cases fault
      rw [compileNested, compileList_eq_mapM, Run.map_eq_error_iff,
        mapM_compileNested_eq_error_iff fun child member _ => induction child member,
        Query.parts, Query.partsOfList_eq_flatMap, First.cons_iff_of_right sound]
  | boolean must mustNot mustInduction mustNotInduction =>
      have sound (other : SearchError) :
          ¬schema.Fault (.query (.boolean must mustNot)) other := by
        intro fault
        cases fault
      have mustOk := mapM_compileNested_isOk_iff fun child member _ => mustInduction child member
      rw [compileNested, compileList_eq_mapM, compileList_eq_mapM, Run.bind_eq_error_iff,
        mapM_compileNested_eq_error_iff fun child member _ => mustInduction child member,
        Query.parts, Query.partsOfList_eq_flatMap, Query.partsOfList_eq_flatMap,
        First.cons_iff_of_right sound, First.append_iff, ← mustOk,
        ← mapM_compileNested_eq_error_iff fun child member _ => mustNotInduction child member]
      simp [Run.bind_eq_error_iff, pure, Except.pure]
  | base condition => exact compileCondition_eq_error_iff
  | empty =>
      simp [compileNested, Query.parts, First.cons_iff, First.nil_iff, fault_empty_iff, eq_comm]

/-- A query compiles exactly if it is the empty one or nothing is wrong with any of its parts.
Otherwise it fails for the reason of its first wrong part, whatever comes after that part. -/
theorem compile_fails_as_first_fault (schema : Schema) (query : Query) :
    ((∃ predicate, schema.compile query = .ok predicate) ↔
        query = .empty ∨ ∀ part ∈ query.parts, ∀ error, ¬schema.Fault part error) ∧
      ∀ error, schema.compile query = .error error ↔
        query ≠ .empty ∧ First schema.Fault query.parts error := by
  by_cases empty : query = .empty
  · subst empty
    simp [compile, Query.isEmpty]
  · have nonempty : query.isEmpty = false := by
      cases query with
      | empty => exact absurd rfl empty
      | _ => rfl
    simp only [compile_eq_compileNested nonempty, empty, false_or, ne_eq, not_false_eq_true,
      true_and]
    refine ⟨?_, fun error => compileNested_eq_error_iff⟩
    rw [Run.isOk_iff_forall_ne_error, ← First.forall_not_iff]
    exact forall_congr' fun error => not_congr compileNested_eq_error_iff

end Schema

namespace Samples

/-- Two conditions with the same malformed pattern, of which only the second one is on a label that
the schema knows, and an empty query after them. -/
def faultyQuery : Query :=
  .conjunction [.matchField "Nickname".toList "r/(".toList, .matchField "Name".toList "r/(".toList,
    .empty]

example : Person.schema.compile faultyQuery = .error .malformedPattern := by rfl

end Samples

end RecordSearch
