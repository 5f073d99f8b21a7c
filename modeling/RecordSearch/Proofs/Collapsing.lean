import RecordSearch.Proofs.FirstFault

/-!
# Collapsed groups

A collapsed group means the same as the group, with one exception.  A group without members is the
empty query, which compiles as a whole query and nowhere else; so a group that stands inside
another query needs members.  Collapsing keeps all conditions on fields in their order.
-/

namespace RecordSearch

namespace Query

def Part.field? : Part → Option FieldMatch
  | .query (.base (.field single)) => some single
  | .query _ => none
  | .linkedField _ member => some member

/-- The conditions on fields in a query, those of linked groups included, from left to right. -/
def fields (query : Query) : List FieldMatch :=
  query.parts.filterMap Part.field?

section Fields

variable {children must mustNot : List Query}

@[simp]
theorem fields_conjunction : (conjunction children).fields = children.flatMap fields := by
  rw [fields, parts, partsOfList_eq_flatMap, List.filterMap_cons_none rfl, List.filterMap_flatMap]
  rfl

@[simp]
theorem fields_disjunction : (disjunction children).fields = children.flatMap fields := by
  rw [fields, parts, partsOfList_eq_flatMap, List.filterMap_cons_none rfl, List.filterMap_flatMap]
  rfl

@[simp]
theorem fields_boolean :
    (boolean must mustNot).fields = must.flatMap fields ++ mustNot.flatMap fields := by
  rw [fields, parts, partsOfList_eq_flatMap, partsOfList_eq_flatMap,
    List.filterMap_cons_none rfl, List.filterMap_append, List.filterMap_flatMap,
    List.filterMap_flatMap]
  rfl

@[simp]
theorem fields_field (field : FieldMatch) : (base (.field field)).fields = [field] :=
  rfl

@[simp]
theorem fields_linked (group : List FieldMatch) : (base (.linked group)).fields = group := by
  rw [fields, parts, List.filterMap_cons_none rfl, linkedParts, List.filterMap_map]
  exact List.filterMap_some

@[simp]
theorem fields_empty : fields empty = [] :=
  rfl

end Fields

section Collapse

/-- A group collapses in one of three ways, by the number of its members. -/
@[elab_as_elim]
theorem collapse_cases (wrap : List Query → Query) {motive : List Query → Query → Prop}
    (none : motive [] .empty)
    (single : ∀ query, motive [query] query)
    (several : ∀ queries, 2 ≤ queries.length → motive queries (wrap queries))
    (queries : List Query) : motive queries (collapse wrap queries) := by
  cases queries with
  | nil => exact none
  | cons query queries =>
      cases queries with
      | nil => exact single query
      | cons other queries => exact several _ (by simp)

theorem fields_collapse {wrap : List Query → Query}
    (wrapped : ∀ queries, (wrap queries).fields = queries.flatMap fields) (queries : List Query) :
    (collapse wrap queries).fields = queries.flatMap fields := by
  induction queries using collapse_cases wrap with
  | none => rfl
  | single query => rw [List.flatMap_singleton]
  | several queries => exact wrapped queries

@[simp]
theorem fields_allOf (queries : List Query) : (allOf queries).fields = queries.flatMap fields :=
  fields_collapse (fun _ => fields_conjunction) queries

@[simp]
theorem fields_anyOf (queries : List Query) : (anyOf queries).fields = queries.flatMap fields :=
  fields_collapse (fun _ => fields_disjunction) queries

end Collapse

end Query

namespace Schema

variable {schema : Schema} {node : Node} {query : Query} {queries : List Query}
  {error : SearchError}

theorem compiles_iff_empty_or_inside [PropertyTable] :
    schema.Compiles query ↔ query = .empty ∨ schema.CompilesInside query := by
  by_cases empty : query = .empty
  · subst empty
    exact iff_of_true ⟨_, rfl⟩ (.inl rfl)
  · rw [compilesInside_iff]
    simp [empty]

theorem matches_iff_empty_or_inside [PropertyTable] :
    schema.Matches node query ↔ query = .empty ∨ schema.MatchesInside node query := by
  by_cases empty : query = .empty
  · subst empty
    have holds : Predicate.always.HoldsAt node := by simp [Predicate.always]
    exact iff_of_true ⟨_, rfl, holds⟩ (.inl rfl)
  · rw [matches_iff_inside (Query.isEmpty_eq_false_iff.2 empty)]
    simp [empty]

theorem not_matchesInside_empty [PropertyTable] :
    ¬schema.MatchesInside node .empty := fun matched =>
  not_compilesInside_empty (compilesInside_of_matchesInside matched)

theorem ne_nil_of_two_le_length (several : 2 ≤ queries.length) : queries ≠ [] := by
  intro none
  rw [none] at several
  cases several

theorem ne_singleton_of_two_le_length (several : 2 ≤ queries.length) : queries ≠ [query] := by
  intro single
  rw [single, List.length_singleton] at several
  omega

variable [PropertyTable]

theorem compilesInside_anyOf_iff :
    schema.CompilesInside (.anyOf queries) ↔
      queries ≠ [] ∧ ∀ query ∈ queries, schema.CompilesInside query := by
  unfold Query.anyOf
  induction queries using Query.collapse_cases .disjunction with
  | none => simp
  | single query => simp
  | several queries several =>
      have nonempty := ne_nil_of_two_le_length several
      rw [compilesInside_disjunction_iff, and_iff_right nonempty]

theorem matchesInside_anyOf_iff :
    schema.MatchesInside node (.anyOf queries) ↔
      (∀ query ∈ queries, schema.CompilesInside query) ∧
        ∃ query ∈ queries, schema.MatchesInside node query := by
  unfold Query.anyOf
  induction queries using Query.collapse_cases .disjunction with
  | none => simp [not_matchesInside_empty]
  | single query =>
      have compiles : schema.MatchesInside node query → schema.CompilesInside query :=
        compilesInside_of_matchesInside
      simpa using compiles
  | several queries several => exact matchesInside_disjunction_iff

theorem compiles_allOf_iff :
    schema.Compiles (.allOf queries) ↔
      queries = [.empty] ∨ ∀ query ∈ queries, schema.CompilesInside query := by
  unfold Query.allOf
  rw [compiles_iff_empty_or_inside]
  induction queries using Query.collapse_cases .conjunction with
  | none => simp
  | single query => simp
  | several queries several =>
      have notEmpty : queries ≠ [.empty] := ne_singleton_of_two_le_length several
      rw [compilesInside_conjunction_iff, or_iff_right notEmpty, or_iff_right nofun]

theorem matches_allOf_iff :
    schema.Matches node (.allOf queries) ↔
      queries = [.empty] ∨ ∀ query ∈ queries, schema.MatchesInside node query := by
  unfold Query.allOf
  rw [matches_iff_empty_or_inside]
  induction queries using Query.collapse_cases .conjunction with
  | none => simp
  | single query => simp
  | several queries several =>
      have notEmpty : queries ≠ [.empty] := ne_singleton_of_two_le_length several
      rw [matchesInside_conjunction_iff, or_iff_right notEmpty, or_iff_right nofun]

/-- A query that compiles for itself can fail inside another one only by being empty. -/
theorem error_of_compiles (compiles : schema.Compiles query)
    (failed : schema.compileNested query = .error error) : error = .nestedEmpty := by
  by_cases empty : query = .empty
  · subst empty
    cases failed
    rfl
  · obtain ⟨predicate, compiled⟩ := compilesInside_iff.2 ⟨compiles, empty⟩
    rw [compiled] at failed
    cases failed

theorem exists_error_of_conjunction
    (failed : schema.compileNested (.conjunction queries) = .error error) :
    ∃ query ∈ queries, schema.compileNested query = .error error := by
  rw [compileNested, compileList_eq_mapM, Run.map_eq_error_iff, Run.mapM_eq_error_iff] at failed
  exact failed.exists_mem

theorem exists_error_of_disjunction
    (failed : schema.compileNested (.disjunction queries) = .error error) :
    ∃ query ∈ queries, schema.compileNested query = .error error := by
  rw [compileNested, compileList_eq_mapM, Run.map_eq_error_iff, Run.mapM_eq_error_iff] at failed
  exact failed.exists_mem

theorem exists_error_of_boolean {must mustNot : List Query}
    (failed : schema.compileNested (.boolean must mustNot) = .error error) :
    ∃ query ∈ must ++ mustNot, schema.compileNested query = .error error := by
  rw [compileNested, compileList_eq_mapM, compileList_eq_mapM, Run.bind_eq_error_iff] at failed
  rcases failed with mustFailed | ⟨_, _, rest⟩
  · obtain ⟨query, member, queryFailed⟩ := (Run.mapM_eq_error_iff.1 mustFailed).exists_mem
    exact ⟨query, List.mem_append_left mustNot member, queryFailed⟩
  · rcases Run.bind_eq_error_iff.1 rest with mustNotFailed | ⟨_, _, impossible⟩
    · obtain ⟨query, member, queryFailed⟩ := (Run.mapM_eq_error_iff.1 mustNotFailed).exists_mem
      exact ⟨query, List.mem_append_right must member, queryFailed⟩
    · cases impossible

theorem allOf_error_of_compile (compile : ∀ query ∈ queries, schema.Compiles query)
    (failed : schema.compile (.allOf queries) = .error error) : error = .nestedEmpty := by
  unfold Query.allOf at failed
  induction queries using Query.collapse_cases .conjunction with
  | none => cases failed
  | single query =>
      obtain ⟨predicate, compiled⟩ := compile query (List.mem_singleton_self query)
      rw [compiled] at failed
      cases failed
  | several queries several =>
      rw [compile_eq_compileNested rfl] at failed
      obtain ⟨query, member, queryFailed⟩ := exists_error_of_conjunction failed
      exact error_of_compiles (compile query member) queryFailed

theorem boolean_error_of_compile {must mustNot : List Query}
    (compile : ∀ query ∈ must ++ mustNot, schema.Compiles query)
    (failed : schema.compile (.boolean must mustNot) = .error error) : error = .nestedEmpty := by
  rw [compile_eq_compileNested rfl] at failed
  obtain ⟨query, member, queryFailed⟩ := exists_error_of_boolean failed
  exact error_of_compiles (compile query member) queryFailed

end Schema

end RecordSearch
