import RecordSearch.Predicate.Compile
import RecordSearch.Proofs.Evaluation
import RecordSearch.Proofs.Run

/-!
# The meaning of a query tree

A query is read through three relations: whether it compiles, at which nodes
it holds, and what it reports there.  For a query inside another the relations
of a group are given by those of its members, one equation for each form, so
that proofs about query trees need not look at the compiled predicates.
-/

namespace RecordSearch

namespace Query

/-- Induction on a query tree, with the hypothesis for every member of a list. -/
@[elab_as_elim, induction_eliminator]
theorem memberInduction {motive : Query → Prop}
    (conjunction : ∀ children, (∀ child ∈ children, motive child) →
      motive (.conjunction children))
    (disjunction : ∀ children, (∀ child ∈ children, motive child) →
      motive (.disjunction children))
    (boolean : ∀ must mustNot, (∀ child ∈ must, motive child) →
      (∀ child ∈ mustNot, motive child) → motive (.boolean must mustNot))
    (base : ∀ condition, motive (.base condition))
    (empty : motive .empty)
    (query : Query) : motive query := by
  have members : ∀ queries : List Query, ∀ child ∈ queries, motive child :=
    @Query.rec_1 motive (fun queries => ∀ child ∈ queries, motive child)
      conjunction disjunction boolean base empty (by simp)
      (fun _ _ head tail => List.forall_mem_cons.2 ⟨head, tail⟩)
  exact members [query] query List.mem_cons_self

theorem isEmpty_eq_false_iff {query : Query} : query.isEmpty = false ↔ query ≠ .empty := by
  cases query <;> simp [isEmpty]

end Query

variable [PropertyTable]

namespace Schema

def Compiles (schema : Schema) (query : Query) : Prop :=
  ∃ predicate, schema.compile query = .ok predicate

/-- The query, compiled for itself, holds at the node. -/
def Matches (schema : Schema) (node : Node) (query : Query) : Prop :=
  ∃ predicate, schema.compile query = .ok predicate ∧ predicate.HoldsAt node

/-- The query, compiled for itself, lists the text under the key at the node. -/
def Reports (schema : Schema) (node : Node) (query : Query) (key text : Text) : Prop :=
  ∃ predicate, schema.compile query = .ok predicate ∧ predicate.ReportsAt node key text

def CompilesInside (schema : Schema) (query : Query) : Prop :=
  ∃ predicate, schema.compileNested query = .ok predicate

/-- The query, compiled inside another, holds at the node. -/
def MatchesInside (schema : Schema) (node : Node) (query : Query) : Prop :=
  ∃ predicate, schema.compileNested query = .ok predicate ∧ predicate.HoldsAt node

/-- The query, compiled inside another, lists the text under the key at the node. -/
def ReportsInside (schema : Schema) (node : Node) (query : Query) (key text : Text) : Prop :=
  ∃ predicate, schema.compileNested query = .ok predicate ∧
    predicate.ReportsAt node key text

variable {schema : Schema} {node : Node} {query : Query} {key text : Text}

theorem compile_eq_compileNested (nonempty : query.isEmpty = false) :
    schema.compile query = schema.compileNested query := by
  simp [compile, nonempty]

theorem matches_iff_inside (nonempty : query.isEmpty = false) :
    schema.Matches node query ↔ schema.MatchesInside node query := by
  rw [Matches, MatchesInside, compile_eq_compileNested nonempty]

theorem reports_iff_inside (nonempty : query.isEmpty = false) :
    schema.Reports node query key text ↔ schema.ReportsInside node query key text := by
  rw [Reports, ReportsInside, compile_eq_compileNested nonempty]

theorem ReportsInside.matches (reports : schema.ReportsInside node query key text) :
    schema.MatchesInside node query := by
  obtain ⟨predicate, compiled, listed⟩ := reports
  exact ⟨predicate, compiled, listed.holdsAt⟩

section Lists

variable {queries : List Query} {predicates : List Predicate}

theorem compilesInside_of_matchesInside (holds : schema.MatchesInside node query) :
    schema.CompilesInside query := by
  obtain ⟨predicate, compiled, _⟩ := holds
  exact ⟨predicate, compiled⟩

theorem mapM_isOk_iff :
    (∃ predicates, queries.mapM schema.compileNested = .ok predicates) ↔
      ∀ child ∈ queries, schema.CompilesInside child :=
  Run.mapM_isOk_iff

theorem forall_holdsAt_iff (run : queries.mapM schema.compileNested = .ok predicates) :
    (∀ predicate ∈ predicates, predicate.HoldsAt node) ↔
      ∀ child ∈ queries, schema.MatchesInside node child := by
  constructor
  · intro holds child member
    obtain ⟨predicate, compiled⟩ := mapM_isOk_iff.1 ⟨predicates, run⟩ child member
    have compiledMember := (Run.mem_mapM_iff run).2 ⟨child, member, compiled⟩
    exact ⟨predicate, compiled, holds predicate compiledMember⟩
  · intro matching predicate member
    obtain ⟨child, childMember, compiled⟩ := (Run.mem_mapM_iff run).1 member
    obtain ⟨other, otherCompiled, holds⟩ := matching child childMember
    rw [compiled, Except.ok.injEq] at otherCompiled
    exact otherCompiled ▸ holds

theorem exists_compiled_iff {Property : Predicate → Prop}
    (run : queries.mapM schema.compileNested = .ok predicates) :
    (∃ predicate ∈ predicates, Property predicate) ↔
      ∃ child ∈ queries, ∃ predicate,
        schema.compileNested child = .ok predicate ∧ Property predicate := by
  constructor
  · intro found
    obtain ⟨predicate, member, property⟩ := found
    obtain ⟨child, childMember, compiled⟩ := (Run.mem_mapM_iff run).1 member
    exact ⟨child, childMember, predicate, compiled, property⟩
  · intro inside
    obtain ⟨child, member, predicate, compiled, property⟩ := inside
    exact ⟨predicate, (Run.mem_mapM_iff run).2 ⟨child, member, compiled⟩, property⟩

theorem exists_holdsAt_iff (run : queries.mapM schema.compileNested = .ok predicates) :
    (∃ predicate ∈ predicates, predicate.HoldsAt node) ↔
      ∃ child ∈ queries, schema.MatchesInside node child :=
  exists_compiled_iff run

theorem exists_reportsAt_iff (run : queries.mapM schema.compileNested = .ok predicates) :
    (∃ predicate ∈ predicates, predicate.ReportsAt node key text) ↔
      ∃ child ∈ queries, schema.ReportsInside node child key text :=
  exists_compiled_iff run

end Lists

section Forms

variable {children must mustNot : List Query} {predicate : Predicate}

/-- A condition on a field holds everywhere if its label is unknown, and else tests leaves. -/
theorem compileField_eq_ok_iff {field : FieldMatch} :
    schema.compileField field = .ok predicate ↔
      (schema.get? field.label = none ∧ predicate = .always) ∨
        ∃ path test, schema.get? field.label = some path ∧
          path.leafTest field.value = .ok test ∧ predicate = .wrap path.steps (.leaf test) := by
  unfold compileField
  cases schema.get? field.label with
  | none => simp [eq_comm]
  | some path =>
      simp only [Run.bind_eq_ok_iff, Run.pure_eq_ok_iff, reduceCtorEq, false_and, false_or,
        Option.some.injEq, eq_comm (b := predicate)]
      simp

theorem compileNested_conjunction_eq_ok_iff :
    schema.compileNested (.conjunction children) = .ok predicate ↔
      ∃ predicates, children.mapM schema.compileNested = .ok predicates ∧
        predicate = .all predicates := by
  rw [compileNested, compileList_eq_mapM]
  cases children.mapM schema.compileNested <;> simp [Except.map, eq_comm]

theorem compileNested_disjunction_eq_ok_iff :
    schema.compileNested (.disjunction children) = .ok predicate ↔
      ∃ predicates, children.mapM schema.compileNested = .ok predicates ∧
        predicate = .any predicates := by
  rw [compileNested, compileList_eq_mapM]
  cases children.mapM schema.compileNested <;> simp [Except.map, eq_comm]

theorem compileNested_boolean_eq_ok_iff :
    schema.compileNested (.boolean must mustNot) = .ok predicate ↔
      ∃ required excluded, must.mapM schema.compileNested = .ok required ∧
        mustNot.mapM schema.compileNested = .ok excluded ∧
        predicate = .without (.all required) (.any excluded) := by
  rw [compileNested, compileList_eq_mapM, compileList_eq_mapM]
  simp only [Run.bind_eq_ok_iff, Run.pure_eq_ok_iff]
  constructor
  · intro compiled
    obtain ⟨required, requiredRun, excluded, excludedRun, equal⟩ := compiled
    exact ⟨required, excluded, requiredRun, excludedRun, equal.symm⟩
  · intro parts
    obtain ⟨required, excluded, requiredRun, excludedRun, equal⟩ := parts
    exact ⟨required, requiredRun, excluded, excludedRun, equal.symm⟩

@[simp]
theorem compilesInside_conjunction_iff :
    schema.CompilesInside (.conjunction children) ↔
      ∀ child ∈ children, schema.CompilesInside child := by
  rw [← mapM_isOk_iff]
  simp only [CompilesInside, compileNested_conjunction_eq_ok_iff]
  constructor
  · intro compiles
    obtain ⟨_, predicates, run, _⟩ := compiles
    exact ⟨predicates, run⟩
  · intro parts
    obtain ⟨predicates, run⟩ := parts
    exact ⟨_, predicates, run, rfl⟩

@[simp]
theorem compilesInside_disjunction_iff :
    schema.CompilesInside (.disjunction children) ↔
      ∀ child ∈ children, schema.CompilesInside child := by
  rw [← mapM_isOk_iff]
  simp only [CompilesInside, compileNested_disjunction_eq_ok_iff]
  constructor
  · intro compiles
    obtain ⟨_, predicates, run, _⟩ := compiles
    exact ⟨predicates, run⟩
  · intro parts
    obtain ⟨predicates, run⟩ := parts
    exact ⟨_, predicates, run, rfl⟩

@[simp]
theorem compilesInside_boolean_iff :
    schema.CompilesInside (.boolean must mustNot) ↔
      (∀ child ∈ must, schema.CompilesInside child) ∧
        ∀ child ∈ mustNot, schema.CompilesInside child := by
  rw [← mapM_isOk_iff, ← mapM_isOk_iff]
  simp only [CompilesInside, compileNested_boolean_eq_ok_iff]
  constructor
  · intro compiles
    obtain ⟨_, required, excluded, requiredRun, excludedRun, _⟩ := compiles
    exact ⟨⟨required, requiredRun⟩, excluded, excludedRun⟩
  · intro parts
    obtain ⟨⟨required, requiredRun⟩, excluded, excludedRun⟩ := parts
    exact ⟨_, required, excluded, requiredRun, excludedRun, rfl⟩

@[simp]
theorem matchesInside_conjunction_iff :
    schema.MatchesInside node (.conjunction children) ↔
      ∀ child ∈ children, schema.MatchesInside node child := by
  simp only [MatchesInside, compileNested_conjunction_eq_ok_iff]
  constructor
  · intro matched
    obtain ⟨_, ⟨predicates, run, rfl⟩, holds⟩ := matched
    exact (forall_holdsAt_iff run).1 (Predicate.holdsAt_all_iff.1 holds)
  · intro matching
    obtain ⟨predicates, run⟩ := mapM_isOk_iff.2 fun child member =>
      compilesInside_of_matchesInside (matching child member)
    refine ⟨_, ⟨predicates, run, rfl⟩, ?_⟩
    exact Predicate.holdsAt_all_iff.2 ((forall_holdsAt_iff run).2 matching)

@[simp]
theorem matchesInside_disjunction_iff :
    schema.MatchesInside node (.disjunction children) ↔
      (∀ child ∈ children, schema.CompilesInside child) ∧
        ∃ child ∈ children, schema.MatchesInside node child := by
  simp only [MatchesInside, compileNested_disjunction_eq_ok_iff]
  constructor
  · intro matched
    obtain ⟨_, ⟨predicates, run, rfl⟩, holds⟩ := matched
    exact ⟨mapM_isOk_iff.1 ⟨predicates, run⟩,
      (exists_holdsAt_iff run).1 (Predicate.holdsAt_any_iff.1 holds)⟩
  · intro parts
    obtain ⟨compiles, matching⟩ := parts
    obtain ⟨predicates, run⟩ := mapM_isOk_iff.2 compiles
    refine ⟨_, ⟨predicates, run, rfl⟩, ?_⟩
    exact Predicate.holdsAt_any_iff.2 ((exists_holdsAt_iff run).2 matching)

/-- An exclusion that compiles holds where all of `must` and none of `mustNot` does. -/
@[simp]
theorem matchesInside_boolean_iff :
    schema.MatchesInside node (.boolean must mustNot) ↔
      (∀ child ∈ must, schema.MatchesInside node child) ∧
        (∀ child ∈ mustNot, schema.CompilesInside child) ∧
        ¬∃ child ∈ mustNot, schema.MatchesInside node child := by
  simp only [MatchesInside, compileNested_boolean_eq_ok_iff]
  constructor
  · intro matched
    obtain ⟨_, ⟨required, excluded, requiredRun, excludedRun, rfl⟩, holds⟩ := matched
    rw [Predicate.holdsAt_without_iff, Predicate.holdsAt_all_iff,
      Predicate.holdsAt_any_iff] at holds
    refine ⟨(forall_holdsAt_iff requiredRun).1 holds.1,
      mapM_isOk_iff.1 ⟨excluded, excludedRun⟩, ?_⟩
    exact fun matching => holds.2 ((exists_holdsAt_iff excludedRun).2 matching)
  · intro parts
    obtain ⟨matching, compiles, none⟩ := parts
    obtain ⟨required, requiredRun⟩ := mapM_isOk_iff.2 fun child member =>
      compilesInside_of_matchesInside (matching child member)
    obtain ⟨excluded, excludedRun⟩ := mapM_isOk_iff.2 compiles
    refine ⟨_, ⟨required, excluded, requiredRun, excludedRun, rfl⟩, ?_⟩
    rw [Predicate.holdsAt_without_iff, Predicate.holdsAt_all_iff,
      Predicate.holdsAt_any_iff]
    exact ⟨(forall_holdsAt_iff requiredRun).2 matching,
      fun holds => none ((exists_holdsAt_iff excludedRun).1 holds)⟩

theorem reportsInside_conjunction_iff :
    schema.ReportsInside node (.conjunction children) key text ↔
      schema.MatchesInside node (.conjunction children) ∧
        ∃ child ∈ children, schema.ReportsInside node child key text := by
  rw [matchesInside_conjunction_iff]
  simp only [ReportsInside, compileNested_conjunction_eq_ok_iff]
  constructor
  · intro reported
    obtain ⟨_, ⟨predicates, run, rfl⟩, reports⟩ := reported
    rw [Predicate.reportsAt_all_iff] at reports
    exact ⟨(forall_holdsAt_iff run).1 reports.1, (exists_reportsAt_iff run).1 reports.2⟩
  · intro parts
    obtain ⟨matching, reporting⟩ := parts
    obtain ⟨predicates, run⟩ := mapM_isOk_iff.2 fun child member =>
      compilesInside_of_matchesInside (matching child member)
    refine ⟨_, ⟨predicates, run, rfl⟩, Predicate.reportsAt_all_iff.2 ?_⟩
    exact ⟨(forall_holdsAt_iff run).2 matching, (exists_reportsAt_iff run).2 reporting⟩

theorem reportsInside_disjunction_iff :
    schema.ReportsInside node (.disjunction children) key text ↔
      schema.MatchesInside node (.disjunction children) ∧
        ∃ child ∈ children, schema.ReportsInside node child key text := by
  rw [matchesInside_disjunction_iff]
  simp only [ReportsInside, compileNested_disjunction_eq_ok_iff]
  constructor
  · intro reported
    obtain ⟨_, ⟨predicates, run, rfl⟩, reports⟩ := reported
    have reporting := (exists_reportsAt_iff run).1 (Predicate.reportsAt_any_iff.1 reports)
    obtain ⟨child, member, childReports⟩ := reporting
    exact ⟨⟨mapM_isOk_iff.1 ⟨predicates, run⟩, child, member,
      ReportsInside.matches childReports⟩, child, member, childReports⟩
  · intro parts
    obtain ⟨⟨compiles, _⟩, reporting⟩ := parts
    obtain ⟨predicates, run⟩ := mapM_isOk_iff.2 compiles
    refine ⟨_, ⟨predicates, run, rfl⟩, Predicate.reportsAt_any_iff.2 ?_⟩
    exact (exists_reportsAt_iff run).2 reporting

theorem reportsInside_boolean_iff :
    schema.ReportsInside node (.boolean must mustNot) key text ↔
      schema.MatchesInside node (.boolean must mustNot) ∧
        ∃ child ∈ must, schema.ReportsInside node child key text := by
  constructor
  · intro reports
    refine ⟨reports.matches, ?_⟩
    obtain ⟨_, compiled, reports⟩ := reports
    obtain ⟨required, excluded, requiredRun, _, rfl⟩ :=
      compileNested_boolean_eq_ok_iff.1 compiled
    rw [Predicate.reportsAt_without_iff, Predicate.reportsAt_all_iff] at reports
    exact (exists_reportsAt_iff requiredRun).1 reports.1.2
  · intro parts
    obtain ⟨⟨_, compiled, holds⟩, reporting⟩ := parts
    refine ⟨_, compiled, ?_⟩
    obtain ⟨required, excluded, requiredRun, _, rfl⟩ :=
      compileNested_boolean_eq_ok_iff.1 compiled
    rw [Predicate.holdsAt_without_iff, Predicate.holdsAt_all_iff] at holds
    rw [Predicate.reportsAt_without_iff, Predicate.reportsAt_all_iff]
    exact ⟨⟨holds.1, (exists_reportsAt_iff requiredRun).2 reporting⟩, holds.2⟩

@[simp]
theorem not_compilesInside_empty : ¬schema.CompilesInside .empty := by
  simp [CompilesInside, compileNested]

/-- Every query that compiles may stand inside another, except for the empty one. -/
theorem compilesInside_iff :
    schema.CompilesInside query ↔ schema.Compiles query ∧ query ≠ .empty := by
  by_cases empty : query = .empty
  · simp [empty]
  · rw [Compiles, compile_eq_compileNested (Query.isEmpty_eq_false_iff.2 empty), CompilesInside]
    simp [empty]

end Forms

end Schema

end RecordSearch
