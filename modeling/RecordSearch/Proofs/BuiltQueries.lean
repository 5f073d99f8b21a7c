import RecordSearch.Proofs.CollectedGroups
import RecordSearch.Proofs.Highlighting

/-!
# The meaning of built queries

A query that is built step by step asks for what its steps ask for, each of them taken for itself.
It compiles if the parts of all steps do and every step that names values names some.  A step
without values adds an empty query, and this compiles only if it is all that there is.
-/

namespace RecordSearch

namespace QueryBuilder

namespace Step

/-- The literals of the step are valid, a linked group of it has conditions, and a query that it
adds compiles. -/
def Sound [PropertyTable] (schema : Schema) : Step → Prop
  | .highlighted => True
  | .addStrings label values => ∀ value ∈ values, ¬schema.Refuses { label, value }
  | .addLinked group => group ≠ [] ∧ ∀ field ∈ group, ¬schema.Refuses field
  | .addQuery query => schema.Compiles query
  | .exclude label values => ∀ value ∈ values, ¬schema.Refuses { label, value }

/-- Every condition, linked group and query of the step compiles for itself. -/
def PartsCompile [PropertyTable] (schema : Schema) : Step → Prop
  | .highlighted => True
  | .addStrings label values => ∀ value ∈ values, schema.Compiles (.matchField label value)
  | .addLinked group => schema.Compiles (.matchLinked group)
  | .addQuery query => schema.Compiles query
  | .exclude label values => ∀ value ∈ values, schema.Compiles (.matchField label value)

def Meets [PropertyTable] (schema : Schema) (node : Node) : Step → Prop
  | .highlighted => True
  | .addStrings label values => ∃ value ∈ values, schema.Matches node (.matchField label value)
  | .addLinked group => schema.Matches node (.matchLinked group)
  | .addQuery query => schema.Matches node query
  | .exclude label values => ¬∃ value ∈ values, schema.Matches node (.matchField label value)

variable {schema : Schema} {node : Node} {step : Step} {highlight : Bool} {label : Text}
  {values : List Text}

theorem compiles_matchField_iff [PropertyTable] {label value : Text} :
    schema.Compiles (.matchField label value) ↔ ¬schema.Refuses { label, value } := by
  have failure (error : SearchError) :
      schema.compile (.matchField label value) = .error error ↔
        schema.Refuses { label, value } ∧ error = .malformedPattern :=
    Schema.compileField_eq_error_iff
  rw [Schema.Compiles, Run.isOk_iff_forall_ne_error]
  simp [failure]

theorem compiles_matchLinked [PropertyTable] {group : List FieldMatch} (nonempty : group ≠ [])
    (valid : ∀ field ∈ group, ¬schema.Refuses field) : schema.Compiles (.matchLinked group) := by
  rw [Schema.Compiles, Run.isOk_iff_forall_ne_error]
  intro error failed
  obtain ⟨⟨field, member, _, refused⟩, _⟩ := (Schema.compileLinked_eq_error_iff nonempty).1 failed
  exact valid field member refused

theorem Sound.partsCompile [PropertyTable] (sound : step.Sound schema) :
    step.PartsCompile schema := by
  cases step with
  | highlighted => trivial
  | addStrings label values =>
      exact fun value member => compiles_matchField_iff.2 (sound value member)
  | addLinked group => exact compiles_matchLinked sound.1 sound.2
  | addQuery query => exact sound
  | exclude label values =>
      exact fun value member => compiles_matchField_iff.2 (sound value member)

section Marks

theorem resolveAll?_map_mark (group : List FieldMatch) :
    schema.resolveAll? (group.map (mark highlight)) =
      (schema.resolveAll? group).map (List.map (Prod.map (mark highlight) id)) := by
  unfold Schema.resolveAll?
  induction group with
  | nil => rfl
  | cons field group induction =>
      rw [List.map_cons, List.mapM_cons, List.mapM_cons, induction]
      have label : (mark highlight field).label = field.label := rfl
      rw [label]
      cases schema.get? field.label with
      | none => rfl
      | some path =>
          cases group.mapM fun field => (schema.get? field.label).map fun path => (field, path) with
          | none => rfl
          | some resolved => rfl

variable [PropertyTable]

theorem mapM_branch_map_mark (shared : List RecordSearch.Step)
    (resolved : List (FieldMatch × FieldPath)) :
    (resolved.map (Prod.map (mark highlight) id)).mapM (Schema.branch shared) =
      resolved.mapM (Schema.branch shared) := by
  induction resolved with
  | nil => rfl
  | cons pair resolved induction =>
      have same : Schema.branch shared (Prod.map (mark highlight) id pair) =
          Schema.branch shared pair := rfl
      rw [List.map_cons, List.mapM_cons, List.mapM_cons, induction, same]

theorem compileNested_mark (group : List FieldMatch) :
    schema.compileNested (.matchLinked (group.map (mark highlight))) =
      schema.compileNested (.matchLinked group) := by
  have paths (resolved : List (FieldMatch × FieldPath)) :
      (resolved.map (Prod.map (mark highlight) id)).map (·.2) = resolved.map (·.2) := by
    simp
  show schema.compileLinked _ = schema.compileLinked _
  unfold Schema.compileLinked
  rw [resolveAll?_map_mark]
  by_cases none : group = []
  · rw [none]
    rfl
  · rw [if_neg none, if_neg (by simpa using none)]
    cases schema.resolveAll? group with
    | none => rfl
    | some resolved =>
        rw [Option.map_some]
        show Schema.compileResolved _ = Schema.compileResolved _
        rw [Schema.compileResolved_eq_bind, Schema.compileResolved_eq_bind, paths,
          mapM_branch_map_mark]

theorem compilesInside_linked_iff {group : List FieldMatch} :
    schema.CompilesInside (.matchLinked (group.map (mark highlight))) ↔
      schema.Compiles (.matchLinked group) := by
  rw [Schema.CompilesInside, compileNested_mark]
  exact Iff.rfl

theorem matchesInside_linked_iff {group : List FieldMatch} :
    schema.MatchesInside node (.matchLinked (group.map (mark highlight))) ↔
      schema.Matches node (.matchLinked group) := by
  rw [Schema.MatchesInside, compileNested_mark]
  exact Iff.rfl

end Marks

variable [PropertyTable]

section AnyValue

/-- A condition means the same with a mark and without. -/
theorem compilesInside_alternatives_iff :
    (∀ query ∈ (alternatives highlight label values).map fun field => .base (.field field),
        schema.CompilesInside query) ↔
      ∀ value ∈ values, schema.Compiles (.matchField label value) := by
  have marked (value : Text) :
      schema.CompilesInside (.base (.field { label, value, highlight })) ↔
        schema.Compiles (.matchField label value) :=
    Iff.rfl
  simp [alternatives, marked]

theorem compiles_anyValue
    (compile : ∀ value ∈ values, schema.Compiles (.matchField label value)) :
    schema.Compiles (anyValue highlight label values) := by
  rw [Schema.compiles_iff_empty_or_inside, anyValue_eq_empty_iff]
  by_cases none : values = []
  · exact .inl none
  · right
    rw [anyValue, Schema.compilesInside_anyOf_iff, compilesInside_alternatives_iff]
    exact ⟨by simpa [alternatives] using none, compile⟩

theorem matchesInside_anyValue_iff
    (compile : ∀ value ∈ values, schema.Compiles (.matchField label value)) :
    schema.MatchesInside node (anyValue highlight label values) ↔
      ∃ value ∈ values, schema.Matches node (.matchField label value) := by
  have marked (value : Text) :
      schema.MatchesInside node (.base (.field { label, value, highlight })) ↔
        schema.Matches node (.matchField label value) :=
    Iff.rfl
  rw [anyValue, Schema.matchesInside_anyOf_iff, compilesInside_alternatives_iff,
    and_iff_right compile]
  simp [alternatives, marked]

end AnyValue

theorem compiles_of_mem_groups (parts : step.PartsCompile schema) :
    ∀ group ∈ step.groups highlight, schema.Compiles group := by
  cases step with
  | highlighted => simp [groups]
  | addStrings label values => exact List.forall_mem_singleton.2 (compiles_anyValue parts)
  | addLinked group =>
      rw [groups, List.forall_mem_singleton]
      exact (Schema.compilesInside_iff.1 (compilesInside_linked_iff.2 parts)).1
  | addQuery query =>
      intro group member
      rw [groups] at member
      split at member
      · cases member
      · rw [List.mem_singleton.1 member]
        exact parts
  | exclude label values => exact List.forall_mem_singleton.2 (compiles_anyValue parts)

/-- A step whose parts compile adds a group that compiles inside a query, unless it lacks
values. -/
theorem compilesInside_groups_iff (parts : step.PartsCompile schema) :
    (∀ group ∈ step.groups highlight, schema.CompilesInside group) ↔
      step.lacksValues = false := by
  have compiles : ∀ group ∈ step.groups highlight, schema.Compiles group :=
    compiles_of_mem_groups parts
  constructor
  · intro inside
    have noEmpty : .empty ∉ step.groups highlight := fun member =>
      Schema.not_compilesInside_empty (inside _ member)
    rwa [empty_mem_groups_iff, Bool.not_eq_true] at noEmpty
  · intro hasValues group member
    refine Schema.compilesInside_iff.2 ⟨compiles group member, ?_⟩
    rintro rfl
    rw [empty_mem_groups_iff, hasValues] at member
    cases member

theorem meets_iff (parts : step.PartsCompile schema) :
    step.Meets schema node ↔
      (∀ group ∈ step.groupsOf false highlight, schema.MatchesInside node group) ∧
        ∀ group ∈ step.groupsOf true highlight, ¬schema.MatchesInside node group := by
  cases step with
  | highlighted => simp [groupsOf, groups, Meets]
  | addStrings label values =>
      have group : schema.MatchesInside node (anyValue highlight label values) ↔
          ∃ value ∈ values, schema.Matches node (.matchField label value) :=
        matchesInside_anyValue_iff parts
      simp [groupsOf, isExclusion, groups, Meets, group]
  | addLinked group => simp [groupsOf, isExclusion, groups, Meets, matchesInside_linked_iff]
  | addQuery query =>
      simp only [groupsOf, isExclusion, groups, Meets, Schema.matches_iff_empty_or_inside]
      cases query <;> simp [Query.isEmpty]
  | exclude label values =>
      have group : schema.MatchesInside node (anyValue highlight label values) ↔
          ∃ value ∈ values, schema.Matches node (.matchField label value) :=
        matchesInside_anyValue_iff parts
      simp [groupsOf, isExclusion, groups, Meets, group]

end Step

variable {schema : Schema} {node : Node} {steps : List Step}

/-- All groups of some steps have a property if those of each step have it. -/
theorem forall_groups_iff {Property : Query → Prop} :
    ((∀ group ∈ groupsOf false steps, Property group) ∧
        ∀ group ∈ groupsOf true steps, Property group) ↔
      ∀ turn ∈ history steps, ∀ group ∈ turn.2.groups (turn.1.any Step.turnsOn),
        Property group := by
  rw [forall_groupsOf_iff, forall_groupsOf_iff, ← forall₂_and]
  refine forall₂_congr fun turn _ => ?_
  cases side : turn.2.isExclusion <;> simp [Step.groupsOf, side]

variable [PropertyTable]

theorem compiles_of_mem_groupsOf (parts : ∀ step ∈ steps, step.PartsCompile schema) :
    (∀ group ∈ groupsOf false steps, schema.Compiles group) ∧
      ∀ group ∈ groupsOf true steps, schema.Compiles group := by
  rw [forall_groups_iff]
  intro turn member
  exact Step.compiles_of_mem_groups (forall_history_iff.2 parts turn member)

theorem compilesInside_groupsOf_iff (parts : ∀ step ∈ steps, step.PartsCompile schema) :
    ((∀ group ∈ groupsOf false steps, schema.CompilesInside group) ∧
        ∀ group ∈ groupsOf true steps, schema.CompilesInside group) ↔
      ∀ step ∈ steps, step.lacksValues = false := by
  rw [forall_groups_iff, ← forall_history_iff]
  refine forall₂_congr fun turn member => ?_
  exact Step.compilesInside_groups_iff (forall_history_iff.2 parts turn member)

theorem compiles_built_iff :
    schema.Compiles (built steps) ↔
      (groupsOf true steps = [] ∧ groupsOf false steps = [.empty]) ∨
        (∀ group ∈ groupsOf false steps, schema.CompilesInside group) ∧
          ∀ group ∈ groupsOf true steps, schema.CompilesInside group := by
  rw [built_eq]
  split
  · next none => simp [Schema.compiles_allOf_iff, none]
  · next some =>
      rw [Schema.compiles_iff_empty_or_inside, Schema.compilesInside_boolean_iff]
      simp [some]

theorem matches_built_iff
    (required : ∀ group ∈ groupsOf false steps, schema.CompilesInside group)
    (excluded : ∀ group ∈ groupsOf true steps, schema.CompilesInside group) :
    schema.Matches node (built steps) ↔
      (∀ group ∈ groupsOf false steps, schema.MatchesInside node group) ∧
        ∀ group ∈ groupsOf true steps, ¬schema.MatchesInside node group := by
  rw [built_eq]
  split
  · next none =>
      have nonempty : groupsOf false steps ≠ [.empty] := by
        intro single
        rw [single] at required
        exact Schema.not_compilesInside_empty (required _ (List.mem_singleton_self _))
      rw [Schema.matches_allOf_iff, or_iff_right nonempty, none]
      simp
  · rw [Schema.matches_iff_empty_or_inside, or_iff_right nofun, Schema.matchesInside_boolean_iff,
      and_iff_right excluded]
    simp

/-- If the literals of all steps are valid, its linked groups have conditions and its queries
compile, then the built query compiles unless some step lacks values.  It still does so if that
step is the only one that adds a group, and no exclusion.  The reason of a failure is always an
empty query inside another. -/
theorem compiles_built_iff_values (sound : ∀ step ∈ steps, step.Sound schema) :
    (schema.Compiles (built steps) ↔
        (∀ step ∈ steps, step.lacksValues = false) ∨
          ∃ label, steps.filter Step.addsGroup = [.addStrings label []]) ∧
      ∀ error, schema.compile (built steps) = .error error → error = .nestedEmpty := by
  have parts : ∀ step ∈ steps, step.PartsCompile schema := fun step member =>
    (sound step member).partsCompile
  constructor
  · rw [compiles_built_iff, groupsOf_eq_empty_iff, compilesInside_groupsOf_iff parts, or_comm]
  · intro error failed
    obtain ⟨required, excluded⟩ := compiles_of_mem_groupsOf parts
    rw [built_eq] at failed
    split at failed
    · exact Schema.allOf_error_of_compile required failed
    · have compile := List.forall_mem_append.2 ⟨required, excluded⟩
      exact Schema.boolean_error_of_compile compile failed

/-- If the parts of all steps compile and no step lacks values, the built query compiles and holds
where every step is met.  Its conditions on fields are those of the steps, the exclusions last; the
ones that a step makes or adds in a linked group are marked if they already were, or if a step
before it turned highlighting on. -/
theorem built_matches_iff_meets (schema : Schema) (node : Node) (steps : List Step)
    (parts : ∀ step ∈ steps, step.PartsCompile schema)
    (values : ∀ step ∈ steps, step.lacksValues = false) :
    schema.Compiles (built steps) ∧
      (schema.Matches node (built steps) ↔ ∀ step ∈ steps, step.Meets schema node) ∧
      (built steps).fields =
        ((history steps).filter (fun turn => !turn.2.isExclusion) ++
          (history steps).filter fun turn => turn.2.isExclusion).flatMap fun turn =>
            turn.2.fields (turn.1.any Step.turnsOn) := by
  have inside := (compilesInside_groupsOf_iff parts).2 values
  refine ⟨compiles_built_iff.2 (.inr inside), ?_, ?_⟩
  · rw [matches_built_iff inside.1 inside.2, forall_groupsOf_iff, forall_groupsOf_iff,
      ← forall₂_and, ← forall_history_iff]
    refine forall₂_congr fun turn member => ?_
    exact (Step.meets_iff (forall_history_iff.2 parts turn member)).symm
  · simpa using fields_built steps

end QueryBuilder

namespace Samples

/-- Steps towards the guests called Bob or Ann who are not of the staff. -/
def guestSteps : List QueryBuilder.Step := [
  .addStrings "Name".toList ["bob".toList, "ann".toList],
  .addQuery .empty,
  .highlighted,
  .addLinked [{ label := "Tag".toList, value := "guest".toList }],
  .exclude "Tag".toList ["staff".toList]]

theorem not_refuses_of_compiles {label value : Text}
    (compiles : Person.schema.Compiles (.matchField label value)) :
    ¬Person.schema.Refuses { label, value } :=
  QueryBuilder.Step.compiles_matchField_iff.1 compiles

theorem guestSteps_sound : ∀ step ∈ guestSteps, step.Sound Person.schema := by
  simp only [guestSteps, List.forall_mem_cons, QueryBuilder.Step.Sound]
  refine ⟨⟨?bob, ?ann, nofun⟩, ⟨_, rfl⟩, trivial, ⟨nofun, ?guest, nofun⟩, ⟨?staff, nofun⟩, nofun⟩
  case bob => exact not_refuses_of_compiles ⟨_, rfl⟩
  case ann => exact not_refuses_of_compiles ⟨_, rfl⟩
  case guest => exact not_refuses_of_compiles ⟨_, rfl⟩
  case staff => exact not_refuses_of_compiles ⟨_, rfl⟩

theorem compiles_built_iff_values_guests :
    (∀ step ∈ guestSteps, step.Sound Person.schema) ∧
      Person.schema.Compiles (QueryBuilder.built guestSteps) := by
  have compiles := (QueryBuilder.compiles_built_iff_values guestSteps_sound).1
  exact ⟨guestSteps_sound, compiles.2 (.inl (by decide))⟩

/-- Steps towards everyone called Ann, excluding those with one of no tags. -/
def blankExclusion : List QueryBuilder.Step := [
  .addStrings "Name".toList ["ann".toList], .exclude "Tag".toList []]

/-- Steps towards everyone called Ann with one of no tags. -/
def blankRequirement : List QueryBuilder.Step := [
  .addStrings "Tag".toList [], .addStrings "Name".toList ["ann".toList]]

/-- A step without values spoils the query, whether it requires or excludes. -/
theorem blank_steps_not_compiled :
    ((∀ step ∈ blankExclusion, step.Sound Person.schema) ∧
      ¬Person.schema.Compiles (QueryBuilder.built blankExclusion)) ∧
    (∀ step ∈ blankRequirement, step.Sound Person.schema) ∧
      ¬Person.schema.Compiles (QueryBuilder.built blankRequirement) := by
  have ann : ¬Person.schema.Refuses { label := "Name".toList, value := "ann".toList } :=
    not_refuses_of_compiles ⟨_, rfl⟩
  have failed {query : Query} (failure : Person.schema.compile query = .error .nestedEmpty) :
      ¬Person.schema.Compiles query := by
    intro compiles
    obtain ⟨predicate, compiled⟩ := compiles
    rw [failure] at compiled
    cases compiled
  refine ⟨⟨?_, failed rfl⟩, ?_, failed rfl⟩
  · simp only [blankExclusion, List.forall_mem_cons, QueryBuilder.Step.Sound]
    exact ⟨⟨ann, nofun⟩, nofun, nofun⟩
  · simp only [blankRequirement, List.forall_mem_cons, QueryBuilder.Step.Sound]
    exact ⟨nofun, ⟨ann, nofun⟩, nofun⟩

theorem built_matches_iff_meets_guest :
    (∀ step ∈ guestSteps, step.PartsCompile Person.schema) ∧
      (∀ step ∈ guestSteps, step.lacksValues = false) ∧
      Person.schema.Matches guest (QueryBuilder.built guestSteps) := by
  have parts : ∀ step ∈ guestSteps, step.PartsCompile Person.schema := fun step member =>
    (guestSteps_sound step member).partsCompile
  have values : ∀ step ∈ guestSteps, step.lacksValues = false := by decide
  have meaning :=
    (QueryBuilder.built_matches_iff_meets Person.schema guest guestSteps parts values).2.1
  have notStaff : ¬∃ value ∈ ["staff".toList],
      Person.schema.Matches guest (.matchField "Tag".toList value) := by
    intro found
    obtain ⟨value, member, predicate, compiled, holds⟩ := found
    obtain rfl := List.mem_singleton.1 member
    cases compiled
    cases holds
  have meets : ∀ step ∈ guestSteps, step.Meets Person.schema guest := by
    simp only [guestSteps, List.forall_mem_cons]
    exact ⟨⟨_, List.mem_cons_self, _, rfl, rfl⟩, ⟨_, rfl, rfl⟩, trivial, ⟨_, rfl, rfl⟩, notStaff,
      nofun⟩
  exact ⟨parts, values, meaning.2 meets⟩

end Samples

end RecordSearch
