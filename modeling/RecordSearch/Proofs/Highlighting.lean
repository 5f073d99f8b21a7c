import RecordSearch.Proofs.QueryMeaning
import RecordSearch.Samples.People
import RecordSearch.Samples.Properties

/-!
# What is highlighted

A result lists exactly what the conditions of the query report for themselves,
as far as they count: a condition counts if no exclusion is above it and
everything from the whole query down to it matches the record.  A match behind
an exclusion, or in a member of a group that does not hold, is never listed.
-/

namespace RecordSearch

namespace Condition

def TestsFields : Condition → Prop
  | .field _ => True
  | .linked _ => True
  | .documents _ => False
  | .nothing => False

end Condition

namespace Query

/-- The condition occurs in the query under no exclusion, at the end of a trail of subqueries
that begins with the query itself. -/
inductive Occurs (condition : Condition) : Query → List Query → Prop where
  | here : Occurs condition (.base condition) [.base condition]
  | conjunction {children trail : List Query} {child : Query} :
      child ∈ children →
      Occurs condition child trail →
      Occurs condition (.conjunction children) (.conjunction children :: trail)
  | disjunction {children trail : List Query} {child : Query} :
      child ∈ children →
      Occurs condition child trail →
      Occurs condition (.disjunction children) (.disjunction children :: trail)
  | must {must mustNot trail : List Query} {child : Query} :
      child ∈ must →
      Occurs condition child trail →
      Occurs condition (.boolean must mustNot) (.boolean must mustNot :: trail)

variable {condition : Condition} {children must mustNot trail : List Query} {query : Query}

theorem occurs_conjunction_iff :
    Occurs condition (.conjunction children) trail ↔
      ∃ child ∈ children, ∃ rest,
        trail = .conjunction children :: rest ∧ Occurs condition child rest := by
  constructor
  · intro occurs
    cases occurs with
    | conjunction member inner => exact ⟨_, member, _, rfl, inner⟩
  · intro inside
    obtain ⟨child, member, rest, rfl, inner⟩ := inside
    exact .conjunction member inner

theorem occurs_disjunction_iff :
    Occurs condition (.disjunction children) trail ↔
      ∃ child ∈ children, ∃ rest,
        trail = .disjunction children :: rest ∧ Occurs condition child rest := by
  constructor
  · intro occurs
    cases occurs with
    | disjunction member inner => exact ⟨_, member, _, rfl, inner⟩
  · intro inside
    obtain ⟨child, member, rest, rfl, inner⟩ := inside
    exact .disjunction member inner

theorem occurs_boolean_iff :
    Occurs condition (.boolean must mustNot) trail ↔
      ∃ child ∈ must, ∃ rest,
        trail = .boolean must mustNot :: rest ∧ Occurs condition child rest := by
  constructor
  · intro occurs
    cases occurs with
    | must member inner => exact ⟨_, member, _, rfl, inner⟩
  · intro inside
    obtain ⟨child, member, rest, rfl, inner⟩ := inside
    exact .must member inner

theorem Occurs.isEmpty_eq_false (occurs : Occurs condition query trail) :
    ∀ subquery ∈ trail, subquery.isEmpty = false := by
  induction occurs with
  | here => simp [isEmpty]
  | conjunction _ _ induction => exact List.forall_mem_cons.2 ⟨rfl, induction⟩
  | disjunction _ _ induction => exact List.forall_mem_cons.2 ⟨rfl, induction⟩
  | must _ _ induction => exact List.forall_mem_cons.2 ⟨rfl, induction⟩

end Query

namespace Schema

variable {schema : Schema} {node : Node} {key text : Text}

variable [PropertyTable]

/-- Some condition of the query counts at the node and reports the text for itself. -/
def Exposes (schema : Schema) (node : Node) (query : Query) (key text : Text) : Prop :=
  ∃ condition trail, query.Occurs condition trail ∧
    (∀ subquery ∈ trail, schema.MatchesInside node subquery) ∧
    schema.ReportsInside node (.base condition) key text

theorem testsFields_of_reportsInside {condition : Condition}
    (reports : schema.ReportsInside node (.base condition) key text) :
    condition.TestsFields := by
  obtain ⟨predicate, compiled, listed⟩ := reports
  cases condition with
  | field field => trivial
  | linked fields => trivial
  | documents identifiers => simp [compileNested, compileCondition] at compiled
  | nothing =>
      simp only [compileNested, compileCondition, Except.ok.injEq] at compiled
      subst predicate
      simp [Predicate.never] at listed

/-- A group that holds exposes what those of its members expose to which trails lead. -/
theorem exposes_group_iff {group : Query} {members : List Query}
    (occurs : ∀ condition trail, group.Occurs condition trail ↔
      ∃ child ∈ members, ∃ rest, trail = group :: rest ∧ child.Occurs condition rest) :
    schema.Exposes node group key text ↔
      schema.MatchesInside node group ∧
        ∃ child ∈ members, schema.Exposes node child key text := by
  constructor
  · intro exposed
    obtain ⟨condition, trail, inside, holds, reports⟩ := exposed
    obtain ⟨child, member, rest, rfl, inner⟩ := (occurs condition trail).1 inside
    obtain ⟨groupHolds, restHolds⟩ := List.forall_mem_cons.1 holds
    exact ⟨groupHolds, child, member, condition, rest, inner, restHolds, reports⟩
  · intro parts
    obtain ⟨groupHolds, child, member, condition, rest, inner, restHolds, reports⟩ := parts
    refine ⟨condition, group :: rest, ?_, ?_, reports⟩
    · exact (occurs condition _).2 ⟨child, member, rest, rfl, inner⟩
    · exact List.forall_mem_cons.2 ⟨groupHolds, restHolds⟩

theorem exposes_base_iff {condition : Condition} :
    schema.Exposes node (.base condition) key text ↔
      schema.ReportsInside node (.base condition) key text := by
  constructor
  · intro exposed
    obtain ⟨_, _, occurs, _, reports⟩ := exposed
    cases occurs
    exact reports
  · intro reports
    refine ⟨condition, [.base condition], .here, ?_, reports⟩
    exact List.forall_mem_singleton.2 reports.matches

theorem not_exposes_empty : ¬schema.Exposes node .empty key text := by
  intro exposed
  obtain ⟨_, _, occurs, _⟩ := exposed
  cases occurs

/-- What a query inside another reports is what it exposes. -/
theorem reportsInside_iff_exposes {query : Query} :
    schema.ReportsInside node query key text ↔ schema.Exposes node query key text := by
  induction query with
  | conjunction children induction =>
      rw [reportsInside_conjunction_iff,
        exposes_group_iff fun _ _ => Query.occurs_conjunction_iff]
      exact and_congr_right fun _ =>
        exists_congr fun child => and_congr_right (induction child)
  | disjunction children induction =>
      rw [reportsInside_disjunction_iff,
        exposes_group_iff fun _ _ => Query.occurs_disjunction_iff]
      exact and_congr_right fun _ =>
        exists_congr fun child => and_congr_right (induction child)
  | boolean must mustNot induction _ =>
      rw [reportsInside_boolean_iff,
        exposes_group_iff fun _ _ => Query.occurs_boolean_iff]
      exact and_congr_right fun _ =>
        exists_congr fun child => and_congr_right (induction child)
  | base condition => exact exposes_base_iff.symm
  | empty =>
      constructor
      · intro exposed
        obtain ⟨predicate, compiled, _⟩ := exposed
        exact absurd ⟨predicate, compiled⟩ not_compilesInside_empty
      · exact fun exposes => absurd exposes not_exposes_empty

theorem lists_iff_exposes {query : Query} {predicate : Predicate} {result : MatchResult}
    (compiled : schema.compile query = .ok predicate)
    (found : predicate.evaluateNode node = some result) :
    result.Lists key text ↔ schema.Exposes node query key text := by
  rw [← Predicate.reportsAt_iff_lists found]
  by_cases nonempty : query.isEmpty = false
  · rw [← reportsInside_iff_exposes, ← reports_iff_inside nonempty]
    constructor
    · exact fun reports => ⟨predicate, compiled, reports⟩
    · intro reported
      obtain ⟨other, otherCompiled, reports⟩ := reported
      rw [compiled, Except.ok.injEq] at otherCompiled
      exact otherCompiled ▸ reports
  · cases query with
    | empty =>
        simp only [compile, Query.isEmpty, if_true, Except.ok.injEq] at compiled
        subst predicate
        constructor
        · intro reports
          simp [Predicate.always] at reports
        · exact fun exposes => absurd exposes not_exposes_empty
    | _ => simp [Query.isEmpty] at nonempty

/-- A text is listed under a key exactly if some condition on fields that lies under no exclusion
reports it there for itself, while the condition and every query above it match the record.
No key is left without texts, and none of its texts stands there twice. -/
theorem lists_iff_condition_reports
    {schema : Schema} {query : Query} {predicate : Predicate} {node : Node}
    {result : MatchResult}
    (compiled : schema.compile query = .ok predicate)
    (found : predicate.evaluateNode node = some result) :
    (∀ key text, result.Lists key text ↔
      ∃ condition trail, condition.TestsFields ∧ query.Occurs condition trail ∧
        (∀ subquery ∈ trail, schema.Matches node subquery) ∧
        schema.Reports node (.base condition) key text) ∧
      result.Tidy := by
  refine ⟨?_, Predicate.tidy_evaluateNode found⟩
  intro key text
  rw [lists_iff_exposes compiled found]
  have above {condition : Condition} {trail : List Query}
      (occurs : query.Occurs condition trail) :
      (∀ subquery ∈ trail, schema.Matches node subquery) ↔
        ∀ subquery ∈ trail, schema.MatchesInside node subquery :=
    forall₂_congr fun subquery member =>
      matches_iff_inside (occurs.isEmpty_eq_false subquery member)
  constructor
  · intro exposed
    obtain ⟨condition, trail, occurs, holds, reports⟩ := exposed
    exact ⟨condition, trail, testsFields_of_reportsInside reports, occurs,
      (above occurs).2 holds, (reports_iff_inside rfl).2 reports⟩
  · intro exposed
    obtain ⟨condition, trail, _, occurs, holds, reports⟩ := exposed
    exact ⟨condition, trail, occurs, (above occurs).1 holds, (reports_iff_inside rfl).1 reports⟩

end Schema

namespace Samples

/-- Everyone called Ann and every guest, but none of the staff. -/
def guestQuery : Query :=
  .boolean
    [.disjunction [.matchField "Name".toList "ann".toList, .matchField "Tag".toList "guest".toList]]
    [.matchField "Tag".toList "staff".toList]

def guest : Node :=
  Inspectable.node ({ name := "Bob".toList, tags := ["guest".toList, "new".toList] } : Person)

theorem lists_iff_condition_reports_guest :
    ∃ predicate result,
      Person.schema.compile guestQuery = .ok predicate ∧
      predicate.evaluateNode guest = some result ∧
      (∀ key text, result.Lists key text ↔
        ∃ condition trail, condition.TestsFields ∧ guestQuery.Occurs condition trail ∧
          (∀ subquery ∈ trail, Person.schema.Matches guest subquery) ∧
          Person.schema.Reports guest (.base condition) key text) ∧
      result.Tidy := by
  have compiled : Person.schema.compile guestQuery = .ok (.without
      (.all [.any [
        .within (.field "name".toList)
          (.leaf ⟨"name".toList, [(.string, .sameText "ann".toList)]⟩),
        .within (.field "tags".toList) (.within .list
          (.leaf ⟨"tags".toList, [(.string, .sameText "guest".toList)]⟩))]])
      (.any [.within (.field "tags".toList) (.within .list
        (.leaf ⟨"tags".toList, [(.string, .sameText "staff".toList)]⟩))])) := rfl
  refine ⟨_, MatchResult.empty.record "tags".toList "guest".toList, compiled, rfl, ?_⟩
  exact Schema.lists_iff_condition_reports compiled rfl

end Samples

end RecordSearch
