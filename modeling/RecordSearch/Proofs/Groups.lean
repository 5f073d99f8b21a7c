import RecordSearch.Proofs.Collapsing
import RecordSearch.Proofs.Highlighting
import RecordSearch.Proofs.SeparateConditions

/-!
# The shape of groups

Conjunctions and disjunctions join the results of their members one after the other.  So a group
inside a group of its kind may be written out, a member that is repeated later adds nothing, and
only which queries are members decides what matches and which texts are listed.
-/

namespace RecordSearch

namespace MatchResult

variable {left right : MatchResult} {texts more : List Text} {key text : Text}

theorem addAll_eq_self (known : more ⊆ texts) : addAll texts more = texts := by
  induction more with
  | nil => rfl
  | cons value more induction =>
      obtain ⟨first, rest⟩ := List.cons_subset.1 known
      rw [addAll, List.foldl_cons, addOnce, if_pos first]
      exact induction rest

theorem merge_eq_left (tidy : left.Tidy)
    (known : ∀ key text, right.Lists key text → left.Lists key text) :
    left.merge right = left := by
  refine eq_of_texts_eq (tidy_merge tidy right) tidy fun key => ?_
  rw [texts_merge]
  refine addAll_eq_self fun text member => ?_
  exact mem_getD_iff_lists.2 (known key text (mem_getD_iff_lists.1 member))

end MatchResult

namespace Predicate

section Outcomes

variable {first second third found : Option MatchResult} {front back : List (Option MatchResult)}

theorem collect_assoc (tidy : ∀ result, first = some result → result.Tidy) :
    collect (collect first second) third = collect first (collect second third) := by
  have startTidy : (first.getD .empty).Tidy := by
    cases first with
    | none => exact MatchResult.tidy_empty
    | some start => exact tidy start rfl
  cases third with
  | none => rfl
  | some last =>
      cases second with
      | none =>
          refine congrArg some ?_
          rw [← MatchResult.merge_assoc startTidy]
          rfl
      | some next => exact congrArg some (MatchResult.merge_assoc startTidy)

theorem foldl_collect (tidy : ∀ result, found = some result → result.Tidy) :
    back.foldl collect found = collect found (union back) := by
  induction back using List.reverseRecOn with
  | nil => rfl
  | append_singleton back outcome induction =>
      rw [union, List.foldl_append, List.foldl_append, induction]
      exact collect_assoc tidy

theorem union_append : union (front ++ back) = collect (union front) (union back) := by
  rw [union, List.foldl_append]
  exact foldl_collect fun _ => tidy_union

end Outcomes

end Predicate

/-- The two ways in which the members of a group count. -/
inductive Connective
  | conjunction
  | disjunction

namespace Connective

def group : Connective → List Query → Query
  | .conjunction, members => .conjunction members
  | .disjunction, members => .disjunction members

def combine : Connective → List Predicate → Predicate
  | .conjunction, members => .all members
  | .disjunction, members => .any members

/-- What two parts of a group find together: both have to hold in a conjunction. -/
def join : Connective → Option MatchResult → Option MatchResult → Option MatchResult
  | .conjunction, first, second => first.bind fun found => second.map found.merge
  | .disjunction, first, second => Predicate.collect first second

section Evaluation

variable {connective : Connective} {front members between back : List Predicate}
  {child : Predicate} {node : Node}

theorem evaluateNode_append :
    (connective.combine (front ++ back)).evaluateNode node =
      connective.join ((connective.combine front).evaluateNode node)
        ((connective.combine back).evaluateNode node) := by
  cases connective with
  | conjunction => exact Predicate.evaluateNode_all_append
  | disjunction =>
      simp only [combine, Predicate.evaluateNode_any, List.map_append]
      exact Predicate.union_append

theorem evaluateNode_singleton :
    (connective.combine [child]).evaluateNode = child.evaluateNode := by
  cases connective with
  | conjunction => exact Predicate.evaluateNode_all_singleton child
  | disjunction =>
      funext node
      exact Predicate.union_singleton fun _ => Predicate.tidy_evaluateNode

theorem reportsAt_of_member {key text : Text} (holds : (connective.combine members).HoldsAt node)
    (member : child ∈ members) (reports : child.ReportsAt node key text) :
    (connective.combine members).ReportsAt node key text := by
  cases connective with
  | conjunction =>
      exact Predicate.reportsAt_all_iff.2
        ⟨Predicate.holdsAt_all_iff.1 holds, child, member, reports⟩
  | disjunction => exact Predicate.reportsAt_any_iff.2 ⟨child, member, reports⟩

theorem merge_eq_left_of_member {found result : MatchResult} (member : child ∈ members)
    (evaluated : (connective.combine members).evaluateNode node = some found)
    (childEvaluated : child.evaluateNode node = some result) : found.merge result = found := by
  refine MatchResult.merge_eq_left (Predicate.tidy_evaluateNode evaluated) fun key text listed => ?_
  rw [← Predicate.reportsAt_iff_lists childEvaluated] at listed
  rw [← Predicate.reportsAt_iff_lists evaluated]
  have holds : (connective.combine members).HoldsAt node := by
    rw [Predicate.HoldsAt, evaluated]
    rfl
  exact reportsAt_of_member holds member listed

/-- A group that is joined with one of its members finds what it finds alone. -/
theorem join_eq_left (member : child ∈ members) :
    connective.join ((connective.combine members).evaluateNode node) (child.evaluateNode node) =
      (connective.combine members).evaluateNode node := by
  cases connective with
  | conjunction =>
      cases evaluated : (combine .conjunction members).evaluateNode node with
      | none => rfl
      | some found =>
          have holds : (Predicate.all members).HoldsAt node :=
            Option.isSome_iff_exists.2 ⟨found, evaluated⟩
          obtain ⟨result, childEvaluated⟩ :=
            Option.isSome_iff_exists.1 (Predicate.holdsAt_all_iff.1 holds child member)
          rw [childEvaluated]
          exact congrArg some (merge_eq_left_of_member member evaluated childEvaluated)
  | disjunction =>
      cases childEvaluated : child.evaluateNode node with
      | none => rfl
      | some result =>
          have childHolds : child.HoldsAt node :=
            Option.isSome_iff_exists.2 ⟨result, childEvaluated⟩
          obtain ⟨found, evaluated⟩ :
              ∃ found, (combine .disjunction members).evaluateNode node = some found :=
            Option.isSome_iff_exists.1 (Predicate.holdsAt_any_iff.2 ⟨child, member, childHolds⟩)
          rw [evaluated]
          exact congrArg some (merge_eq_left_of_member member evaluated childEvaluated)

/-- A group of its own kind may be written out inside a group. -/
theorem evaluateNode_flatten :
    (connective.combine (front ++ connective.combine members :: back)).evaluateNode =
      (connective.combine (front ++ members ++ back)).evaluateNode := by
  funext node
  rw [List.append_cons, evaluateNode_append, evaluateNode_append, evaluateNode_singleton,
    evaluateNode_append, evaluateNode_append]

theorem evaluateNode_repeat :
    (connective.combine (front ++ child :: between ++ child :: back)).evaluateNode =
      (connective.combine (front ++ child :: between ++ back)).evaluateNode := by
  funext node
  have member : child ∈ front ++ child :: between :=
    List.mem_append_right front List.mem_cons_self
  rw [List.append_cons _ child back, evaluateNode_append, evaluateNode_append,
    evaluateNode_singleton, join_eq_left member, ← evaluateNode_append]

end Evaluation

end Connective

namespace Schema

/-- What a query comes to: the error that it does not compile with, or else what its predicate
finds at each node. -/
def evaluation [PropertyTable] (schema : Schema) (query : Query) :
    Except SearchError (Node → Option MatchResult) :=
  (schema.compile query).map Predicate.evaluateNode

variable {schema : Schema} {node : Node} {connective : Connective} {members others : List Query}

theorem compileNested_group [PropertyTable] :
    schema.compileNested (connective.group members) =
      (members.mapM schema.compileNested).map connective.combine := by
  cases connective with
  | conjunction =>
      change (compileList schema members).map Predicate.all = _
      rw [compileList_eq_mapM]
      rfl
  | disjunction =>
      change (compileList schema members).map Predicate.any = _
      rw [compileList_eq_mapM]
      rfl

theorem isEmpty_group : (connective.group members).isEmpty = false := by
  cases connective <;> rfl

variable [PropertyTable]

theorem evaluation_group :
    schema.evaluation (connective.group members) =
      (members.mapM schema.compileNested).map fun predicates =>
        (connective.combine predicates).evaluateNode := by
  rw [evaluation, compile_eq_compileNested isEmpty_group, compileNested_group]
  cases members.mapM schema.compileNested <;> rfl

theorem evaluation_flatten (front back : List Query) :
    schema.evaluation (connective.group (front ++ connective.group members :: back)) =
      schema.evaluation (connective.group (front ++ members ++ back)) := by
  rw [evaluation_group, evaluation_group]
  simp only [List.mapM_append, List.mapM_cons, compileNested_group]
  cases front.mapM schema.compileNested with
  | error error => rfl
  | ok fronts =>
      cases members.mapM schema.compileNested with
      | error error => rfl
      | ok inner =>
          cases back.mapM schema.compileNested with
          | error error => rfl
          | ok backs => exact congrArg Except.ok Connective.evaluateNode_flatten

theorem evaluation_repeat (front between back : List Query) (child : Query) :
    schema.evaluation (connective.group (front ++ child :: between ++ child :: back)) =
      schema.evaluation (connective.group (front ++ child :: between ++ back)) := by
  rw [evaluation_group, evaluation_group]
  simp only [List.mapM_append, List.mapM_cons]
  cases front.mapM schema.compileNested with
  | error error => rfl
  | ok fronts =>
      cases schema.compileNested child with
      | error error => rfl
      | ok predicate =>
          cases between.mapM schema.compileNested with
          | error error => rfl
          | ok betweens =>
              cases back.mapM schema.compileNested with
              | error error => rfl
              | ok backs => exact congrArg Except.ok Connective.evaluateNode_repeat

section SameMembers

variable (same : ∀ query, query ∈ members ↔ query ∈ others)
include same

theorem compilesInside_group_congr :
    schema.CompilesInside (connective.group members) ↔
      schema.CompilesInside (connective.group others) := by
  cases connective with
  | conjunction => simp only [Connective.group, compilesInside_conjunction_iff, same]
  | disjunction => simp only [Connective.group, compilesInside_disjunction_iff, same]

theorem matchesInside_group_congr :
    schema.MatchesInside node (connective.group members) ↔
      schema.MatchesInside node (connective.group others) := by
  cases connective with
  | conjunction => simp only [Connective.group, matchesInside_conjunction_iff, same]
  | disjunction => simp only [Connective.group, matchesInside_disjunction_iff, same]

theorem reportsInside_group_congr {key text : Text} :
    schema.ReportsInside node (connective.group members) key text ↔
      schema.ReportsInside node (connective.group others) key text := by
  have matching : schema.MatchesInside node (connective.group members) ↔ _ :=
    matchesInside_group_congr same
  cases connective with
  | conjunction =>
      simp only [Connective.group, reportsInside_conjunction_iff, same] at matching ⊢
      rw [matching]
  | disjunction =>
      simp only [Connective.group, reportsInside_disjunction_iff, same] at matching ⊢
      rw [matching]

end SameMembers

/-- The arrangement of a group does not matter.  A group of the same kind inside it may be written
out, and a member that is there already may be left out later: the group fails to compile with the
same error, or has the same result at every node.  If two groups of the same kind have the same
members, in any order and number, then both compile or neither does, and they match at the same
nodes and list the same texts there. -/
theorem evaluation_ignores_arrangement (schema : Schema) (connective : Connective) :
    (∀ front members back,
      schema.evaluation (connective.group (front ++ connective.group members :: back)) =
        schema.evaluation (connective.group (front ++ members ++ back))) ∧
    (∀ front child between back,
      schema.evaluation (connective.group (front ++ child :: between ++ child :: back)) =
        schema.evaluation (connective.group (front ++ child :: between ++ back))) ∧
    ∀ members others, (∀ query, query ∈ members ↔ query ∈ others) →
      (schema.Compiles (connective.group members) ↔ schema.Compiles (connective.group others)) ∧
      ∀ node,
        (schema.Matches node (connective.group members) ↔
          schema.Matches node (connective.group others)) ∧
        ∀ key text, schema.Reports node (connective.group members) key text ↔
          schema.Reports node (connective.group others) key text := by
  refine ⟨fun front members back => evaluation_flatten front back,
    fun front child between back => evaluation_repeat front between back child,
    fun members others same => ⟨?_, fun node => ⟨?_, fun key text => ?_⟩⟩⟩
  · rw [Compiles, Compiles, compile_eq_compileNested isEmpty_group,
      compile_eq_compileNested isEmpty_group]
    exact compilesInside_group_congr same
  · rw [matches_iff_inside isEmpty_group, matches_iff_inside isEmpty_group]
    exact matchesInside_group_congr same
  · rw [reports_iff_inside isEmpty_group, reports_iff_inside isEmpty_group]
    exact reportsInside_group_congr same

section Collapsed

theorem evaluation_singleton {query : Query} (nonempty : query ≠ .empty) :
    schema.evaluation (connective.group [query]) = schema.evaluation query := by
  rw [evaluation_group, evaluation,
    compile_eq_compileNested (Query.isEmpty_eq_false_iff.2 nonempty), List.mapM_cons]
  cases schema.compileNested query with
  | error error => rfl
  | ok predicate => exact congrArg Except.ok Connective.evaluateNode_singleton

/-- Collapsing a group changes what it comes to only if the empty query is its one member, or if it
is a disjunction without members. -/
theorem evaluation_collapse_iff (schema : Schema) (connective : Connective) (members : List Query) :
    schema.evaluation (.collapse connective.group members) =
        schema.evaluation (connective.group members) ↔
      members ≠ [.empty] ∧ (connective = .disjunction → members ≠ []) := by
  induction members using Query.collapse_cases connective.group with
  | none =>
      cases connective with
      | conjunction => exact iff_of_true rfl ⟨nofun, nofun⟩
      | disjunction =>
          refine iff_of_false (fun same => ?_) fun kept => kept.2 rfl rfl
          have results := congrFun (Except.ok.inj same) .absent
          cases results
  | single query =>
      by_cases empty : query = .empty
      · subst empty
        refine iff_of_false (fun same => ?_) fun kept => kept.1 rfl
        cases connective <;> cases same
      · refine iff_of_true (evaluation_singleton empty).symm ⟨fun same => ?_, fun _ => nofun⟩
        exact empty (List.singleton_inj.1 same)
  | several members several =>
      exact iff_of_true rfl ⟨ne_singleton_of_two_le_length several,
        fun _ => ne_nil_of_two_le_length several⟩

/-- A collapsed group comes to the same as the group itself, with the same error or with the same
result at every node, unless the empty query is its one member, or it is a disjunction without
members.  In particular this is so for every group with members none of which is the empty query,
and for the choice among some values of a label. -/
theorem evaluation_collapsed_iff (schema : Schema) (queries : List Query) :
    (schema.evaluation (.allOf queries) = schema.evaluation (.conjunction queries) ↔
      queries ≠ [.empty]) ∧
    (schema.evaluation (.anyOf queries) = schema.evaluation (.disjunction queries) ↔
      queries ≠ [.empty] ∧ queries ≠ []) ∧
    ∀ label values,
      schema.evaluation (.matchAny label values) =
          schema.evaluation (.disjunction (values.map (.matchField label))) ↔
        values ≠ [] := by
  have conjoined := schema.evaluation_collapse_iff .conjunction queries
  have chosen (queries : List Query) := schema.evaluation_collapse_iff .disjunction queries
  refine ⟨conjoined.trans (and_iff_left nofun), (chosen queries).trans ?_, fun label values => ?_⟩
  · exact and_congr_right fun _ => forall_prop_of_true rfl
  · refine (chosen _).trans ?_
    have fields : values.map (Query.matchField label) ≠ [.empty] := by
      intro single
      have member : Query.empty ∈ values.map (Query.matchField label) := by
        rw [single]
        exact List.mem_singleton_self _
      obtain ⟨_, _, equal⟩ := List.mem_map.1 member
      cases equal
    rw [and_iff_right fields, forall_prop_of_true rfl, Ne, List.map_eq_nil_iff]

end Collapsed

end Schema

namespace Samples

def namedBob : Query :=
  .matchField "Name".toList "bob".toList

def taggedGuest : Query :=
  .matchField "Tag".toList "guest".toList

theorem evaluation_ignores_arrangement_guest :
    (∀ query, query ∈ [namedBob, taggedGuest] ↔ query ∈ [taggedGuest, namedBob, taggedGuest]) ∧
      Person.schema.Matches guest (.conjunction [taggedGuest, namedBob, taggedGuest]) ∧
      Person.schema.Reports guest (.conjunction [taggedGuest, namedBob, taggedGuest])
        "tags".toList "guest".toList := by
  have same (query : Query) :
      query ∈ [namedBob, taggedGuest] ↔ query ∈ [taggedGuest, namedBob, taggedGuest] := by
    simp only [List.mem_cons, List.not_mem_nil, or_false]
    tauto
  have compiled : Person.schema.compile (.conjunction [namedBob, taggedGuest]) = .ok (.all [
      .within (.field "name".toList)
        (.leaf ⟨"name".toList, [(.string, .sameText "bob".toList)]⟩),
      .within (.field "tags".toList) (.within .list
        (.leaf ⟨"tags".toList, [(.string, .sameText "guest".toList)]⟩))]) := rfl
  obtain ⟨_, _, arranged⟩ :=
    Schema.evaluation_ignores_arrangement Person.schema .conjunction
  obtain ⟨_, results⟩ := arranged _ _ same
  obtain ⟨matching, reporting⟩ := results guest
  refine ⟨same, matching.1 ⟨_, compiled, rfl⟩, (reporting _ _).1 ⟨_, compiled, ?_⟩⟩
  exact ⟨_, rfl, _, rfl, List.mem_singleton_self _⟩

end Samples

end RecordSearch
