import RecordSearch.Proofs.Conjunctions
import RecordSearch.Proofs.LinkedConditions

/-!
# Linked and separate conditions

The conditions of a linked group can also be put to a record one by one, as a conjunction.  Where
the group holds, so does the conjunction, and it lists what the group lists.  The two agree on every
record if there is one condition only, or if the shared steps pass no list and no map, for then they
lead to one element at most.
-/

namespace RecordSearch

namespace Step

/-- The step leads to one child at most. -/
def IsSingle (step : Step) : Prop :=
  step ≠ .list ∧ step ≠ .map

theorem children_of_isSingle {step : Step} (single : step.IsSingle) (node : Node) :
    step.children node = [] ∨ ∃ child, step.children node = [child] := by
  obtain ⟨notList, notMap⟩ := single
  unfold children
  split
  case h_1 name fields =>
    by_cases missing : (Node.fieldNamed fields name).isAbsent = true
    · exact .inl (if_pos missing)
    · exact .inr ⟨_, if_neg missing⟩
  case h_2 => exact .inr ⟨_, rfl⟩
  case h_3 => exact absurd rfl notList
  case h_4 => exact absurd rfl notMap
  case h_5 =>
    split
    · exact .inr ⟨_, rfl⟩
    · exact .inl rfl
  case h_6 => exact .inl rfl

end Step

namespace Predicate

variable {children : List Predicate} {inner : Predicate} {steps front back : List Step}
  {node : Node} {key text : Text}

theorem wrap_append : wrap (front ++ back) inner = wrap front (wrap back inner) :=
  List.foldr_append

theorem union_singleton {outcome : Option MatchResult}
    (tidy : ∀ result, outcome = some result → result.Tidy) : union [outcome] = outcome := by
  cases outcome with
  | none => rfl
  | some result => exact congrArg some (MatchResult.empty_merge (tidy result rfl))

/-- Steps without choice lead nowhere, or lead every predicate to the same target. -/
theorem exists_target_of_isSingle (single : ∀ step ∈ steps, step.IsSingle) (node : Node) :
    (∀ inner, (wrap steps inner).evaluateNode node = none) ∨
      ∃ target, ∀ inner, (wrap steps inner).evaluateNode node = inner.evaluateNode target := by
  induction steps generalizing node with
  | nil => exact .inr ⟨node, fun inner => rfl⟩
  | cons step steps induction =>
      obtain ⟨first, rest⟩ := List.forall_mem_cons.1 single
      rcases Step.children_of_isSingle first node with nowhere | ⟨child, only⟩
      · apply Or.inl
        intro inner
        change union ((step.children node).map (wrap steps inner).evaluateNode) = none
        rw [nowhere]
        rfl
      · have through (inner : Predicate) : (wrap (step :: steps) inner).evaluateNode node =
            (wrap steps inner).evaluateNode child := by
          change union ((step.children node).map (wrap steps inner).evaluateNode) = _
          rw [only, List.map_singleton]
          exact union_singleton fun _ => tidy_evaluateNode
        simp only [through]
        exact induction rest child

section Carried

theorem holdsAt_all_of_wrap (holds : (wrap steps (all children)).HoldsAt node) :
    (all (children.map (wrap steps))).HoldsAt node := by
  obtain ⟨target, reaches, held⟩ := holdsAt_wrap_iff.1 holds
  rw [holdsAt_all_iff] at held
  rw [holdsAt_all_iff, List.forall_mem_map]
  intro child member
  exact holdsAt_wrap_iff.2 ⟨target, reaches, held child member⟩

theorem reportsAt_all_of_wrap (reports : (wrap steps (all children)).ReportsAt node key text) :
    (all (children.map (wrap steps))).ReportsAt node key text := by
  have holds := holdsAt_all_of_wrap reports.holdsAt
  obtain ⟨target, reaches, reported⟩ := reportsAt_wrap_iff.1 reports
  obtain ⟨_, child, member, childReports⟩ := reportsAt_all_iff.1 reported
  rw [reportsAt_all_iff]
  refine ⟨holdsAt_all_iff.1 holds, wrap steps child, List.mem_map_of_mem member, ?_⟩
  exact reportsAt_wrap_iff.2 ⟨target, reaches, childReports⟩

theorem evaluateNode_wrap_all_singleton (steps : List Step) (child : Predicate) :
    (wrap steps (all [child])).evaluateNode = (all [wrap steps child]).evaluateNode := by
  rw [evaluateNode_all_singleton]
  induction steps with
  | nil => exact evaluateNode_all_singleton child
  | cons step steps induction =>
      funext node
      change union ((step.children node).map (wrap steps (all [child])).evaluateNode) = _
      rw [induction]
      rfl

/-- Steps without choice carry a conjunction as they carry its members. -/
theorem evaluateNode_wrap_all (single : ∀ step ∈ steps, step.IsSingle) (nonempty : children ≠ []) :
    (wrap steps (all children)).evaluateNode = (all (children.map (wrap steps))).evaluateNode := by
  funext node
  rcases exists_target_of_isSingle single node with nowhere | ⟨target, through⟩
  · obtain ⟨child, rest, rfl⟩ := List.exists_cons_of_ne_nil nonempty
    rw [nowhere, evaluateNode_all, List.map_cons, evaluateAll_cons, nowhere]
  · rw [through, evaluateNode_all, evaluateNode_all]
    exact (evaluateAll_map fun child _ => through child).symm

end Carried

end Predicate

namespace Schema

variable {schema : Schema} {fields : List FieldMatch} {shared : List Step}

/-- The predicates of some conditions, behind the steps that follow the first ones. -/
def behind (skipped : Nat) (tests : List (FieldPath × LeafTest)) : List Predicate :=
  tests.map fun (path, test) => .wrap (path.steps.drop skipped) (.leaf test)

/-- Known conditions have paths and tests, from which both ways of compiling them are built. -/
theorem exists_tests [PropertyTable]
    (resolves : ∀ field ∈ fields, ∃ path, schema.get? field.label = some path ∧
      ∃ test, path.leafTest field.value = .ok test) :
    ∃ resolved tests, schema.resolveAll? fields = some resolved ∧
      resolved.map (·.2) = tests.map (·.1) ∧ schema.paths fields = tests.map (·.1) ∧
      (∀ shared, resolved.mapM (branch shared) = .ok (behind shared.length tests)) ∧
      (fields.map fun field => Query.base (.field field)).mapM schema.compileNested =
        .ok (behind 0 tests) := by
  induction fields with
  | nil => exact ⟨[], [], rfl, rfl, rfl, fun _ => rfl, rfl⟩
  | cons field fields induction =>
      obtain ⟨⟨path, known, test, tested⟩, rest⟩ := List.forall_mem_cons.1 resolves
      obtain ⟨resolved, tests, run, restPaths, paths, linked, separate⟩ := induction rest
      refine ⟨(field, path) :: resolved, (path, test) :: tests, ?_, ?_, ?_, ?_, ?_⟩
      · unfold resolveAll? at run
        simp [resolveAll?, List.mapM_cons, known, run]
      · rw [List.map_cons, List.map_cons, restPaths]
      · rw [List.map_cons, ← paths]
        exact List.filterMap_cons_some known
      · intro shared
        refine Run.mapM_cons_eq_ok_iff.2 ⟨_, _, ?_, linked shared, rfl⟩
        exact branch_eq_ok_iff.2 ⟨test, tested, rfl⟩
      · refine Run.mapM_cons_eq_ok_iff.2 ⟨_, _, ?_, separate, rfl⟩
        exact compileField_eq_ok_iff.2 (.inr ⟨path, test, known, tested, rfl⟩)

theorem behind_zero {tests : List (FieldPath × LeafTest)}
    (begins : ∀ path ∈ tests.map (·.1), shared <+: path.steps) :
    behind 0 tests = (behind shared.length tests).map (.wrap shared) := by
  rw [behind, behind, List.map_map]
  apply List.map_congr_left
  intro entry member
  obtain ⟨rest, split⟩ := begins entry.1 (List.mem_map_of_mem member)
  simp only [Function.comp_apply, ← split, List.drop_left, List.drop_zero, Predicate.wrap_append]

/-- Where a linked group of known conditions holds, the conjunction of the single conditions does,
and it lists under the same keys what the group lists.  Both give the same result for every record
if the shared steps pass no list and no map, or if there is only one condition. -/
theorem separate_conditions_of_linked [PropertyTable] {schema : Schema} {fields : List FieldMatch}
    {shared : List Step} (nonempty : fields ≠ [])
    (resolves : ∀ field ∈ fields, ∃ path, schema.get? field.label = some path ∧
      ∃ test, path.leafTest field.value = .ok test)
    (longest : FieldPath.LongestShared (schema.paths fields) shared) :
    ∃ linked separate,
      schema.compile (.matchLinked fields) = .ok linked ∧
      schema.compile (.conjunction (fields.map fun field => .base (.field field))) =
        .ok separate ∧
      (∀ node, linked.HoldsAt node → separate.HoldsAt node) ∧
      (∀ node key text, linked.ReportsAt node key text → separate.ReportsAt node key text) ∧
      ((∀ step ∈ shared, step.IsSingle) ∨ fields.length = 1 →
        ∀ node, linked.evaluateNode node = separate.evaluateNode node) := by
  obtain ⟨resolved, tests, run, resolvedPaths, paths, branches, separate⟩ := exists_tests resolves
  have tested : tests ≠ [] := by
    rintro rfl
    obtain ⟨field, member⟩ := List.exists_mem_of_ne_nil fields nonempty
    obtain ⟨path, known, _⟩ := resolves field member
    have among : path ∈ schema.paths fields := List.mem_filterMap.2 ⟨field, member, known⟩
    rw [paths] at among
    cases among
  have sharedSteps : FieldPath.sharedSteps (resolved.map (·.2)) = shared := by
    rw [resolvedPaths, ← paths]
    refine (longest.eq_sharedSteps ?_).symm
    rwa [paths, Ne, List.map_eq_nil_iff]
  have linked : schema.compile (.matchLinked fields) =
      .ok (.wrap shared (.all (behind shared.length tests))) := by
    rw [compile_eq_compileNested rfl]
    change schema.compileLinked fields = _
    rw [compileLinked, if_neg nonempty, run]
    apply compileResolved_eq_ok_iff.2
    rw [sharedSteps]
    exact ⟨_, branches shared, rfl⟩
  have members := behind_zero (paths ▸ longest.common)
  refine ⟨_, .all (behind 0 tests), linked, ?_, ?_, ?_, ?_⟩
  · rw [compile_eq_compileNested rfl]
    exact compileNested_conjunction_eq_ok_iff.2 ⟨_, separate, rfl⟩
  · intro node holds
    rw [members]
    exact Predicate.holdsAt_all_of_wrap holds
  · intro node key text reports
    rw [members]
    exact Predicate.reportsAt_all_of_wrap reports
  · intro simple node
    rw [members]
    rcases simple with single | one
    · apply congrFun
      exact Predicate.evaluateNode_wrap_all single (by simpa [behind] using tested)
    · obtain ⟨field, rfl⟩ := List.length_eq_one_iff.1 one
      obtain ⟨_, rest, _, noRest, whole⟩ := Run.mapM_cons_eq_ok_iff.1 separate
      cases noRest
      obtain ⟨test, rfl, _⟩ := List.map_eq_singleton_iff.1 whole.symm
      apply congrFun
      exact Predicate.evaluateNode_wrap_all_singleton shared _

end Schema

namespace Samples

def olderButNoGuest : List FieldMatch := [
  { label := "Age".toList, value := ">40".toList },
  { label := "Tag".toList, value := "!guest".toList }]

theorem separate_conditions_of_linked_ann :
    (∃ linked separate,
      Item.schema.compile (.matchLinked annButNoGuest) = .ok linked ∧
      Item.schema.compile (.conjunction (annButNoGuest.map fun field => .base (.field field))) =
        .ok separate ∧
      ∀ node, linked.HoldsAt node → separate.HoldsAt node) ∧
    ∃ linked separate,
      Person.schema.compile (.matchLinked olderButNoGuest) = .ok linked ∧
      Person.schema.compile (.conjunction (olderButNoGuest.map fun field => .base (.field field))) =
        .ok separate ∧
      ∀ node, linked.evaluateNode node = separate.evaluateNode node := by
  constructor
  · have resolves : ∀ field ∈ annButNoGuest, ∃ path, Item.schema.get? field.label = some path ∧
        ∃ test, path.leafTest field.value = .ok test :=
      List.forall_mem_cons.2 ⟨⟨_, rfl, _, rfl⟩, List.forall_mem_singleton.2 ⟨_, rfl, _, rfl⟩⟩
    obtain ⟨linked, separate, linkedRun, separateRun, holds, _⟩ :=
      Schema.separate_conditions_of_linked (by decide) resolves
        (FieldPath.longestShared_sharedSteps (by decide))
    exact ⟨linked, separate, linkedRun, separateRun, holds⟩
  · have resolves : ∀ field ∈ olderButNoGuest, ∃ path, Person.schema.get? field.label = some path ∧
        ∃ test, path.leafTest field.value = .ok test :=
      List.forall_mem_cons.2 ⟨⟨_, rfl, _, rfl⟩, List.forall_mem_singleton.2 ⟨_, rfl, _, rfl⟩⟩
    have longest : FieldPath.LongestShared (Person.schema.paths olderButNoGuest) [] :=
      FieldPath.longestShared_sharedSteps (by decide)
    obtain ⟨linked, separate, linkedRun, separateRun, _, _, same⟩ :=
      Schema.separate_conditions_of_linked (by decide) resolves longest
    exact ⟨linked, separate, linkedRun, separateRun, same (.inl nofun)⟩

end Samples

end RecordSearch
