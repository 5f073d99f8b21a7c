import Mathlib.Logic.Basic
import RecordSearch.Predicate.Basic
import RecordSearch.Proofs.Listing

/-!
# What evaluating a predicate says

Evaluation is described by two relations, whether a predicate holds at a node
and which texts it reports there.  There is one pair of equations for each form
of predicate, so that later proofs open neither the accumulation of results nor
the early ends of its loops.
-/

namespace RecordSearch

namespace Predicate

def HoldsAt (predicate : Predicate) (node : Node) : Prop :=
  (predicate.evaluateNode node).isSome

def Found (outcome : Option MatchResult) (key text : Text) : Prop :=
  ∃ result, outcome = some result ∧ result.Lists key text

/-- Evaluating the predicate at the node lists the text under the key. -/
def ReportsAt (predicate : Predicate) (node : Node) (key text : Text) : Prop :=
  Found (predicate.evaluateNode node) key text

theorem ReportsAt.holdsAt {predicate : Predicate} {node : Node} {key text : Text}
    (reports : predicate.ReportsAt node key text) : predicate.HoldsAt node := by
  obtain ⟨result, evaluated, _⟩ := reports
  simp [HoldsAt, evaluated]

theorem reportsAt_iff_lists {predicate : Predicate} {node : Node} {result : MatchResult}
    (evaluated : predicate.evaluateNode node = some result) {key text : Text} :
    predicate.ReportsAt node key text ↔ result.Lists key text := by
  simp [ReportsAt, Found, evaluated]

section Outcomes

@[simp]
theorem not_found_none (key text : Text) : ¬Found none key text := by
  simp [Found]

@[simp]
theorem found_some_iff {result : MatchResult} {key text : Text} :
    Found (some result) key text ↔ result.Lists key text := by
  simp [Found]

theorem isSome_collect (found outcome : Option MatchResult) :
    (collect found outcome).isSome = (found.isSome || outcome.isSome) := by
  cases outcome <;> simp [collect]

theorem found_collect_iff {found outcome : Option MatchResult} {key text : Text} :
    Found (collect found outcome) key text ↔ Found found key text ∨ Found outcome key text := by
  cases outcome with
  | none => simp [collect]
  | some result => cases found <;> simp [collect]

theorem isSome_foldl_collect (outcomes : List (Option MatchResult))
    (found : Option MatchResult) :
    (outcomes.foldl collect found).isSome = true ↔
      found.isSome = true ∨ ∃ outcome ∈ outcomes, outcome.isSome = true := by
  induction outcomes generalizing found with
  | nil => simp
  | cons outcome outcomes induction =>
      rw [List.foldl_cons, induction, isSome_collect, Bool.or_eq_true, or_assoc]
      simp only [List.mem_cons, exists_eq_or_imp]

theorem found_foldl_collect_iff {outcomes : List (Option MatchResult)}
    {found : Option MatchResult} {key text : Text} :
    Found (outcomes.foldl collect found) key text ↔
      Found found key text ∨ ∃ outcome ∈ outcomes, Found outcome key text := by
  induction outcomes generalizing found with
  | nil => simp
  | cons outcome outcomes induction =>
      rw [List.foldl_cons, induction, found_collect_iff, or_assoc]
      simp only [List.mem_cons, exists_eq_or_imp]

theorem isSome_union_iff {outcomes : List (Option MatchResult)} :
    (union outcomes).isSome = true ↔ ∃ outcome ∈ outcomes, outcome.isSome = true := by
  simp [union, isSome_foldl_collect]

theorem found_union_iff {outcomes : List (Option MatchResult)} {key text : Text} :
    Found (union outcomes) key text ↔ ∃ outcome ∈ outcomes, Found outcome key text := by
  simp [union, found_foldl_collect_iff]

theorem tidy_collect {found outcome : Option MatchResult}
    (tidy : ∀ result, found = some result → result.Tidy) :
    ∀ result, collect found outcome = some result → result.Tidy := by
  intro result collected
  cases outcome with
  | none => exact tidy result collected
  | some next =>
      have startTidy : (found.getD .empty).Tidy := by
        cases found with
        | none => exact MatchResult.tidy_empty
        | some start => exact tidy start rfl
      simp only [collect, Option.some.injEq] at collected
      rw [← collected]
      exact MatchResult.tidy_merge startTidy next

theorem tidy_foldl_collect {outcomes : List (Option MatchResult)} {found : Option MatchResult}
    (tidy : ∀ result, found = some result → result.Tidy) :
    ∀ result, outcomes.foldl collect found = some result → result.Tidy := by
  induction outcomes generalizing found with
  | nil => exact tidy
  | cons outcome outcomes induction => exact induction (tidy_collect tidy)

theorem tidy_union {outcomes : List (Option MatchResult)} {result : MatchResult}
    (united : union outcomes = some result) : result.Tidy :=
  tidy_foldl_collect (by simp) result united

end Outcomes

section Conjunctions

theorem isSome_evaluateAll_iff {children : List Predicate} {node : Node}
    {found : MatchResult} :
    (evaluateAll children node found).isSome = true ↔
      ∀ child ∈ children, child.HoldsAt node := by
  induction children generalizing found with
  | nil => simp
  | cons child children induction =>
      rw [List.forall_mem_cons, HoldsAt]
      cases outcome : child.evaluateNode node with
      | none => simp [outcome]
      | some result => simp [outcome, induction]

theorem found_evaluateAll_iff {children : List Predicate} {node : Node}
    {found : MatchResult} {key text : Text} :
    Found (evaluateAll children node found) key text ↔
      (∀ child ∈ children, child.HoldsAt node) ∧
        (found.Lists key text ∨ ∃ child ∈ children, child.ReportsAt node key text) := by
  induction children generalizing found with
  | nil => simp
  | cons child children induction =>
      simp only [List.mem_cons, forall_eq_or_imp, exists_eq_or_imp, HoldsAt, ReportsAt]
      cases outcome : child.evaluateNode node with
      | none => simp [outcome]
      | some result =>
          simp only [evaluateAll_cons, outcome, induction, MatchResult.lists_merge_iff,
            Option.isSome_some, true_and, found_some_iff, or_assoc, HoldsAt, ReportsAt]

theorem tidy_evaluateAll {children : List Predicate} {node : Node}
    {found result : MatchResult} (tidy : found.Tidy)
    (evaluated : evaluateAll children node found = some result) : result.Tidy := by
  induction children generalizing found with
  | nil =>
      simp only [evaluateAll_nil, Option.some.injEq] at evaluated
      exact evaluated ▸ tidy
  | cons child children induction =>
      cases outcome : child.evaluateNode node with
      | none => simp [outcome] at evaluated
      | some next =>
          simp only [evaluateAll_cons, outcome] at evaluated
          exact induction (MatchResult.tidy_merge tidy next) evaluated

end Conjunctions

section Forms

variable {node : Node} {key text : Text}

@[simp]
theorem holdsAt_leaf_iff {test : LeafTest} :
    (leaf test).HoldsAt node ↔ ∃ value, node = .leaf value ∧ test.accepts value = true := by
  cases node with
  | leaf value =>
      by_cases accepted : test.accepts value = true <;>
        simp [HoldsAt, LeafTest.evaluate, accepted]
  | _ => simp [HoldsAt, LeafTest.evaluate]

@[simp]
theorem reportsAt_leaf_iff {test : LeafTest} :
    (leaf test).ReportsAt node key text ↔
      ∃ value, node = .leaf value ∧ test.accepts value = true ∧
        key = test.key ∧ text = value.render := by
  cases node with
  | leaf value =>
      by_cases accepted : test.accepts value = true <;>
        simp [ReportsAt, LeafTest.evaluate, accepted,
          MatchResult.lists_record_iff]
  | _ => simp [ReportsAt, LeafTest.evaluate]

@[simp]
theorem holdsAt_within_iff {step : Step} {inner : Predicate} :
    (within step inner).HoldsAt node ↔
      ∃ child ∈ step.children node, inner.HoldsAt child := by
  simp [HoldsAt, isSome_union_iff]

@[simp]
theorem reportsAt_within_iff {step : Step} {inner : Predicate} :
    (within step inner).ReportsAt node key text ↔
      ∃ child ∈ step.children node, inner.ReportsAt child key text := by
  simp [ReportsAt, found_union_iff]

@[simp]
theorem holdsAt_all_iff {children : List Predicate} :
    (all children).HoldsAt node ↔ ∀ child ∈ children, child.HoldsAt node := by
  rw [HoldsAt, evaluateNode_all, isSome_evaluateAll_iff]

@[simp]
theorem reportsAt_all_iff {children : List Predicate} :
    (all children).ReportsAt node key text ↔
      (∀ child ∈ children, child.HoldsAt node) ∧
        ∃ child ∈ children, child.ReportsAt node key text := by
  rw [ReportsAt, evaluateNode_all, found_evaluateAll_iff]
  simp

@[simp]
theorem holdsAt_any_iff {children : List Predicate} :
    (any children).HoldsAt node ↔ ∃ child ∈ children, child.HoldsAt node := by
  simp [HoldsAt, isSome_union_iff]

@[simp]
theorem reportsAt_any_iff {children : List Predicate} :
    (any children).ReportsAt node key text ↔
      ∃ child ∈ children, child.ReportsAt node key text := by
  simp [ReportsAt, found_union_iff]

@[simp]
theorem holdsAt_without_iff {must mustNot : Predicate} :
    (without must mustNot).HoldsAt node ↔ must.HoldsAt node ∧ ¬mustNot.HoldsAt node := by
  simp only [HoldsAt, evaluateNode_without]
  cases must.evaluateNode node with
  | none => simp
  | some result => cases mustNot.evaluateNode node <;> simp

@[simp]
theorem reportsAt_without_iff {must mustNot : Predicate} :
    (without must mustNot).ReportsAt node key text ↔
      must.ReportsAt node key text ∧ ¬mustNot.HoldsAt node := by
  simp only [ReportsAt, HoldsAt, evaluateNode_without]
  cases must.evaluateNode node with
  | none => simp
  | some result => cases mustNot.evaluateNode node <;> simp

/-- Every evaluation starts from the empty result, so what it returns is tidy. -/
theorem tidy_evaluateNode {predicate : Predicate} {result : MatchResult}
    (evaluated : predicate.evaluateNode node = some result) : result.Tidy := by
  cases predicate with
  | leaf test =>
      cases node with
      | leaf value =>
          simp only [evaluateNode_leaf, LeafTest.evaluate, Option.ite_none_right_eq_some,
            Option.some.injEq] at evaluated
          rw [← evaluated.2]
          exact MatchResult.tidy_record MatchResult.tidy_empty test.key value.render
      | _ => simp [LeafTest.evaluate] at evaluated
  | within step inner =>
      rw [evaluateNode_within] at evaluated
      exact tidy_union evaluated
  | all children =>
      rw [evaluateNode_all] at evaluated
      exact tidy_evaluateAll MatchResult.tidy_empty evaluated
  | any children =>
      rw [evaluateNode_any] at evaluated
      exact tidy_union evaluated
  | without must mustNot =>
      rw [evaluateNode_without] at evaluated
      cases outcome : must.evaluateNode node with
      | none => simp [outcome] at evaluated
      | some found =>
          have foundTidy : found.Tidy := tidy_evaluateNode outcome
          cases excluded : mustNot.evaluateNode node with
          | none =>
              simp only [outcome, excluded, Option.some.injEq] at evaluated
              exact evaluated ▸ foundTidy
          | some _ => simp [outcome, excluded] at evaluated

end Forms

end Predicate

end RecordSearch
