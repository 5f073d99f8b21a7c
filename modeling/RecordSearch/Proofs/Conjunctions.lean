import RecordSearch.Proofs.Merging
import RecordSearch.Proofs.Reach

/-!
# Conjunctions with their results

A conjunction lists what its members list, one after the other.  What several members find can be
merged in groups, and a single member is as good as a conjunction of its own.
-/

namespace RecordSearch

namespace Predicate

variable {children front back : List Predicate} {node : Node} {found start : MatchResult}

theorem evaluateAll_append :
    evaluateAll (front ++ back) node found =
      (evaluateAll front node found).bind (evaluateAll back node) := by
  induction front generalizing found with
  | nil => rfl
  | cons child front induction =>
      rw [List.cons_append, evaluateAll_cons, evaluateAll_cons]
      cases child.evaluateNode node with
      | none => rfl
      | some result => exact induction

theorem evaluateAll_merge (tidy : found.Tidy) :
    evaluateAll children node (found.merge start) =
      (evaluateAll children node start).map found.merge := by
  induction children generalizing start with
  | nil => rfl
  | cons child children induction =>
      rw [evaluateAll_cons, evaluateAll_cons]
      cases child.evaluateNode node with
      | none => rfl
      | some result =>
          simp only [MatchResult.merge_assoc tidy]
          exact induction

theorem evaluateNode_all_append :
    (all (front ++ back)).evaluateNode node =
      ((all front).evaluateNode node).bind fun found =>
        ((all back).evaluateNode node).map found.merge := by
  rw [evaluateNode_all, evaluateNode_all, evaluateNode_all, evaluateAll_append]
  cases outcome : evaluateAll front node .empty with
  | none => rfl
  | some found =>
      have tidy : found.Tidy := tidy_evaluateAll MatchResult.tidy_empty outcome
      rw [Option.bind_some, Option.bind_some, ← evaluateAll_merge tidy, MatchResult.merge_empty]

theorem evaluateNode_all_singleton (predicate : Predicate) :
    (all [predicate]).evaluateNode = predicate.evaluateNode := by
  funext node
  rw [evaluateNode_all, evaluateAll_cons]
  cases outcome : predicate.evaluateNode node with
  | none => rfl
  | some result =>
      exact congrArg some (MatchResult.empty_merge (tidy_evaluateNode outcome))

theorem evaluateAll_map {other : Predicate → Predicate} {target : Node}
    (same : ∀ child ∈ children, (other child).evaluateNode node = child.evaluateNode target) :
    evaluateAll (children.map other) node found = evaluateAll children target found := by
  induction children generalizing found with
  | nil => rfl
  | cons child children induction =>
      obtain ⟨first, rest⟩ := List.forall_mem_cons.1 same
      rw [List.map_cons, evaluateAll_cons, evaluateAll_cons, first]
      cases child.evaluateNode target with
      | none => rfl
      | some result => exact induction rest

end Predicate

end RecordSearch
