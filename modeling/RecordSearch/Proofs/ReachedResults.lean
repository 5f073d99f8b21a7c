import RecordSearch.Proofs.ReportedLeaves

/-!
# The monoid of reached results

Results grow from the empty one by recorded texts and by merged results, which may be in any state.
All that is reached in this way is tidy, and on what is reached merging is an idempotent monoid that
is commutative up to the order of the texts under a key.
-/

namespace RecordSearch

inductive Change
  | record (path value : Text)
  /-- To merge a result as it was read, which may repeat a text or hold a key without texts. -/
  | merge (other : MatchResult)

namespace MatchResult

def changed (result : MatchResult) : Change → MatchResult
  | .record path value => result.record path value
  | .merge other => result.merge other

def reached (changes : List Change) : MatchResult :=
  changes.foldl changed empty

variable {result left right : MatchResult} {texts more : List Text} {key : Text}

theorem tidy_changed (tidy : result.Tidy) (change : Change) : (result.changed change).Tidy := by
  cases change with
  | record path value => exact tidy_record tidy path value
  | merge other => exact tidy_merge tidy other

theorem tidy_foldl_changed (tidy : result.Tidy) (changes : List Change) :
    (changes.foldl changed result).Tidy := by
  induction changes generalizing result with
  | nil => exact tidy
  | cons change changes induction => exact induction (tidy_changed tidy change)

theorem tidy_reached (changes : List Change) : (reached changes).Tidy :=
  tidy_foldl_changed tidy_empty changes

theorem addAll_eq_append (distinct : texts.Nodup) :
    addAll texts more = texts ++ (more.removeAll texts).eraseDups :=
  calc
    addAll texts more = addAll (addAll [] texts) more := by rw [nil_addAll distinct]
    _ = (texts ++ more).eraseDups := by rw [← addAll_append, nil_addAll_eq_eraseDups]
    _ = addAll [] texts ++ (more.removeAll texts).eraseDups := by
        rw [List.eraseDups_append, nil_addAll_eq_eraseDups]
    _ = texts ++ (more.removeAll texts).eraseDups := by rw [nil_addAll distinct]

theorem texts_merge_eq_append (tidy : left.Tidy) :
    (left.merge right).texts key =
      left.texts key ++ ((right.texts key).removeAll (left.texts key)).eraseDups := by
  rw [texts_merge, addAll_eq_append (nodup_texts tidy key)]

/-- A result has a key if it lists a text under it, and a tidy one only then. -/
theorem isSome_get?_iff (tidy : result.Tidy) :
    (result.get? key).isSome ↔ ∃ text, result.Lists key text := by
  constructor
  · intro present
    obtain ⟨listed, found⟩ := Option.isSome_iff_exists.1 present
    obtain ⟨text, member⟩ := List.exists_mem_of_ne_nil listed (tidy key listed found).1
    exact ⟨text, listed, found, member⟩
  · intro listing
    obtain ⟨_, listed, found, _⟩ := listing
    rw [found]
    rfl

theorem isSome_get?_merge_iff (tidy : left.Tidy) :
    ((left.merge right).get? key).isSome ↔
      (left.get? key).isSome ∨ ∃ listed, right.get? key = some listed ∧ listed ≠ [] := by
  have added : (∃ text, right.Lists key text) ↔
      ∃ listed, right.get? key = some listed ∧ listed ≠ [] := by
    constructor
    · intro listing
      obtain ⟨text, listed, found, member⟩ := listing
      exact ⟨listed, found, List.ne_nil_of_mem member⟩
    · intro held
      obtain ⟨listed, found, nonempty⟩ := held
      obtain ⟨text, member⟩ := List.exists_mem_of_ne_nil listed nonempty
      exact ⟨text, listed, found, member⟩
  rw [isSome_get?_iff (tidy_merge tidy right), isSome_get?_iff tidy, ← added, ← exists_or]
  simp only [lists_merge_iff]

theorem merge_self (tidy : result.Tidy) : result.merge result = result :=
  merge_eq_left tidy fun _ _ listed => listed

/-- The order of merging decides the order of the texts under a key and nothing else. -/
theorem texts_merge_perm (leftTidy : left.Tidy) (rightTidy : right.Tidy) (key : Text) :
    ((left.merge right).texts key).Perm ((right.merge left).texts key) := by
  refine (List.perm_ext_iff_of_nodup (nodup_texts (tidy_merge leftTidy right) key)
    (nodup_texts (tidy_merge rightTidy left) key)).2 fun text => ?_
  unfold texts
  rw [mem_getD_iff_lists, mem_getD_iff_lists, lists_merge_iff, lists_merge_iff, or_comm]

/-- The results that are reached from the empty one by recording texts and merging results of any
kind form an idempotent monoid under merging.  In each of them every key has a text and no text
stands twice under a key.  Merging anything into one of them appends under each key the other texts
that are new, each where it is met first, and adds the keys that have texts there.  On reached
results merging is associative, has the empty result as its neutral element, changes nothing when a
result is merged into itself, and lists the same texts under each key in either order. -/
theorem reached_results_merge_as_monoid (first second third : List Change) (other : MatchResult)
    (key : Text) :
    (reached first).Tidy ∧
      ((((reached first).merge other).get? key).isSome ↔
        ((reached first).get? key).isSome ∨
          ∃ listed, other.get? key = some listed ∧ listed ≠ []) ∧
      ((reached first).merge other).texts key =
        (reached first).texts key ++
          ((other.texts key).removeAll ((reached first).texts key)).eraseDups ∧
      ((reached first).merge (reached second)).merge (reached third) =
        (reached first).merge ((reached second).merge (reached third)) ∧
      empty.merge (reached first) = reached first ∧
      (reached first).merge empty = reached first ∧
      (reached first).merge (reached first) = reached first ∧
      (((reached first).merge (reached second)).texts key).Perm
        (((reached second).merge (reached first)).texts key) := by
  have firstTidy := tidy_reached first
  have secondTidy := tidy_reached second
  refine ⟨firstTidy, ?keys, ?values, ?assoc, ?left, ?right, ?self, ?swap⟩
  case keys => exact isSome_get?_merge_iff firstTidy
  case values => exact texts_merge_eq_append firstTidy
  case assoc => exact merge_assoc firstTidy
  case left => exact empty_merge firstTidy
  case right => exact merge_empty
  case self => exact merge_self firstTidy
  case swap => exact texts_merge_perm firstTidy secondTidy key

end MatchResult

end RecordSearch
