import Mathlib.Data.List.Induction
import RecordSearch.Proofs.Listing

/-!
# Merged results

Merging appends to the texts under each key those of another result that are new.  A tidy result is
given by the texts under its keys, in their order, and for these merging is associative and has the
empty result as its neutral element.
-/

namespace RecordSearch

namespace SortedTable

variable {α : Type} {table other : SortedTable α}

theorem nodup_entries (table : SortedTable α) : table.entries.Nodup := by
  refine table.sorted.imp fun before same => ?_
  rw [same, Text.precedes_irrefl] at before
  cases before

theorem eq_of_find?_eq (same : ∀ key, table.find? key = other.find? key) : table = other := by
  have members (entry : Text × α) : entry ∈ table.entries ↔ entry ∈ other.entries := by
    rw [← table.find?_eq_some_iff, ← other.find?_eq_some_iff, same]
  have permutation : table.entries.Perm other.entries :=
    (List.perm_ext_iff_of_nodup table.nodup_entries other.nodup_entries).2 members
  have equal : table.entries = other.entries := by
    refine permutation.eq_of_pairwise ?_ table.sorted other.sorted
    intro left right _ _ before behind
    have around := Text.precedes_trans before behind
    rw [Text.precedes_irrefl] at around
    cases around
  cases table
  cases other
  cases equal
  rfl

end SortedTable

namespace MatchResult

/-- The texts under a key in their order, none if the result lacks the key. -/
def texts (result : MatchResult) (key : Text) : List Text :=
  (result.get? key).getD []

/-- Adds some texts one after the other, each unless it is listed already. -/
def addAll (texts more : List Text) : List Text :=
  more.foldl addOnce texts

variable {result left right third : MatchResult} {key path value : Text}

section AddAll

variable {texts more others : List Text}

theorem addAll_concat : addAll texts (more ++ [value]) = addOnce (addAll texts more) value := by
  rw [addAll, List.foldl_append]
  rfl

theorem subset_addAll : more ⊆ addAll texts more := by
  induction more using List.reverseRecOn with
  | nil => exact List.nil_subset _
  | append_singleton more value induction =>
      rw [addAll_concat]
      intro text member
      rcases List.mem_append.1 member with earlier | last
      · exact mem_addOnce_iff.2 (.inl (induction earlier))
      · exact mem_addOnce_iff.2 (.inr (List.mem_singleton.1 last))

theorem addAll_addOnce : addAll texts (addOnce more value) = addOnce (addAll texts more) value := by
  by_cases known : value ∈ more
  · have listed : value ∈ addAll texts more := subset_addAll known
    rw [addOnce, if_pos known, addOnce, if_pos listed]
  · rw [addOnce, if_neg known, addAll_concat]

theorem addAll_addAll : addAll (addAll texts more) others = addAll texts (addAll more others) := by
  induction others using List.reverseRecOn with
  | nil => rfl
  | append_singleton others value induction =>
      rw [addAll_concat, addAll_concat, addAll_addOnce, induction]

theorem nil_addAll (distinct : texts.Nodup) : addAll [] texts = texts := by
  induction texts using List.reverseRecOn with
  | nil => rfl
  | append_singleton texts value induction =>
      obtain ⟨front, _, apart⟩ := List.nodup_append.1 distinct
      have fresh : value ∉ texts := fun member => apart value member value (by simp) rfl
      rw [addAll_concat, induction front, addOnce, if_neg fresh]

end AddAll

section Texts

theorem texts_record :
    (result.record path value).texts key =
      if key = path then addOnce (result.texts key) value else result.texts key := by
  by_cases same : key = path
  · subst same
    rw [if_pos rfl, texts, get?_record_self]
    rfl
  · rw [if_neg same, texts, get?_record_of_ne result value same]
    rfl

theorem texts_recordAll {values : List Text} :
    (result.recordAll path values).texts key =
      if key = path then addAll (result.texts key) values else result.texts key := by
  induction values generalizing result with
  | nil => exact (ite_self _).symm
  | cons value values induction =>
      change ((result.record path value).recordAll path values).texts key = _
      rw [induction, texts_record]
      by_cases same : key = path
      · simp only [same, if_true]
        rfl
      · simp only [same, if_false]

theorem texts_recordEntries {entries : List (Text × List Text)}
    (sorted : entries.Pairwise fun left right => Text.precedes left.1 right.1) :
    (entries.foldl (fun found entry => found.recordAll entry.1 entry.2) result).texts key =
      addAll (result.texts key)
        (((entries.find? fun entry => entry.1 == key).map (·.2)).getD []) := by
  induction entries generalizing result with
  | nil => rfl
  | cons entry entries induction =>
      obtain ⟨above, tailSorted⟩ := List.pairwise_cons.1 sorted
      rw [List.foldl_cons, induction tailSorted, texts_recordAll, List.find?_cons]
      by_cases same : key = entry.1
      · subst same
        rw [SortedTable.find?_eq_none_of_precedes above]
        simp [addAll]
      · have apart : (entry.1 == key) = false := beq_eq_false_iff_ne.2 (Ne.symm same)
        simp only [same, if_false, apart]

theorem texts_merge : (left.merge right).texts key = addAll (left.texts key) (right.texts key) :=
  texts_recordEntries right.table.sorted

theorem texts_empty : empty.texts key = [] :=
  rfl

theorem nodup_texts (tidy : result.Tidy) (key : Text) : (result.texts key).Nodup :=
  nodup_getD tidy key

theorem get?_eq_of_texts (tidy : result.Tidy) :
    result.get? key = if result.texts key = [] then none else some (result.texts key) := by
  unfold texts
  cases found : result.get? key with
  | none => rfl
  | some listed =>
      have nonempty := (tidy key listed found).1
      simp [nonempty]

theorem eq_of_texts_eq (leftTidy : left.Tidy) (rightTidy : right.Tidy)
    (same : ∀ key, left.texts key = right.texts key) : left = right := by
  have tables : left.table = right.table := by
    refine SortedTable.eq_of_find?_eq fun key => ?_
    change left.get? key = right.get? key
    rw [get?_eq_of_texts leftTidy, get?_eq_of_texts rightTidy, same]
  cases left
  cases right
  exact congrArg mk tables

end Texts

section Monoid

theorem empty_merge (tidy : result.Tidy) : empty.merge result = result := by
  refine eq_of_texts_eq (tidy_merge tidy_empty result) tidy fun key => ?_
  rw [texts_merge, texts_empty, nil_addAll (nodup_texts tidy key)]

theorem merge_empty : result.merge empty = result :=
  rfl

theorem merge_assoc (tidy : left.Tidy) :
    (left.merge right).merge third = left.merge (right.merge third) := by
  refine eq_of_texts_eq (tidy_merge (tidy_merge tidy right) third) (tidy_merge tidy _) fun key => ?_
  rw [texts_merge, texts_merge, texts_merge, texts_merge, addAll_addAll]

end Monoid

end MatchResult

end RecordSearch
