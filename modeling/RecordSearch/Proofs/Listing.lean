import RecordSearch.MatchResult

/-!
# What a match result lists

A result is read through one relation: the texts that stand under a key.
Recording and merging are unions with respect to it.  They also keep a result
tidy, whatever is merged into it: no key is left without texts, and no text
stands twice under one key.
-/

namespace RecordSearch

namespace SortedTable

variable {α : Type}

theorem find?_eq_some_iff (table : SortedTable α) {key : Text} {value : α} :
    table.find? key = some value ↔ (key, value) ∈ table.entries := by
  obtain ⟨entries, sorted⟩ := table
  simp only [find?]
  induction entries with
  | nil => simp
  | cons head entries induction =>
      obtain ⟨above, tailSorted⟩ := List.pairwise_cons.1 sorted
      by_cases same : head.1 = key
      · have behind : (key, value) ∉ entries := by
          intro member
          have before := above (key, value) member
          rw [same, Text.precedes_irrefl] at before
          exact Bool.noConfusion before
        constructor
        · intro found
          simp only [List.find?_cons, same, beq_self_eq_true, Option.map_some,
            Option.some.injEq] at found
          rw [← same, ← found]
          exact List.mem_cons_self
        · intro member
          rcases List.mem_cons.1 member with equal | later
          · simp [← equal]
          · exact absurd later behind
      · have apart : (head.1 == key) = false := beq_eq_false_iff_ne.2 same
        have notHead : (key, value) ≠ head := by
          intro equal
          subst equal
          exact same rfl
        simp only [List.find?_cons, apart, List.mem_cons, notHead, false_or]
        exact induction tailSorted

end SortedTable

namespace MatchResult

/-- A text stands under a key of the result. -/
def Lists (result : MatchResult) (key text : Text) : Prop :=
  ∃ texts, result.get? key = some texts ∧ text ∈ texts

/-- Every key of the result has a text, and none of its texts stands there twice. -/
def Tidy (result : MatchResult) : Prop :=
  ∀ key texts, result.get? key = some texts → texts ≠ [] ∧ texts.Nodup

@[simp]
theorem get?_empty (key : Text) : empty.get? key = none := rfl

@[simp]
theorem not_lists_empty (key text : Text) : ¬empty.Lists key text := by
  simp [Lists]

theorem tidy_empty : empty.Tidy := by
  simp [Tidy]

theorem mem_addOnce_iff {texts : List Text} {added text : Text} :
    text ∈ addOnce texts added ↔ text ∈ texts ∨ text = added := by
  unfold addOnce
  split
  · rename_i known
    constructor
    · exact Or.inl
    · intro among
      rcases among with member | rfl
      · exact member
      · exact known
  · simp

theorem nodup_addOnce {texts : List Text} (added : Text) (distinct : texts.Nodup) :
    (addOnce texts added).Nodup := by
  unfold addOnce
  split
  · exact distinct
  · rename_i fresh
    refine List.nodup_append.2 ⟨distinct, by simp, ?_⟩
    intro text member other otherMember
    rw [List.mem_singleton.1 otherMember]
    intro equal
    subst equal
    exact fresh member

theorem mem_getD_iff_lists {result : MatchResult} {key text : Text} :
    text ∈ (result.get? key).getD [] ↔ result.Lists key text := by
  unfold Lists
  cases result.get? key <;> simp

theorem nodup_getD {result : MatchResult} (tidy : result.Tidy) (key : Text) :
    ((result.get? key).getD []).Nodup := by
  cases found : result.get? key with
  | none => simp
  | some texts => exact (tidy key texts found).2

theorem lists_record_iff {result : MatchResult} {path value key text : Text} :
    (result.record path value).Lists key text ↔
      result.Lists key text ∨ (key = path ∧ text = value) := by
  by_cases same : key = path
  · subst key
    have added : (result.record path value).Lists path text ↔
        text ∈ addOnce ((result.get? path).getD []) value := by
      simp [Lists]
    rw [added, mem_addOnce_iff, mem_getD_iff_lists]
    simp
  · simp [Lists, get?_record_of_ne result value same, same]

theorem tidy_record {result : MatchResult} (tidy : result.Tidy) (path value : Text) :
    (result.record path value).Tidy := by
  intro key texts found
  by_cases same : key = path
  · subst key
    rw [get?_record_self, Option.some.injEq] at found
    subst texts
    constructor
    · have member := mem_addOnce_iff.2 (Or.inr rfl : value ∈ (result.get? path).getD [] ∨ _)
      exact List.ne_nil_of_mem member
    · exact nodup_addOnce value (nodup_getD tidy path)
  · rw [get?_record_of_ne result value same] at found
    exact tidy key texts found

theorem lists_recordAll_iff {result : MatchResult} {path key text : Text}
    {values : List Text} :
    (result.recordAll path values).Lists key text ↔
      result.Lists key text ∨ (key = path ∧ text ∈ values) := by
  induction values generalizing result with
  | nil => simp [recordAll]
  | cons value values induction =>
      change ((result.record path value).recordAll path values).Lists key text ↔ _
      rw [induction, lists_record_iff, List.mem_cons, or_assoc, ← and_or_left]

theorem tidy_recordAll {result : MatchResult} (tidy : result.Tidy) (path : Text)
    (values : List Text) : (result.recordAll path values).Tidy := by
  induction values generalizing result with
  | nil => exact tidy
  | cons value values induction => exact induction (tidy_record tidy path value)

theorem lists_recordEntries_iff {result : MatchResult} {key text : Text}
    {entries : List (Text × List Text)} :
    (entries.foldl (fun found entry => found.recordAll entry.1 entry.2) result).Lists key text ↔
      result.Lists key text ∨ ∃ texts, (key, texts) ∈ entries ∧ text ∈ texts := by
  induction entries generalizing result with
  | nil => simp
  | cons entry entries induction =>
      obtain ⟨path, values⟩ := entry
      rw [List.foldl_cons, induction, lists_recordAll_iff, or_assoc]
      refine or_congr_right ?_
      constructor
      · intro either
        rcases either with ⟨rfl, member⟩ | ⟨texts, later, member⟩
        · exact ⟨values, List.mem_cons_self, member⟩
        · exact ⟨texts, List.mem_cons_of_mem _ later, member⟩
      · intro listed
        obtain ⟨texts, held, member⟩ := listed
        rcases List.mem_cons.1 held with equal | later
        · cases equal
          exact .inl ⟨rfl, member⟩
        · exact .inr ⟨texts, later, member⟩

@[simp]
theorem lists_merge_iff {left right : MatchResult} {key text : Text} :
    (left.merge right).Lists key text ↔ left.Lists key text ∨ right.Lists key text := by
  have held : right.Lists key text ↔
      ∃ texts, (key, texts) ∈ right.table.entries ∧ text ∈ texts := by
    simp only [Lists, get?, SortedTable.find?_eq_some_iff]
  rw [held]
  exact lists_recordEntries_iff

/-- Merging keeps a result tidy even if the other result is not. -/
theorem tidy_merge {left : MatchResult} (tidy : left.Tidy) (right : MatchResult) :
    (left.merge right).Tidy := by
  unfold merge
  generalize right.table.entries = entries
  induction entries generalizing left with
  | nil => exact tidy
  | cons entry entries induction => exact induction (tidy_recordAll tidy entry.1 entry.2)

end MatchResult

end RecordSearch
