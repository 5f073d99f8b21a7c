import RecordSearch.Text.Order

/-!
# Tables in the order of their keys

A table holds at most one entry for a text and lists its entries by increasing
keys.  It can be changed at one key only, by a rule that sees what the key
holds so far.
-/

namespace RecordSearch

/-- A finite map from texts, in the order of its keys. -/
structure SortedTable (α : Type) where
  entries : List (Text × α)
  sorted : entries.Pairwise fun left right => Text.precedes left.1 right.1

namespace SortedTable

variable {α : Type}

def empty : SortedTable α where
  entries := []
  sorted := .nil

def find? (table : SortedTable α) (key : Text) : Option α :=
  (table.entries.find? fun entry => entry.1 == key).map (·.2)

def size (table : SortedTable α) : Nat :=
  table.entries.length

def values (table : SortedTable α) : List α :=
  table.entries.map (·.2)

/-- Changes what a sorted list holds under a key. -/
def alterEntries (key : Text) (change : Option α → α) :
    List (Text × α) → List (Text × α)
  | [] => [(key, change none)]
  | (other, value) :: entries =>
      if Text.precedes key other then
        (key, change none) :: (other, value) :: entries
      else if key = other then
        (key, change (some value)) :: entries
      else
        (other, value) :: alterEntries key change entries

theorem key_of_mem_alterEntries {key : Text} {change : Option α → α}
    {entries : List (Text × α)} {entry : Text × α}
    (member : entry ∈ alterEntries key change entries) :
    entry.1 = key ∨ entry ∈ entries := by
  induction entries with
  | nil => simp_all [alterEntries]
  | cons head entries induction =>
      unfold alterEntries at member
      grind

theorem alterEntries_sorted {key : Text} {change : Option α → α}
    {entries : List (Text × α)}
    (sorted : entries.Pairwise fun left right => Text.precedes left.1 right.1) :
    (alterEntries key change entries).Pairwise fun left right =>
      Text.precedes left.1 right.1 := by
  induction entries with
  | nil => simp [alterEntries]
  | cons head entries induction =>
      obtain ⟨above, tailSorted⟩ := List.pairwise_cons.1 sorted
      unfold alterEntries
      split
      · rename_i before
        refine List.pairwise_cons.2 ⟨?_, sorted⟩
        intro entry member
        rcases List.mem_cons.1 member with rfl | member
        · exact before
        · exact Text.precedes_trans before (above entry member)
      · rename_i notBefore
        split
        · rename_i same
          exact List.pairwise_cons.2 ⟨fun entry member => same ▸ above entry member, tailSorted⟩
        · rename_i different
          refine List.pairwise_cons.2 ⟨?_, induction tailSorted⟩
          intro entry member
          rcases key_of_mem_alterEntries member with same | member
          · rw [same]
            exact Text.precedes_of_not_precedes (Ne.symm different) notBefore
          · exact above entry member

def alter (table : SortedTable α) (key : Text) (change : Option α → α) : SortedTable α where
  entries := alterEntries key change table.entries
  sorted := alterEntries_sorted table.sorted

theorem find?_eq_none_of_precedes {key : Text} {entries : List (Text × α)}
    (behind : ∀ entry ∈ entries, Text.precedes key entry.1) :
    (entries.find? fun entry => entry.1 == key) = none := by
  rw [List.find?_eq_none]
  intro entry member same
  have before := behind entry member
  rw [beq_iff_eq.1 same, Text.precedes_irrefl] at before
  exact Bool.noConfusion before

theorem find?_alterEntries_self {key : Text} {change : Option α → α}
    {entries : List (Text × α)}
    (sorted : entries.Pairwise fun left right => Text.precedes left.1 right.1) :
    ((alterEntries key change entries).find? fun entry => entry.1 == key) =
      some (key, change ((entries.find? fun entry => entry.1 == key).map (·.2))) := by
  induction entries with
  | nil => simp [alterEntries]
  | cons head entries induction =>
      obtain ⟨other, value⟩ := head
      obtain ⟨above, tailSorted⟩ := List.pairwise_cons.1 sorted
      unfold alterEntries
      split
      · rename_i before
        have absent : (((other, value) :: entries).find? fun entry => entry.1 == key) = none := by
          apply find?_eq_none_of_precedes
          intro entry member
          rcases List.mem_cons.1 member with rfl | member
          · exact before
          · exact Text.precedes_trans before (above entry member)
        rw [absent]
        simp
      · split
        · rename_i same
          simp [same]
        · rename_i different
          have apart : (other == key) = false := beq_eq_false_iff_ne.2 (Ne.symm different)
          simp only [List.find?_cons, apart]
          exact induction tailSorted

theorem find?_alterEntries_of_ne {key other : Text} {change : Option α → α}
    {entries : List (Text × α)} (different : other ≠ key) :
    ((alterEntries key change entries).find? fun entry => entry.1 == other) =
      entries.find? fun entry => entry.1 == other := by
  have apart : (key == other) = false := beq_eq_false_iff_ne.2 (Ne.symm different)
  induction entries with
  | nil => simp [alterEntries, apart]
  | cons head entries induction =>
      obtain ⟨held, value⟩ := head
      unfold alterEntries
      split
      · simp only [List.find?_cons, apart]
      · split
        · rename_i same
          subst held
          simp only [List.find?_cons, apart]
        · simp only [List.find?_cons, induction]

@[simp]
theorem find?_alter_self (table : SortedTable α) (key : Text) (change : Option α → α) :
    (table.alter key change).find? key = some (change (table.find? key)) := by
  simp [alter, find?, find?_alterEntries_self table.sorted]

theorem find?_alter_of_ne (table : SortedTable α) {key other : Text}
    (change : Option α → α) (different : other ≠ key) :
    (table.alter key change).find? other = table.find? other := by
  simp [alter, find?, find?_alterEntries_of_ne different]

end SortedTable

end RecordSearch
