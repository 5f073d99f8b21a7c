import RecordSearch.Json
import RecordSearch.SortedTable

/-!
# Match results

What an evaluation found: for the wire path of a field the texts of the values
that matched, in the order in which they were found and each of them once.
-/

namespace RecordSearch

/-- The matched values under the wire paths of their fields. -/
structure MatchResult where
  table : SortedTable (List Text)

namespace MatchResult

def empty : MatchResult where
  table := .empty

/-- Adds a value at the end, unless it is listed already. -/
def addOnce (values : List Text) (value : Text) : List Text :=
  if value ∈ values then values else values ++ [value]

def record (result : MatchResult) (path value : Text) : MatchResult where
  table := result.table.alter path fun values => addOnce (values.getD []) value

def recordAll (result : MatchResult) (path : Text) (values : List Text) : MatchResult :=
  values.foldl (fun result value => result.record path value) result

/-- Lists everything that another result lists. -/
def merge (left right : MatchResult) : MatchResult :=
  right.table.entries.foldl (fun result entry => result.recordAll entry.1 entry.2) left

def get? (result : MatchResult) (path : Text) : Option (List Text) :=
  result.table.find? path

@[simp]
theorem get?_record_self (result : MatchResult) (path value : Text) :
    (result.record path value).get? path =
      some (addOnce ((result.get? path).getD []) value) := by
  simp [record, get?]

theorem get?_record_of_ne (result : MatchResult) {path other : Text} (value : Text)
    (different : other ≠ path) :
    (result.record path value).get? other = result.get? other :=
  SortedTable.find?_alter_of_ne result.table _ different

/-- The paths with their values, in the order of the paths. -/
def toList (result : MatchResult) : List (Text × List Text) :=
  result.table.entries

def size (result : MatchResult) : Nat :=
  result.table.size

def isEmpty (result : MatchResult) : Bool :=
  result.toList.isEmpty

instance : BEq MatchResult where
  beq left right := left.toList == right.toList

def toJson (result : MatchResult) : Json :=
  .object (result.toList.map fun entry =>
    (entry.1, .array (entry.2.map .string)))

def ofMembers? : List (Text × Json) → SortedTable (List Text) → Option (SortedTable (List Text))
  | [], table => some table
  | (path, values) :: members, table => do
      let values ← values.texts?
      ofMembers? members (table.alter path fun _ => values)

/-- Reads a result as it stands; a list may then repeat a value or be empty. -/
def ofJson? : Json → Option MatchResult
  | .object members => (ofMembers? members .empty).map MatchResult.mk
  | _ => none

end MatchResult

end RecordSearch
