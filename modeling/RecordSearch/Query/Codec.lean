import RecordSearch.Json
import RecordSearch.Query.Basic

/-!
# Queries as JSON

A query is written as an object with one member, whose name says what the
query is; the empty query is its name alone.  Reading accepts a little more
than is written: a form without data may be an object with the value null, the
parts of a field condition may stand in an array, the mark for highlighting
may be missing, and members that mean nothing are skipped.  A member that means
something stands only once.

Queries are read from values that are already in memory, and straight from
texts.  The two differ in one form: a text may have the two lists of a boolean
query in an array.  A limit to how deep the values of a text may nest belongs
to the reader of the text, not to queries, and is taken as lifted.
-/

namespace RecordSearch

/-- What queries are read from. -/
inductive Json.Source
  | value
  | text
deriving DecidableEq

namespace FieldMatch

def toJson (field : FieldMatch) : Json :=
  .object [
    ("label".toList, .string field.label),
    ("value".toList, .string field.value),
    ("highlight".toList, .bool field.highlight)]

/-- Reads the label, the value and the mark of a field condition, which may be missing. -/
def ofParts? (label value : Json) : List Json → Option FieldMatch
  | [] => do return { label := ← label.text?, value := ← value.text? }
  | [mark] => do
      return { label := ← label.text?, value := ← value.text?, highlight := ← mark.bool? }
  | _ => none

/-- Reads a field condition from an object or from an array of its parts. -/
def ofJson? : Json → Option FieldMatch
  | .object members =>
      match Json.named "label".toList members, Json.named "value".toList members with
      | [label], [value] => ofParts? label value (Json.named "highlight".toList members)
      | _, _ => none
  | .array (label :: value :: mark) => ofParts? label value mark
  | _ => none

end FieldMatch

namespace Condition

def toJson : Condition → Json
  | .field single => .object [("match_field".toList, single.toJson)]
  | .linked fields =>
      .object [("match_linked_fields".toList, .array (fields.map FieldMatch.toJson))]
  | .documents identifiers =>
      .object [("doc_ids".toList, .array (identifiers.map .string))]
  | .nothing => .string "match_none".toList

def ofJson? : Json → Option Condition
  | .string name => if name = "match_none".toList then some .nothing else none
  | .object [(name, body)] =>
      if name = "match_field".toList then
        (FieldMatch.ofJson? body).map .field
      else if name = "match_linked_fields".toList then
        match body with
        | .array items => (items.mapM FieldMatch.ofJson?).map .linked
        | _ => none
      else if name = "doc_ids".toList then
        body.texts?.map .documents
      else if name = "match_none".toList then
        match body with
        | .null => some .nothing
        | _ => none
      else
        none
  | _ => none

end Condition

namespace Query

mutual

def toJson : Query → Json
  | .conjunction children => .object [("conjunction".toList, .array (toJsonList children))]
  | .disjunction children => .object [("disjunction".toList, .array (toJsonList children))]
  | .boolean must mustNot =>
      .object [("boolean".toList, .object [
        ("must".toList, .array (toJsonList must)),
        ("must_not".toList, .array (toJsonList mustNot))])]
  | .base condition => .object [("base".toList, condition.toJson)]
  | .empty => .string "empty".toList

def toJsonList : List Query → List Json
  | [] => []
  | query :: queries => query.toJson :: toJsonList queries

end

@[simp]
theorem toJsonList_eq_map (queries : List Query) : toJsonList queries = queries.map toJson := by
  induction queries with
  | nil => rfl
  | cons query queries induction => simp [toJsonList, induction]

variable (source : Json.Source)

mutual

def ofJson? : Json → Option Query
  | .string name => if name = "empty".toList then some .empty else none
  | .object [(name, body)] =>
      if name = "conjunction".toList then
        (ofJsonArray? body).map .conjunction
      else if name = "disjunction".toList then
        (ofJsonArray? body).map .disjunction
      else if name = "boolean".toList then
        ofJsonBoolean? body
      else if name = "base".toList then
        (Condition.ofJson? body).map .base
      else if name = "empty".toList then
        match body with
        | .null => some .empty
        | _ => none
      else
        none
  | _ => none

def ofJsonArray? : Json → Option (List Query)
  | .array items => ofJsonList? items
  | _ => none

def ofJsonList? : List Json → Option (List Query)
  | [] => some []
  | item :: items => do
      let query ← ofJson? item
      let queries ← ofJsonList? items
      return query :: queries

/-- Reads the two lists of a boolean query. -/
def ofJsonBoolean? : Json → Option Query
  | .object members =>
      match ofJsonMembers "must".toList members, ofJsonMembers "must_not".toList members with
      | [must], [mustNot] => do return .boolean (← must) (← mustNot)
      | _, _ => none
  | .array [must, mustNot] =>
      if source = .text then do
        return .boolean (← ofJsonArray? must) (← ofJsonArray? mustNot)
      else
        none
  | _ => none

/-- Reads the arrays of queries in the members with a name. -/
def ofJsonMembers (name : Text) : List (Text × Json) → List (Option (List Query))
  | [] => []
  | (other, body) :: members =>
      if other = name then
        ofJsonArray? body :: ofJsonMembers name members
      else
        ofJsonMembers name members

end

@[simp]
theorem ofJsonList?_eq_mapM (items : List Json) :
    ofJsonList? source items = items.mapM (ofJson? source) := by
  induction items with
  | nil => rfl
  | cons item items induction => simp [ofJsonList?, induction]

theorem ofJsonMembers_eq_map (name : Text) (members : List (Text × Json)) :
    ofJsonMembers source name members = (Json.named name members).map (ofJsonArray? source) := by
  induction members with
  | nil => rfl
  | cons entry members induction =>
      obtain ⟨other, body⟩ := entry
      by_cases same : other = name <;> simp [ofJsonMembers, Json.named, same, induction]

end Query

end RecordSearch
