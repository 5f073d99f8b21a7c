import RecordSearch.Event
import RecordSearch.Predicate.Basic
import RecordSearch.SearchError

/-!
# Compiling queries

A query is compiled against the schema of a type.  A label that the schema
does not know makes its condition hold everywhere.  The conditions of a linked
group are joined behind the steps that all of their paths share, so they have
to hold within one element there.

Compilation stops at the first condition that cannot be compiled, reading from
left to right.
-/

namespace RecordSearch

namespace FieldPath

def leafTest [PropertyTable] (path : FieldPath) (literal : Text) : Except SearchError LeafTest := do
  let matchers ← path.leaves.mapM fun kind =>
    match Matcher.compile kind literal with
    | some matcher => Except.ok (kind, matcher)
    | none => .error .malformedPattern
  return { key := path.wirePath, matchers }

end FieldPath

namespace Schema

section Compiling

variable [PropertyTable]

def compileField (schema : Schema) (field : FieldMatch) : Except SearchError Predicate :=
  match schema.get? field.label with
  | none => .ok .always
  | some path => do
      let test ← path.leafTest field.value
      return .wrap path.steps (.leaf test)

/-- The fields of a linked group with their paths, if the schema knows every label. -/
def resolveAll? (schema : Schema) (fields : List FieldMatch) :
    Option (List (FieldMatch × FieldPath)) :=
  fields.mapM fun field => (schema.get? field.label).map fun path => (field, path)

/-- The conditions of a linked group behind the steps that their paths share. -/
def compileResolved (fields : List (FieldMatch × FieldPath)) :
    Except SearchError Predicate := do
  let steps := FieldPath.sharedSteps (fields.map (·.2))
  let branches ← fields.mapM fun (field, path) => do
    let test ← path.leafTest field.value
    return Predicate.wrap (path.steps.drop steps.length) (.leaf test)
  return .wrap steps (.all branches)

/-- The conditions of a linked group. -/
def compileLinked (schema : Schema) (fields : List FieldMatch) :
    Except SearchError Predicate :=
  if fields = [] then
    .error .linkedWithoutFields
  else
    match schema.resolveAll? fields with
    | none => .ok .always
    | some resolved => compileResolved resolved

def compileCondition (schema : Schema) : Condition → Except SearchError Predicate
  | .field field => schema.compileField field
  | .linked fields => schema.compileLinked fields
  | .documents _ => .error .documents
  | .nothing => .ok .never

mutual

/-- A query inside another; the empty one has no place there. -/
def compileNested (schema : Schema) : Query → Except SearchError Predicate
  | .conjunction children => (compileList schema children).map .all
  | .disjunction children => (compileList schema children).map .any
  | .boolean must mustNot => do
      let must ← compileList schema must
      let mustNot ← compileList schema mustNot
      return .without (.all must) (.any mustNot)
  | .base condition => schema.compileCondition condition
  | .empty => .error .nestedEmpty

def compileList (schema : Schema) : List Query → Except SearchError (List Predicate)
  | [] => .ok []
  | query :: queries => do
      let predicate ← compileNested schema query
      let predicates ← compileList schema queries
      return predicate :: predicates

end

@[simp]
theorem compileList_eq_mapM (schema : Schema) (queries : List Query) :
    compileList schema queries = queries.mapM schema.compileNested := by
  induction queries with
  | nil => rfl
  | cons query queries induction => simp [compileList, induction]

/-- A whole query; the empty one holds everywhere. -/
def compile (schema : Schema) (query : Query) : Except SearchError Predicate :=
  if query.isEmpty then .ok .always else schema.compileNested query

def compileRaw (schema : Schema) (raw : Text) : Except SearchError Predicate :=
  match RawQuery.readStrict {} raw with
  | some query => schema.compile query
  | none => .error .emptyQuery

/-- Reads a raw query, of which no text at all asks for everything, and compiles it. -/
def compileRawOrEmpty (schema : Schema) (raw : Text) : Except SearchError Predicate :=
  match RawQuery.readOrEmpty raw with
  | some query => schema.compile query
  | none => .error .emptyQuery

/-- Reads a raw query that is being typed and compiles it. -/
def compileCompleting (schema : Schema) (raw : Text) : Except SearchError Predicate :=
  match RawQuery.readCompleting raw with
  | some (query, _) => schema.compile query
  | none => .error .emptyQuery

end Compiling

section Events

def lookupEvents (schema : Schema) (label : Text) : List Event :=
  match schema.get? label with
  | some _ => []
  | none => [.unknownLabel label schema.typeName]

/-- The events of compiling a condition; a linked group stops at its first unknown label. -/
def conditionEvents (schema : Schema) : Condition → List Event
  | .field field => schema.lookupEvents field.label
  | .linked fields => (fields.flatMap fun field => schema.lookupEvents field.label).take 1
  | _ => []

mutual

def queryEvents (schema : Schema) : Query → List Event
  | .conjunction children => listEvents schema children
  | .disjunction children => listEvents schema children
  | .boolean must mustNot => listEvents schema must ++ listEvents schema mustNot
  | .base condition => schema.conditionEvents condition
  | .empty => []

def listEvents (schema : Schema) : List Query → List Event
  | [] => []
  | query :: queries => queryEvents schema query ++ listEvents schema queries

end

@[simp]
theorem listEvents_eq_flatMap (schema : Schema) (queries : List Query) :
    listEvents schema queries = queries.flatMap schema.queryEvents := by
  induction queries with
  | nil => rfl
  | cons query queries induction => simp [listEvents, induction]

end Events

end Schema

end RecordSearch
