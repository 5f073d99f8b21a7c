import RecordSearch.Query.Basic

/-!
# Building queries step by step

A builder collects groups that have to hold and groups that must not hold.
Once it is told to highlight, every field condition that it adds is marked.
-/

namespace RecordSearch

/-- The groups collected so far. -/
structure QueryBuilder where
  must : List Query := []
  mustNot : List Query := []
  highlight : Bool := false
deriving Repr

namespace QueryBuilder

/-- Marks the field conditions that are added from now on. -/
def highlighted (builder : QueryBuilder) : QueryBuilder :=
  { builder with highlight := true }

/-- The collapsed disjunction of one field condition for each value. -/
def fieldGroup (builder : QueryBuilder) (label : Text) (values : List Text) : Query :=
  Query.anyOf (values.map fun value =>
    .base (.field { label, value, highlight := builder.highlight }))

/-- Requires a field to match one of some values. -/
def addStrings (builder : QueryBuilder) (label : Text) (values : List Text) : QueryBuilder :=
  { builder with must := builder.must ++ [builder.fieldGroup label values] }

/-- Requires conditions to hold within one nested element. -/
def addLinked (builder : QueryBuilder) (fields : List FieldMatch) : QueryBuilder :=
  let marked := fields.map fun field =>
    { field with highlight := field.highlight || builder.highlight }
  { builder with must := builder.must ++ [Query.matchLinked marked] }

/-- Requires another query; the empty one requires nothing. -/
def addQuery (builder : QueryBuilder) (query : Query) : QueryBuilder :=
  if query.isEmpty then builder else { builder with must := builder.must ++ [query] }

/-- Excludes the records in which a field matches one of some values. -/
def exclude (builder : QueryBuilder) (label : Text) (values : List Text) : QueryBuilder :=
  { builder with mustNot := builder.mustNot ++ [builder.fieldGroup label values] }

def build (builder : QueryBuilder) : Query :=
  if builder.mustNot = [] then
    Query.allOf builder.must
  else
    .boolean builder.must builder.mustNot

inductive Step
  | highlighted
  | addStrings (label : Text) (values : List Text)
  | addLinked (fields : List FieldMatch)
  | addQuery (query : Query)
  | exclude (label : Text) (values : List Text)

def apply (builder : QueryBuilder) : Step → QueryBuilder
  | .highlighted => builder.highlighted
  | .addStrings label values => builder.addStrings label values
  | .addLinked fields => builder.addLinked fields
  | .addQuery query => builder.addQuery query
  | .exclude label values => builder.exclude label values

def applyAll (builder : QueryBuilder) (steps : List Step) : QueryBuilder :=
  steps.foldl apply builder

/-- The queries that are built at the start and after each step. -/
def states (builder : QueryBuilder) : List Step → List Query
  | [] => [builder.build]
  | step :: steps => builder.build :: states (builder.apply step) steps

end QueryBuilder

end RecordSearch
