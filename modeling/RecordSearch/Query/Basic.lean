import RecordSearch.Text.Basic

/-!
# Queries

A query is a tree of conditions under conjunctions, disjunctions and
exclusions.  The constructors in lower case keep it in collapsed form: a group
without children is the empty query, and a group of one child is that child.
-/

namespace RecordSearch

/-- The condition that a field with some label has a value described by a literal. -/
structure FieldMatch where
  label : Text
  value : Text
  /-- Whether the match is to be shown to the reader of the results. -/
  highlight : Bool := false
deriving DecidableEq, Repr

inductive Condition
  | field (field : FieldMatch)
  /-- Conditions that have to hold within one nested element. -/
  | linked (fields : List FieldMatch)
  /-- Membership in a list of documents, which only an index can decide. -/
  | documents (identifiers : List Text)
  | nothing
deriving DecidableEq, Repr

inductive Query
  | conjunction (children : List Query)
  | disjunction (children : List Query)
  /-- Every query of `must` holds, and none of `mustNot`. -/
  | boolean (must mustNot : List Query)
  | base (condition : Condition)
  | empty
deriving Repr

namespace Query

/-- Wraps some queries, unless there are fewer than two. -/
def collapse (wrap : List Query → Query) : List Query → Query
  | [] => .empty
  | [query] => query
  | queries => wrap queries

def allOf (queries : List Query) : Query :=
  collapse .conjunction queries

def anyOf (queries : List Query) : Query :=
  collapse .disjunction queries

def matchField (label value : Text) : Query :=
  .base (.field { label, value })

/-- The condition that a field matches one of some values. -/
def matchAny (label : Text) (values : List Text) : Query :=
  anyOf (values.map (matchField label))

/-- Conditions that have to hold within one nested element. -/
def matchLinked (fields : List FieldMatch) : Query :=
  .base (.linked fields)

/-- The query that holds exactly where another does not. -/
def negate (query : Query) : Query :=
  .boolean [] [query]

def isEmpty : Query → Bool
  | .empty => true
  | _ => false

end Query

end RecordSearch
