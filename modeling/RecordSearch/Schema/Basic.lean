import RecordSearch.Schema.Path
import RecordSearch.SortedTable
import RecordSearch.Text.Case

/-!
# Schemas

A schema says for a label which path it stands for.  Labels that differ in
case only are one label, spelled as it was registered first.  The first
registration also fixes the steps: a later one with the same steps adds its
kinds of leaves, and one with other steps changes nothing.
-/

namespace RecordSearch

/-- A label as it was first written, and its path. -/
structure LabelEntry where
  label : Text
  path : FieldPath
deriving DecidableEq

/-- The labels of a type, under their lowercase forms. -/
structure Schema where
  typeName : Text
  fields : SortedTable LabelEntry := .empty

/-- A label together with a path to register it at. -/
structure Registration where
  label : Text
  path : FieldPath
deriving DecidableEq

namespace Schema

/-- What is registered for a label, in any case. -/
def lookup? (schema : Schema) (label : Text) : Option LabelEntry :=
  schema.fields.find? (Text.lower label)

/-- The path of a label, in any case. -/
def get? (schema : Schema) (label : Text) : Option FieldPath :=
  (schema.lookup? label).map (·.path)

/-- The labels as they were first written, in the order of their lowercase forms. -/
def labels (schema : Schema) : List Text :=
  schema.fields.values.map (·.label)

def size (schema : Schema) : Nat :=
  schema.fields.size

/-- What a label stands for after a registration. -/
def registered (registration : Registration) : Option LabelEntry → LabelEntry
  | none => { label := registration.label, path := registration.path }
  | some entry =>
      if entry.path.steps = registration.path.steps then
        { entry with path := registration.path.leaves.foldl FieldPath.orLeaf entry.path }
      else
        entry

def register (schema : Schema) (registration : Registration) : Schema :=
  { schema with
    fields := schema.fields.alter (Text.lower registration.label) (registered registration) }

def registerAll (schema : Schema) (registrations : List Registration) : Schema :=
  registrations.foldl register schema

def build (typeName : Text) (registrations : List Registration) : Schema :=
  ({ typeName } : Schema).registerAll registrations

def conflict? (schema : Schema) (registration : Registration) : Option FieldPath :=
  match schema.get? registration.label with
  | some kept => if kept.steps = registration.path.steps then none else some kept
  | none => none

end Schema

end RecordSearch
