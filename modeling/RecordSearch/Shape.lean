import RecordSearch.Value

/-!
# Shapes of types

A shape describes a type once for all of its values.  Records and sums are
kept in a table and referred to by name, so that types may contain each other.
-/

namespace RecordSearch

inductive Shape
  | leaf (kind : LeafKind)
  | pointer (target : Shape)
  | list (item : Shape)
  | map (key value : Shape)
  /-- A record or a sum of the table of types. -/
  | named (reference : Text)
  /-- A type that a search cannot look into. -/
  | hidden

namespace Shape

/-- The shape without one indirection around it. -/
def unwrapped : Shape → Shape
  | .pointer target => target
  | shape => shape

end Shape

/-- A field of a record; its label applies to the leaves in its containers. -/
structure FieldShape where
  name : Text
  label : Option Text := none
  shape : Shape

/-- A variant of a sum; a variant without payload carries nothing. -/
structure VariantShape where
  name : Text
  payload : Option Shape := none

/-- What a type of the table consists of. -/
inductive TypeBody
  | record (fields : List FieldShape)
  | variants (variants : List VariantShape)

/-- A type of the table.  The type name tells apart the types that a walk has entered. -/
structure TypeDefinition where
  typeName : Text
  body : TypeBody

/-- The types that shapes refer to. -/
structure TypeTable where
  definitions : List (Text × TypeDefinition) := []

namespace TypeTable

def find? (table : TypeTable) (reference : Text) : Option TypeDefinition :=
  (table.definitions.find? fun entry => entry.1 == reference).map (·.2)

def size (table : TypeTable) : Nat :=
  table.definitions.length

/-- The name of the record that a shape refers to. -/
def record? (table : TypeTable) : Shape → Option Text
  | .named reference =>
      match table.find? reference with
      | some { body := .record _, .. } => some reference
      | _ => none
  | _ => none

end TypeTable

class Shaped (α : Type) where
  /-- The shape of every value of the type. -/
  shape : Shape

end RecordSearch
