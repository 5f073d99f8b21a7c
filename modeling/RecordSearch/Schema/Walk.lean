import RecordSearch.Schema.Basic
import RecordSearch.Shape

/-!
# The labelled leaves of a shape

A walk goes through a shape in the order of its declaration and lists what it
finds.  The label of a field applies to the leaves inside its pointers, lists
and maps.  A type that has been entered on the way is not entered again, so
the number of types bounds the depth of the walk.
-/

namespace RecordSearch

inductive Finding
  | leaf (label : Text) (steps : List Step) (kind : LeafKind)
  /-- A label on a record or a sum, which has leaves of its own. -/
  | ignoredLabel (label : Text)
  /-- A variant whose payload is no record and is not looked into. -/
  | ignoredPayload (variant : Text)
deriving DecidableEq

namespace Finding

/-- What is found at the end of one more step. -/
def under (step : Step) : Finding → Finding
  | .leaf label steps kind => .leaf label (step :: steps) kind
  | finding => finding

def registration? : Finding → Option Registration
  | .leaf label steps kind => some { label, path := { steps, leaf := kind } }
  | _ => none

end Finding

namespace Shape

/-- What a walk finds in a shape, given what it finds in the types that the shape refers to. -/
def findings (enter : Text → List Finding) (label : Option Text) : Shape → List Finding
  | .leaf kind =>
      match label with
      | some label => [.leaf label [] kind]
      | none => []
  | .pointer target => (findings enter label target).map (Finding.under .pointer)
  | .list item => (findings enter label item).map (Finding.under .list)
  | .map key value =>
      (findings enter label key ++ findings enter label value).map (Finding.under .map)
  | .named reference =>
      match label with
      | some label => .ignoredLabel label :: enter reference
      | none => enter reference
  | .hidden => []

end Shape

namespace TypeTable

def fieldFindings (enter : Text → List Finding) (field : FieldShape) : List Finding :=
  (field.shape.findings enter field.label).map (Finding.under (.field field.name))

/-- What a walk finds in a variant: its payload counts if it is a record or a pointer to one. -/
def variantFindings (table : TypeTable) (enter : Text → List Finding)
    (variant : VariantShape) : List Finding :=
  match variant.payload with
  | none => []
  | some payload =>
      match table.record? payload.unwrapped with
      | some reference => (enter reference).map (Finding.under (.variant variant.name))
      | none => [.ignoredPayload variant.name]

def bodyFindings (table : TypeTable) (enter : Text → List Finding) : TypeBody → List Finding
  | .record fields => fields.flatMap (fieldFindings enter)
  | .variants variants => variants.flatMap (table.variantFindings enter)

/-- What a walk finds in a type, given the type names that it has entered. -/
def typeFindings (table : TypeTable) : Nat → List Text → Text → List Finding
  | 0, _, _ => []
  | depth + 1, entered, reference =>
      (table.find? reference).elim [] fun definition =>
        if definition.typeName ∈ entered then
          []
        else
          table.bodyFindings (typeFindings table depth (definition.typeName :: entered))
            definition.body

section Types

variable {table : TypeTable} {depth : Nat} {entered : List Text} {reference : Text}

theorem typeFindings_succ :
    table.typeFindings (depth + 1) entered reference =
      (table.find? reference).elim [] fun definition =>
        if definition.typeName ∈ entered then
          []
        else
          table.bodyFindings (table.typeFindings depth (definition.typeName :: entered))
            definition.body :=
  rfl

theorem typeFindings_of_unknown (unknown : table.find? reference = none) :
    table.typeFindings (depth + 1) entered reference = [] := by
  rw [typeFindings_succ, unknown, Option.elim_none]

theorem typeFindings_of_entered {definition : TypeDefinition}
    (found : table.find? reference = some definition) (member : definition.typeName ∈ entered) :
    table.typeFindings (depth + 1) entered reference = [] := by
  rw [typeFindings_succ, found, Option.elim_some, if_pos member]

theorem typeFindings_of_fresh {definition : TypeDefinition}
    (found : table.find? reference = some definition) (fresh : definition.typeName ∉ entered) :
    table.typeFindings (depth + 1) entered reference =
      table.bodyFindings (table.typeFindings depth (definition.typeName :: entered))
        definition.body := by
  rw [typeFindings_succ, found, Option.elim_some, if_neg fresh]

end Types

def walk (table : TypeTable) (shape : Shape) : List Finding :=
  shape.findings (table.typeFindings table.size []) none

end TypeTable

namespace Schema

def ofShape (typeName : Text) (table : TypeTable) (shape : Shape) : Schema :=
  build typeName ((table.walk shape).filterMap Finding.registration?)

end Schema

end RecordSearch
