import RecordSearch.Json
import RecordSearch.Query.Raw
import RecordSearch.Schema.Walk

/-!
# What is worth noting

Reading a query, building a schema and compiling a query never fail silently:
what they leave out is noted as an event.
-/

namespace RecordSearch

/-- Something that was left out or completed on the way. -/
inductive Event
  | malformedPair (skipped : RawQuery.SkippedPair)
  | unknownLabel (label typeName : Text)
  | labelConflict (typeName label : Text) (kept ignored : FieldPath)
  | ignoredLabel (label : Text)
  | ignoredPayload (variant : Text)
  | builtSchema (typeName : Text) (fields : Nat)

namespace Event

/-- How much an event matters. -/
def level : Event → Text
  | .labelConflict .. => "WARN".toList
  | .builtSchema .. => "TRACE".toList
  | _ => "DEBUG".toList

def message : Event → Text
  | .malformedPair _ => "dropping malformed query pair".toList
  | .unknownLabel _ _ => "unknown field label, clause matches every record".toList
  | .labelConflict .. => "label registered at more than one path".toList
  | .ignoredLabel _ => "label on a non-leaf field is ignored".toList
  | .ignoredPayload _ =>
      "variant payload is not a record; its contents are not searchable".toList
  | .builtSchema _ _ => "built field schema".toList

def details : Event → List (Text × Json)
  | .malformedPair skipped => [
      ("fragment".toList, .string skipped.fragment),
      ("reason".toList, .string skipped.reason.message)]
  | .unknownLabel label typeName => [
      ("label".toList, .string label),
      ("type_name".toList, .string typeName)]
  | .labelConflict typeName label kept ignored => [
      ("type_name".toList, .string typeName),
      ("label".toList, .string label),
      ("kept".toList, .string kept.render),
      ("ignored".toList, .string ignored.render)]
  | .ignoredLabel label => [("label".toList, .string label)]
  | .ignoredPayload variant => [("variant".toList, .string variant)]
  | .builtSchema typeName fields => [
      ("type_name".toList, .string typeName),
      ("fields".toList, .number fields 0)]

def toJson (event : Event) : Json :=
  .object (event.details ++ [
    ("level".toList, .string event.level),
    ("message".toList, .string event.message)])

end Event

namespace RawQuery

def events (options : Options) (raw : Text) : List Event :=
  (skippedPairs options raw).map .malformedPair

/-- The events of reading a raw query of which no text at all asks for everything. -/
def orEmptyEvents (raw : Text) : List Event :=
  if raw = [] then [] else events {} raw

end RawQuery

namespace Schema

/-- The event of a registration, if it conflicts with an earlier one. -/
def registrationEvents (schema : Schema) (registration : Registration) : List Event :=
  match schema.conflict? registration with
  | some kept =>
      [.labelConflict schema.typeName registration.label kept registration.path]
  | none => []

def buildEvents (schema : Schema) : List Registration → List Event
  | [] => []
  | registration :: registrations =>
      schema.registrationEvents registration ++
        buildEvents (schema.register registration) registrations

/-- The events of what a walk finds, in the order in which it finds it. -/
def findingEvents (schema : Schema) : List Finding → List Event
  | [] => []
  | .ignoredLabel label :: findings =>
      .ignoredLabel label :: findingEvents schema findings
  | .ignoredPayload variant :: findings =>
      .ignoredPayload variant :: findingEvents schema findings
  | .leaf label steps kind :: findings =>
      let registration : Registration := { label, path := { steps, leaf := kind } }
      schema.registrationEvents registration ++
        findingEvents (schema.register registration) findings

/-- The events of building the schema of a shape; the last one says that it is built. -/
def shapeEvents (typeName : Text) (table : TypeTable) (shape : Shape) : List Event :=
  findingEvents { typeName } (table.walk shape) ++
    [.builtSchema typeName (ofShape typeName table shape).size]

end Schema

end RecordSearch
