import RecordSearch.Inspect

/-!
# Sample records: deployments

A record type that contains itself, with optional records, renamed and left
out fields, maps, ranked alternatives, and a sum whose variants carry records
behind a pointer, directly, or not at all.
-/

namespace RecordSearch.Samples

inductive Severity
  | low
  | medium
  | high
deriving DecidableEq, Repr

namespace Severity

def name : Severity → Text
  | .low => "Low".toList
  | .medium => "Medium".toList
  | .high => "CRITICAL".toList

def rank : Severity → Int
  | .low => 1
  | .medium => 2
  | .high => 3

def all : List Severity := [.low, .medium, .high]

end Severity

instance : Alternatives Severity where
  table := Severity.all.map fun severity => (severity.name, severity.rank)
  name := Severity.name
  rank := Severity.rank

structure Image where
  name : Text := []
  tag : Text := []

def Image.fields : List (FieldView Image) := [
  .labelled "name" "Image Name" (·.name),
  .labelled "tag" "Image Tag" (·.tag)]

instance : Shaped Image := ⟨.named "Image".toList⟩
instance : Inspectable Image := ⟨FieldView.node Image.fields⟩

/-- A container; a search does not see its scratch space. -/
structure Container where
  image : Option (Indirect Image) := none
  privileged : Bool := false
  ports : List UInt16 := []

def Container.fields : List (FieldView Container) := [
  .plain "image" (·.image),
  .labelled "privileged" "Privileged" (·.privileged),
  .labelled "containerPorts" "Port" (·.ports)]

instance : Shaped Container := ⟨.named "Container".toList⟩
instance : Inspectable Container := ⟨FieldView.node Container.fields⟩

structure HostPath where
  path : Text := []

def HostPath.fields : List (FieldView HostPath) := [
  .labelled "path" "Host Path" (·.path)]

instance : Shaped HostPath := ⟨.named "HostPath".toList⟩
instance : Inspectable HostPath := ⟨FieldView.node HostPath.fields⟩

structure Claim where
  name : Text := []

def Claim.fields : List (FieldView Claim) := [
  .labelled "name" "Claim Name" (·.name)]

instance : Shaped Claim := ⟨.named "Claim".toList⟩
instance : Inspectable Claim := ⟨FieldView.node Claim.fields⟩

inductive VolumeSource
  | emptyDirectory
  | hostPath (path : Indirect HostPath)
  | claim (claim : Claim)
  | size (bytes : UInt64)

def VolumeSource.variants : List VariantShape := [
  { name := "empty_dir".toList },
  { name := "host_path".toList, payload := some (Shaped.shape (Indirect HostPath)) },
  { name := "pvc".toList, payload := some (Shaped.shape Claim) },
  { name := "size".toList, payload := some (Shaped.shape UInt64) }]

instance : Shaped VolumeSource := ⟨.named "VolumeSource".toList⟩

instance : Inspectable VolumeSource where
  node
    | .emptyDirectory => .variant "empty_dir".toList none
    | .hostPath path => .variant "host_path".toList (some (Inspectable.node path))
    | .claim claim => .variant "pvc".toList (some (Inspectable.node claim))
    | .size bytes => .variant "size".toList (some (Inspectable.node bytes))

structure Deployment where
  name : Text := []
  severity : Severity := .low
  containers : List Container := []
  labels : Dictionary Text Text := ⟨[]⟩
  limits : Dictionary Text UInt32 := ⟨[]⟩
  volumes : List VolumeSource := []
  parent : Option Deployment := none

namespace Deployment

def ownFields : List (FieldView Deployment) := [
  .labelled "name" "Deployment" (·.name),
  .labelled "severity" "Severity" (·.severity),
  .plain "containers" (·.containers),
  .labelled "labels" "Label" (·.labels),
  .labelled "limits" "Limit" (·.limits),
  .plain "volumes" (·.volumes)]

/-- The view of a deployment; its parent lies behind two pointers. -/
def node : Deployment → Node
  | ⟨name, severity, containers, labels, limits, volumes, parent⟩ =>
      let own : Deployment :=
        { name, severity, containers, labels, limits, volumes }
      let parentNode :=
        match parent with
        | none => none
        | some deployment => some (.pointer (some deployment.node))
      .record (ownFields.map (fun field => (field.described.name, field.view own)) ++
        [("parent".toList, .pointer parentNode)])

/-- The description of the parent of a deployment. -/
def parentShape : FieldShape where
  name := "parent".toList
  shape := .pointer (.pointer (.named "Deployment".toList))

end Deployment

instance : Shaped Deployment := ⟨.named "Deployment".toList⟩
instance : Inspectable Deployment := ⟨Deployment.node⟩

def deploymentTypes : List (Text × TypeDefinition) := [
  FieldView.definition "Image" Image.fields,
  FieldView.definition "Container" Container.fields,
  FieldView.definition "HostPath" HostPath.fields,
  FieldView.definition "Claim" Claim.fields,
  ("VolumeSource".toList, {
    typeName := "VolumeSource".toList
    body := .variants VolumeSource.variants }),
  ("Deployment".toList, {
    typeName := "Deployment".toList
    body := .record
      (Deployment.ownFields.map (·.described) ++ [Deployment.parentShape]) })]

def Deployment.schema : Schema :=
  .ofShape "Deployment".toList { definitions := deploymentTypes } (Shaped.shape Deployment)

end RecordSearch.Samples
