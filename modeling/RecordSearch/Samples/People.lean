import RecordSearch.Inspect

/-!
# Sample records: people and items

Two small record types with labels on texts, numbers, lists and the records of
a list.
-/

namespace RecordSearch.Samples

structure Person where
  name : Text := []
  tags : List Text := []
  age : UInt32 := 0

def Person.fields : List (FieldView Person) := [
  .labelled "name" "Name" (·.name),
  .labelled "tags" "Tag" (·.tags),
  .labelled "age" "Age" (·.age)]

instance : Shaped Person := ⟨.named "Person".toList⟩
instance : Inspectable Person := ⟨FieldView.node Person.fields⟩

structure Member where
  name : Text := []
  role : Text := []

def Member.fields : List (FieldView Member) := [
  .labelled "name" "Member" (·.name),
  .labelled "role" "Role" (·.role)]

instance : Shaped Member := ⟨.named "Member".toList⟩
instance : Inspectable Member := ⟨FieldView.node Member.fields⟩

structure Item where
  name : Text := []
  value : Int64 := 0
  active : Bool := false
  tags : List Text := []
  members : List Member := []

def Item.fields : List (FieldView Item) := [
  .labelled "name" "Name" (·.name),
  .labelled "value" "Value" (·.value),
  .labelled "active" "Active" (·.active),
  .labelled "tags" "Tag" (·.tags),
  .plain "members" (·.members)]

instance : Shaped Item := ⟨.named "Item".toList⟩
instance : Inspectable Item := ⟨FieldView.node Item.fields⟩

structure Tagged (α : Type) where
  value : α

def Tagged.fields {α : Type} [Inspectable α] [Shaped α] : List (FieldView (Tagged α)) := [
  .labelled "value" "Value" (·.value)]

instance {α : Type} [Inspectable α] [Shaped α] : Inspectable (Tagged α) :=
  ⟨FieldView.node Tagged.fields⟩

def peopleTypes : List (Text × TypeDefinition) := [
  FieldView.definition "Person" Person.fields,
  FieldView.definition "Member" Member.fields,
  FieldView.definition "Item" Item.fields]

def Person.schema : Schema :=
  .ofShape "Person".toList { definitions := peopleTypes } (Shaped.shape Person)

def Item.schema : Schema :=
  .ofShape "Item".toList { definitions := peopleTypes } (Shaped.shape Item)

end RecordSearch.Samples
