import RecordSearch.Node
import RecordSearch.Schema.Walk
import RecordSearch.Shape

/-!
# Views of ordinary types

Texts, truth values, numbers, named alternatives and the usual containers can
be walked through as soon as their parts can.  A record is described by its
fields: one list says under which names and labels they are found, of what
shape they are, and how they are read off a value.
-/

namespace RecordSearch

class Numeric (α : Type) where
  number : α → Number

instance : Numeric Int8 := ⟨fun integer => .signed integer.toInt64⟩
instance : Numeric Int16 := ⟨fun integer => .signed integer.toInt64⟩
instance : Numeric Int32 := ⟨fun integer => .signed integer.toInt64⟩
instance : Numeric Int64 := ⟨.signed⟩
instance : Numeric UInt8 := ⟨fun integer => .unsigned integer.toUInt64⟩
instance : Numeric UInt16 := ⟨fun integer => .unsigned integer.toUInt64⟩
instance : Numeric UInt32 := ⟨fun integer => .unsigned integer.toUInt64⟩
instance : Numeric UInt64 := ⟨.unsigned⟩
instance : Numeric Binary32 := ⟨fun value => .float value.convert⟩
instance : Numeric Binary64 := ⟨.float⟩

/-- The types whose values are alternatives with names and ranks. -/
class Alternatives (α : Type) where
  table : List (Text × Int)
  name : α → Text
  rank : α → Int

/-- A value behind an indirection that is always set. -/
structure Indirect (α : Type) where
  target : α

/-- Entries with distinct keys, in the order of the keys. -/
structure Dictionary (κ α : Type) where
  entries : List (κ × α)

namespace Dictionary

variable {κ α : Type}

def insertEntry (before : κ → κ → Bool) (key : κ) (value : α) :
    List (κ × α) → List (κ × α)
  | [] => [(key, value)]
  | (other, held) :: entries =>
      if before key other then
        (key, value) :: (other, held) :: entries
      else if before other key then
        (other, held) :: insertEntry before key value entries
      else
        (key, value) :: entries

/-- The dictionary of some entries; a later entry replaces an earlier one. -/
def ofList (before : κ → κ → Bool) (entries : List (κ × α)) : Dictionary κ α where
  entries := entries.foldl (fun held entry => insertEntry before entry.1 entry.2 held) []

def keys (dictionary : Dictionary κ α) : List κ :=
  dictionary.entries.map (·.1)

end Dictionary

instance (priority := high) : Inspectable Text := ⟨fun text => .leaf (.string text)⟩
instance (priority := high) : Shaped Text := ⟨.leaf .string⟩

instance : Inspectable Bool := ⟨fun truth => .leaf (.bool truth)⟩
instance : Shaped Bool := ⟨.leaf .bool⟩

instance {α : Type} [Numeric α] : Inspectable α :=
  ⟨fun value => .leaf (.number (Numeric.number value))⟩
instance {α : Type} [Numeric α] : Shaped α := ⟨.leaf .number⟩

instance {α : Type} [Alternatives α] : Inspectable α :=
  ⟨fun value => .leaf (.choice (Alternatives.name value) (Alternatives.rank value))⟩
instance {α : Type} [Alternatives α] : Shaped α :=
  ⟨.leaf (.choice (Alternatives.table α))⟩

instance {α : Type} [Inspectable α] : Inspectable (Option α) :=
  ⟨fun value => .pointer (value.map Inspectable.node)⟩
instance {α : Type} [Shaped α] : Shaped (Option α) := ⟨.pointer (Shaped.shape α)⟩

instance {α : Type} [Inspectable α] : Inspectable (Indirect α) :=
  ⟨fun value => .pointer (some (Inspectable.node value.target))⟩
instance {α : Type} [Shaped α] : Shaped (Indirect α) := ⟨.pointer (Shaped.shape α)⟩

instance {α : Type} [Inspectable α] : Inspectable (List α) :=
  ⟨fun items => .list (items.map Inspectable.node)⟩
instance {α : Type} [Shaped α] : Shaped (List α) := ⟨.list (Shaped.shape α)⟩

instance {κ α : Type} [Inspectable κ] [Inspectable α] : Inspectable (Dictionary κ α) :=
  ⟨fun dictionary => .map (dictionary.entries.map fun entry =>
    (Inspectable.node entry.1, Inspectable.node entry.2))⟩
instance {κ α : Type} [Shaped κ] [Shaped α] : Shaped (Dictionary κ α) :=
  ⟨.map (Shaped.shape κ) (Shaped.shape α)⟩

/-- A field of a record type: how it is described, and how it is read off a record. -/
structure FieldView (α : Type) where
  described : FieldShape
  view : α → Node

namespace FieldView

variable {α β : Type}

def labelled [Inspectable β] [Shaped β] (name label : String) (read : α → β) : FieldView α where
  described := { name := name.toList, label := some label.toList, shape := Shaped.shape β }
  view record := Inspectable.node (read record)

/-- A field without a label. -/
def plain [Inspectable β] [Shaped β] (name : String) (read : α → β) : FieldView α where
  described := { name := name.toList, shape := Shaped.shape β }
  view record := Inspectable.node (read record)

def node (fields : List (FieldView α)) (record : α) : Node :=
  .record (fields.map fun field => (field.described.name, field.view record))

def definition (typeName : String) (fields : List (FieldView α)) : Text × TypeDefinition :=
  (typeName.toList, { typeName := typeName.toList, body := .record (fields.map (·.described)) })

end FieldView

end RecordSearch
