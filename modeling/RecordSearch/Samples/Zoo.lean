import RecordSearch.Samples.Deployments
import RecordSearch.Samples.People
import RecordSearch.Samples.Properties

/-!
# Sample records: one field of every kind

A record with every kind of number and container, with two labels that differ
in case only, and with renamed fields.
-/

namespace RecordSearch.Samples

structure Zoo where
  i8 : Int8 := 0
  i16 : Int16 := 0
  i32 : Int32 := 0
  i64 : Int64 := 0
  signedWord : Int64 := 0
  u8 : UInt8 := 0
  u16 : UInt16 := 0
  u32 : UInt32 := 0
  u64 : UInt64 := 0
  unsignedWord : UInt64 := 0
  f32 : Binary32 := .finite false .zero
  f64 : Binary64 := .finite false .zero
  flag : Bool := false
  text : Text := []
  optional : Option Text := none
  deep : Option (Option UInt8) := none
  boxed : Indirect Text := ⟨[]⟩
  shared : Indirect Text := ⟨[]⟩
  atomic : Indirect Text := ⟨[]⟩
  queue : List Int32 := []
  sorted : List Text := []
  hashed : List Text := []
  triple : List UInt8 := [0, 0, 0]
  grid : List (List Text) := []
  switches : Dictionary Text Bool := ⟨[]⟩
  levels : Dictionary Text Severity := ⟨[]⟩
  ranked : Dictionary Severity Binary64 := ⟨[]⟩
  buckets : Dictionary UInt32 (List Text) := ⟨[]⟩
  team : Dictionary Text Member := ⟨[]⟩
  type : Text := []
  duplicate : Text := []
  duplicateByte : UInt8 := 0
  size : UInt8 := 0

def Zoo.numberFields : List (FieldView Zoo) := [
  .labelled "i8" "I8" (·.i8),
  .labelled "i16" "I16" (·.i16),
  .labelled "i32" "I32" (·.i32),
  .labelled "i64" "I64" (·.i64),
  .labelled "isize" "ISize" (·.signedWord),
  .labelled "u8" "U8" (·.u8),
  .labelled "u16" "U16" (·.u16),
  .labelled "u32" "U32" (·.u32),
  .labelled "u64" "U64" (·.u64),
  .labelled "usize" "USize" (·.unsignedWord),
  .labelled "f32" "F32" (·.f32),
  .labelled "f64" "F64" (·.f64)]

def Zoo.containerFields : List (FieldView Zoo) := [
  .labelled "flag" "Flag" (·.flag),
  .labelled "text" "Static" (·.text),
  .labelled "opt" "Opt" (·.optional),
  .labelled "deep" "Deep" (·.deep),
  .labelled "boxed" "Boxed" (·.boxed),
  .labelled "rc" "Shared" (·.shared),
  .labelled "arc" "Atomic" (·.atomic),
  .labelled "queue" "Queue" (·.queue),
  .labelled "sorted" "Sorted" (·.sorted),
  .labelled "hashed" "Hashed" (·.hashed),
  .labelled "triple" "Triple" (·.triple),
  .labelled "grid" "Grid" (·.grid),
  .labelled "switches" "Switch" (·.switches),
  .labelled "levels" "Level" (·.levels),
  .labelled "ranked" "Ranked" (·.ranked),
  .labelled "buckets" "Bucket" (·.buckets),
  .labelled "team" "Team" (·.team),
  .labelled "type" "Type" (·.type),
  .labelled "first" "DUP" (·.duplicate),
  .labelled "second" "dup" (·.duplicateByte),
  .labelled "size" "Größe" (·.size)]

def Zoo.fields : List (FieldView Zoo) :=
  Zoo.numberFields ++ Zoo.containerFields

instance : Shaped Zoo := ⟨.named "Zoo".toList⟩
instance : Inspectable Zoo := ⟨FieldView.node Zoo.fields⟩

instance : Shaped (Tagged UInt8) := ⟨.named "TaggedNumber".toList⟩
instance : Shaped (Tagged Text) := ⟨.named "TaggedText".toList⟩
instance : Shaped (Tagged (Option Severity)) := ⟨.named "TaggedSeverity".toList⟩

def types : TypeTable where
  definitions := peopleTypes ++ deploymentTypes ++ [
    FieldView.definition "Zoo" Zoo.fields,
    FieldView.definition "TaggedNumber" (Tagged.fields : List (FieldView (Tagged UInt8))),
    FieldView.definition "TaggedText" (Tagged.fields : List (FieldView (Tagged Text))),
    FieldView.definition "TaggedSeverity"
      (Tagged.fields : List (FieldView (Tagged (Option Severity))))]

def schemaOf (α : Type) [Shaped α] : Schema :=
  Schema.ofShape [] types (Shaped.shape α)

end RecordSearch.Samples
