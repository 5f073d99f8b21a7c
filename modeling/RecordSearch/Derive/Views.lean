import RecordSearch.Derive.Basic
import RecordSearch.Node
import RecordSearch.Shape

/-!
# Derived shapes and views

What is derived for a field or a variant becomes a part of the shape of its
type, where the types that it mentions have shapes of their own.  A value of a
described enumeration shows the name of its active variant.
-/

namespace RecordSearch

namespace Derive

def DerivedField.described (shapeOf : Text → Shape) (field : DerivedField) : FieldShape where
  name := field.name
  label := field.label
  shape := shapeOf field.type

def DerivedVariant.described (shapeOf : Text → Shape) (variant : DerivedVariant) :
    VariantShape where
  name := variant.name
  payload := variant.payload.map shapeOf

/-- The view of a value whose active variant this is. -/
def DerivedVariant.view (variant : DerivedVariant) (payload : Option Node) : Node :=
  .variant variant.name payload

end Derive

end RecordSearch
