import RecordSearch.Text.Basic

/-!
# JSON values

The values that queries and results are exchanged in.  Objects keep their
members in order, also those that have one name.
-/

namespace RecordSearch

/-- A JSON value; a number is `coefficient / 10 ^ decimals`. -/
inductive Json
  | null
  | bool (truth : Bool)
  | number (coefficient : Int) (decimals : Nat)
  | string (text : Text)
  | array (items : List Json)
  | object (members : List (Text × Json))
deriving Inhabited

namespace Json

def named (name : Text) (members : List (Text × Json)) : List Json :=
  (members.filter fun entry => entry.1 == name).map (·.2)

def text? : Json → Option Text
  | .string text => some text
  | _ => none

def bool? : Json → Option Bool
  | .bool truth => some truth
  | _ => none

def texts? : Json → Option (List Text)
  | .array items => items.mapM text?
  | _ => none

end Json

end RecordSearch
