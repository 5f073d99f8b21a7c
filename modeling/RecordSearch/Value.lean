import RecordSearch.Number.Basic

/-!
# Leaf values and their kinds

A leaf of a record holds a text, a number, a truth value, or a choice from a
table of named alternatives.  The kind of a leaf says which of these it holds,
and for a choice also from which table.
-/

namespace RecordSearch

/-- What a leaf of a record holds. -/
inductive Value
  | string (text : Text)
  | number (amount : Number)
  | bool (truth : Bool)
  | choice (name : Text) (rank : Int)
deriving DecidableEq

namespace Value

/-- The text under which a matched value is reported. -/
def render : Value → Text
  | .string text => text
  | .number amount => amount.render
  | .bool true => "true".toList
  | .bool false => "false".toList
  | .choice name _ => name

end Value

/-- The kind of a leaf; a choice lists its names with their ranks. -/
inductive LeafKind
  | string
  | bool
  | number
  | choice (table : List (Text × Int))
deriving DecidableEq

namespace LeafKind

def name : LeafKind → Text
  | .string => "string".toList
  | .bool => "bool".toList
  | .number => "number".toList
  | .choice _ => "enum".toList

def accepts : LeafKind → Value → Bool
  | .string, .string _ => true
  | .bool, .bool _ => true
  | .number, .number _ => true
  | .choice _, .choice _ _ => true
  | _, _ => false

end LeafKind

end RecordSearch
