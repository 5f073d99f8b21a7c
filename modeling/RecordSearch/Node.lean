import RecordSearch.Value

/-!
# Records at run time

A node is the view of a value that a search walks through.  A record answers
to the names of its fields, and is absent under every other name.
-/

namespace RecordSearch

inductive Node
  | absent
  | leaf (value : Value)
  | record (fields : List (Text × Node))
  /-- An indirection, which may be unset. -/
  | pointer (target : Option Node)
  /-- The active variant of a sum with its payload, if it has one. -/
  | variant (name : Text) (payload : Option Node)
  | list (items : List Node)
  | map (entries : List (Node × Node))

namespace Node

def fieldNamed (fields : List (Text × Node)) (name : Text) : Node :=
  ((fields.find? fun entry => entry.1 == name).map (·.2)).getD .absent

/-- The field of a node with a name; only records have fields. -/
def field : Node → Text → Node
  | .record fields, name => fieldNamed fields name
  | _, _ => .absent

/-- Whether the node stands for a field that its record lacks. -/
def isAbsent : Node → Bool
  | .absent => true
  | _ => false

def isRecord : Node → Bool
  | .record _ => true
  | _ => false

def leaf? : Node → Option Value
  | .leaf value => some value
  | _ => none

/-- The node without one set indirection around it. -/
def unwrapped : Node → Node
  | .pointer (some target) => target
  | node => node

/-- The keys and values of some entries, each key before its value. -/
def sides (entries : List (Node × Node)) : List Node :=
  entries.flatMap fun entry => [entry.1, entry.2]

end Node

/-- The types whose values a search can walk through. -/
class Inspectable (α : Type) where
  /-- The view of a value. -/
  node : α → Node

instance : Inspectable Node where
  node := id

end RecordSearch
