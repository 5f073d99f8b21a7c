import RecordSearch.Value

/-!
# Paths to fields

A path leads from a record to the leaves that a label stands for.  Its wire
path consists of the names on it, and its leaves may be of several kinds.
-/

namespace RecordSearch

/-- One step from a value to its children. -/
inductive Step
  | field (name : Text)
  | variant (name : Text)
  | pointer
  | list
  | map
deriving DecidableEq

namespace Step

def name? : Step → Option Text
  | .field name => some name
  | .variant name => some name
  | _ => none

/-- The longest common beginning of two lists of steps. -/
def shared : List Step → List Step → List Step
  | left :: lefts, right :: rights =>
      if left = right then left :: shared lefts rights else []
  | _, _ => []

end Step

/-- The steps to a field, and the kinds of leaves at their end. -/
structure FieldPath where
  steps : List Step
  /-- The kind that was registered first. -/
  leaf : LeafKind
  /-- The other kinds, in the order of their registration. -/
  others : List LeafKind := []
  distinct : (leaf :: others).Nodup := by simp
deriving DecidableEq

namespace FieldPath

def leaves (path : FieldPath) : List LeafKind :=
  path.leaf :: path.others

/-- Adds a kind of leaf, unless it is known already. -/
def orLeaf (path : FieldPath) (kind : LeafKind) : FieldPath :=
  if known : kind ∈ path.leaves then
    path
  else
    { path with
      others := path.others ++ [kind]
      distinct := by
        rw [← List.cons_append]
        exact List.nodup_append.2 ⟨path.distinct, by simp, by
          intro left member right
          simp only [List.mem_singleton]
          rintro rfl rfl
          exact known member⟩ }

@[simp]
theorem steps_orLeaf (path : FieldPath) (kind : LeafKind) :
    (path.orLeaf kind).steps = path.steps := by
  unfold orLeaf
  split <;> rfl

theorem leaves_orLeaf (path : FieldPath) (kind : LeafKind) :
    (path.orLeaf kind).leaves =
      if kind ∈ path.leaves then path.leaves else path.leaves ++ [kind] := by
  unfold orLeaf
  split <;> rfl

/-- The names on the path, joined with points. -/
def wirePath (path : FieldPath) : Text :=
  Text.join ['.'] (path.steps.filterMap Step.name?)

/-- The wire path with the kinds of its leaves in parentheses. -/
def render (path : FieldPath) : Text :=
  path.wirePath ++ " (".toList ++ Text.join ['|'] (path.leaves.map LeafKind.name) ++ [')']

def sharedSteps : List FieldPath → List Step
  | [] => []
  | path :: paths => paths.foldl (fun steps other => Step.shared steps other.steps) path.steps

def commonPrefixLength (paths : List FieldPath) : Nat :=
  (sharedSteps paths).length

end FieldPath

end RecordSearch
