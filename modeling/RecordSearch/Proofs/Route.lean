import RecordSearch.Schema.Walk
import Mathlib.Data.List.Nodup

/-!
# Routes to labelled leaves

A way through a shape is a list of turns, each of which knows its place in the
declaration.  A route is a way from a shape to a leaf that enters no type twice
and whose last field has a label.
-/

namespace RecordSearch

/-- One turn on a way through a shape.  Fields and variants are told apart by their positions,
as several of them may have one name. -/
inductive Turn
  | field (position : Nat) (field : FieldShape)
  | variant (position : Nat) (variant : VariantShape)
  | pointer
  | list
  | key
  | value

namespace Turn

def step : Turn → Step
  | .field _ declared => .field declared.name
  | .variant _ declared => .variant declared.name
  | .pointer => .pointer
  | .list => .list
  | .key => .map
  | .value => .map

/-- The steps along some turns.  The first indirection around a payload takes no step. -/
def steps : List Turn → List Step
  | [] => []
  | .variant _ declared :: .pointer :: turns => .variant declared.name :: steps turns
  | turn :: turns => turn.step :: steps turns

/-- The label that governs a leaf at the end of some turns: that of the last field, through the
pointers, lists and maps behind it. -/
def governing (carried : Option Text) : List Turn → Option Text
  | [] => carried
  | .field _ declared :: turns => governing declared.label turns
  | .variant _ _ :: turns => governing none turns
  | _ :: turns => governing carried turns

/-- The first turn comes before the second one in the declaration of a type. -/
inductive Before : Turn → Turn → Prop where
  | field {first second : Nat} {field other : FieldShape} :
      first < second →
      Before (.field first field) (.field second other)
  | variant {first second : Nat} {variant other : VariantShape} :
      first < second →
      Before (.variant first variant) (.variant second other)
  | sides : Before .key .value

@[simp]
theorem steps_field (position : Nat) (field : FieldShape) (turns : List Turn) :
    steps (.field position field :: turns) = .field field.name :: steps turns :=
  rfl

@[simp]
theorem steps_pointer (turns : List Turn) : steps (.pointer :: turns) = .pointer :: steps turns :=
  rfl

@[simp]
theorem steps_list (turns : List Turn) : steps (.list :: turns) = .list :: steps turns :=
  rfl

@[simp]
theorem steps_key (turns : List Turn) : steps (.key :: turns) = .map :: steps turns :=
  rfl

@[simp]
theorem steps_value (turns : List Turn) : steps (.value :: turns) = .map :: steps turns :=
  rfl

theorem steps_variant_pointer (position : Nat) (variant : VariantShape) (turns : List Turn) :
    steps (.variant position variant :: .pointer :: turns) =
      .variant variant.name :: steps turns :=
  rfl

theorem steps_variant {position : Nat} {variant : VariantShape} {turns : List Turn}
    (direct : ∀ rest, turns ≠ .pointer :: rest) :
    steps (.variant position variant :: turns) = .variant variant.name :: steps turns := by
  cases turns with
  | nil => rfl
  | cons turn rest =>
      cases turn with
      | pointer => exact absurd rfl (direct rest)
      | _ => rfl

theorem head?_steps_cons (turn : Turn) (turns : List Turn) :
    (steps (turn :: turns)).head? = some turn.step := by
  cases turn with
  | variant position variant =>
      by_cases behind : ∃ rest, turns = .pointer :: rest
      · obtain ⟨rest, rfl⟩ := behind
        rw [steps_variant_pointer]
        rfl
      · rw [steps_variant fun rest equal => behind ⟨rest, equal⟩]
        rfl
  | _ => rfl

theorem field_of_steps {turns : List Turn} {name : Text} {rest : List Step}
    (begins : steps turns = .field name :: rest) :
    ∃ position field following, turns = .field position field :: following := by
  cases turns with
  | nil => cases begins
  | cons turn following =>
      have taken := head?_steps_cons turn following
      rw [begins] at taken
      cases turn with
      | field position field => exact ⟨position, field, following, rfl⟩
      | _ => cases taken

end Turn

namespace TypeTable

/-- The turns lead through the shape to a leaf of the kind, and enter the types with the names.
A variant is passed only if its payload, perhaps behind one indirection, is a record. -/
inductive Way (table : TypeTable) : Shape → List Turn → List Text → LeafKind → Prop where
  | leaf {kind : LeafKind} : Way table (.leaf kind) [] [] kind
  | pointer {target : Shape} {turns : List Turn} {entered : List Text} {kind : LeafKind} :
      Way table target turns entered kind →
      Way table (.pointer target) (.pointer :: turns) entered kind
  | list {item : Shape} {turns : List Turn} {entered : List Text} {kind : LeafKind} :
      Way table item turns entered kind →
      Way table (.list item) (.list :: turns) entered kind
  | key {key value : Shape} {turns : List Turn} {entered : List Text} {kind : LeafKind} :
      Way table key turns entered kind →
      Way table (.map key value) (.key :: turns) entered kind
  | value {key value : Shape} {turns : List Turn} {entered : List Text} {kind : LeafKind} :
      Way table value turns entered kind →
      Way table (.map key value) (.value :: turns) entered kind
  | field {reference typeName : Text} {fields : List FieldShape} {position : Nat}
      {field : FieldShape} {turns : List Turn} {entered : List Text} {kind : LeafKind} :
      table.find? reference = some { typeName, body := .record fields } →
      fields[position]? = some field →
      Way table field.shape turns entered kind →
      Way table (.named reference) (.field position field :: turns) (typeName :: entered) kind
  | variant {reference typeName : Text} {variants : List VariantShape} {position : Nat}
      {variant : VariantShape} {payload : Shape} {turns : List Turn} {entered : List Text}
      {kind : LeafKind} :
      table.find? reference = some { typeName, body := .variants variants } →
      variants[position]? = some variant →
      variant.payload = some payload →
      (table.record? payload.unwrapped).isSome →
      Way table payload turns entered kind →
      Way table (.named reference) (.variant position variant :: turns) (typeName :: entered) kind

end TypeTable

/-- The turns to a leaf, the label that governs it, and its kind. -/
structure Route where
  turns : List Turn
  label : Text
  kind : LeafKind

namespace Route

def steps (route : Route) : List Step :=
  Turn.steps route.turns

def isFor (label : Text) (route : Route) : Bool :=
  Text.lower route.label == Text.lower label

def along (steps : List Step) (route : Route) : Bool :=
  route.steps == steps

/-- The first route comes before the second one, depth first in the order of declaration. -/
def Before (first second : Route) : Prop :=
  List.Lex Turn.Before first.turns second.turns

def after (front : List Turn) (route : Route) : Route :=
  { route with turns := front ++ route.turns }

def registration (route : Route) : Registration :=
  { label := route.label, path := { steps := route.steps, leaf := route.kind } }

end Route

namespace TypeTable

/-- The route leads from the shape to a labelled leaf and enters no type twice. -/
def IsRoute (table : TypeTable) (shape : Shape) (route : Route) : Prop :=
  ∃ entered, table.Way shape route.turns entered route.kind ∧ entered.Nodup ∧
    Turn.governing none route.turns = some route.label

/-- The rest of a route, behind turns that have opened some types and carry a label. -/
def RouteFrom (table : TypeTable) (opened : List Text) (carried : Option Text) (shape : Shape)
    (route : Route) : Prop :=
  ∃ entered, table.Way shape route.turns entered route.kind ∧ (opened ++ entered).Nodup ∧
    Turn.governing carried route.turns = some route.label

variable {table : TypeTable} {opened : List Text} {carried : Option Text} {route : Route}

theorem record?_eq_some_iff {shape : Shape} {reference : Text} :
    table.record? shape = some reference ↔
      shape = .named reference ∧
        ∃ typeName fields,
          table.find? reference = some { typeName, body := .record fields } := by
  cases shape with
  | named other =>
      simp only [record?]
      split
      · rename_i found
        constructor
        · intro same
          cases same
          exact ⟨rfl, _, _, found⟩
        · intro described
          obtain ⟨⟨⟩, _⟩ := described
          rfl
      · rename_i different
        constructor
        · intro same
          cases same
        · intro described
          obtain ⟨⟨⟩, typeName, fields, found⟩ := described
          exact absurd found (different typeName fields)
  | _ => simp [record?]

theorem routeFrom_leaf_iff {kind : LeafKind} (distinct : opened.Nodup) :
    table.RouteFrom opened carried (.leaf kind) route ↔
      ∃ label, carried = some label ∧ route = { turns := [], label, kind } := by
  constructor
  · intro continues
    obtain ⟨entered, way, _, governs⟩ := continues
    obtain ⟨turns, label, _⟩ := route
    cases way
    exact ⟨label, governs, rfl⟩
  · intro carries
    obtain ⟨label, rfl, rfl⟩ := carries
    exact ⟨[], .leaf, by simpa using distinct, rfl⟩

theorem routeFrom_pointer_iff {target : Shape} :
    table.RouteFrom opened carried (.pointer target) route ↔
      ∃ inner, table.RouteFrom opened carried target inner ∧
        route = inner.after [.pointer] := by
  constructor
  · intro continues
    obtain ⟨entered, way, distinct, governs⟩ := continues
    obtain ⟨_, label, kind⟩ := route
    cases way with
    | pointer rest => exact ⟨{ turns := _, label, kind }, ⟨entered, rest, distinct, governs⟩, rfl⟩
  · intro behind
    obtain ⟨inner, ⟨entered, way, distinct, governs⟩, rfl⟩ := behind
    exact ⟨entered, .pointer way, distinct, governs⟩

theorem routeFrom_list_iff {item : Shape} :
    table.RouteFrom opened carried (.list item) route ↔
      ∃ inner, table.RouteFrom opened carried item inner ∧ route = inner.after [.list] := by
  constructor
  · intro continues
    obtain ⟨entered, way, distinct, governs⟩ := continues
    obtain ⟨_, label, kind⟩ := route
    cases way with
    | list rest => exact ⟨{ turns := _, label, kind }, ⟨entered, rest, distinct, governs⟩, rfl⟩
  · intro behind
    obtain ⟨inner, ⟨entered, way, distinct, governs⟩, rfl⟩ := behind
    exact ⟨entered, .list way, distinct, governs⟩

theorem routeFrom_map_iff {key value : Shape} :
    table.RouteFrom opened carried (.map key value) route ↔
      (∃ inner, table.RouteFrom opened carried key inner ∧ route = inner.after [.key]) ∨
        ∃ inner, table.RouteFrom opened carried value inner ∧ route = inner.after [.value] := by
  constructor
  · intro continues
    obtain ⟨entered, way, distinct, governs⟩ := continues
    obtain ⟨_, label, kind⟩ := route
    cases way with
    | key rest =>
        exact .inl ⟨{ turns := _, label, kind }, ⟨entered, rest, distinct, governs⟩, rfl⟩
    | value rest =>
        exact .inr ⟨{ turns := _, label, kind }, ⟨entered, rest, distinct, governs⟩, rfl⟩
  · intro behind
    rcases behind with ⟨inner, ⟨entered, way, distinct, governs⟩, rfl⟩ |
      ⟨inner, ⟨entered, way, distinct, governs⟩, rfl⟩
    · exact ⟨entered, .key way, distinct, governs⟩
    · exact ⟨entered, .value way, distinct, governs⟩

theorem not_routeFrom_hidden : ¬table.RouteFrom opened carried .hidden route := by
  intro continues
  obtain ⟨entered, way, _⟩ := continues
  cases way

theorem RouteFrom.find? {reference : Text}
    (continues : table.RouteFrom opened carried (.named reference) route) :
    ∃ definition, table.find? reference = some definition ∧ definition.typeName ∉ opened := by
  obtain ⟨_, way, distinct, _⟩ := continues
  obtain ⟨turns, label, kind⟩ := route
  have fresh {typeName : Text} {entered : List Text}
      (distinct : (opened ++ typeName :: entered).Nodup) : typeName ∉ opened := fun member =>
    (List.nodup_cons.1 (List.nodup_middle.1 distinct)).1 (List.mem_append_left _ member)
  cases way with
  | field found => exact ⟨_, found, fresh distinct⟩
  | variant found => exact ⟨_, found, fresh distinct⟩

theorem routeFrom_record_iff {reference typeName : Text} {fields : List FieldShape}
    (found : table.find? reference = some { typeName, body := .record fields }) :
    table.RouteFrom opened carried (.named reference) route ↔
      ∃ position field, fields[position]? = some field ∧
        ∃ inner, table.RouteFrom (typeName :: opened) field.label field.shape inner ∧
          route = inner.after [.field position field] := by
  constructor
  · intro continues
    obtain ⟨_, way, distinct, governs⟩ := continues
    obtain ⟨_, label, kind⟩ := route
    cases way with
    | field foundToo declared rest =>
        cases found.symm.trans foundToo
        exact ⟨_, _, declared, { turns := _, label, kind },
          ⟨_, rest, List.nodup_middle.1 distinct, governs⟩, rfl⟩
    | variant foundToo => cases found.symm.trans foundToo
  · intro behind
    obtain ⟨position, field, declared, inner, ⟨entered, way, distinct, governs⟩, rfl⟩ := behind
    exact ⟨_, .field found declared way, List.nodup_middle.2 distinct, governs⟩

theorem routeFrom_variants_iff {reference typeName : Text} {variants : List VariantShape}
    (found : table.find? reference = some { typeName, body := .variants variants }) :
    table.RouteFrom opened carried (.named reference) route ↔
      ∃ position variant, variants[position]? = some variant ∧
        ∃ payload, variant.payload = some payload ∧ (table.record? payload.unwrapped).isSome ∧
          ∃ inner, table.RouteFrom (typeName :: opened) none payload inner ∧
            route = inner.after [.variant position variant] := by
  constructor
  · intro continues
    obtain ⟨_, way, distinct, governs⟩ := continues
    obtain ⟨_, label, kind⟩ := route
    cases way with
    | field foundToo => cases found.symm.trans foundToo
    | variant foundToo declared carries entered rest =>
        cases found.symm.trans foundToo
        exact ⟨_, _, declared, _, carries, entered, { turns := _, label, kind },
          ⟨_, rest, List.nodup_middle.1 distinct, governs⟩, rfl⟩
  · intro behind
    obtain ⟨position, variant, declared, payload, carries, record, inner, continues, rfl⟩ := behind
    obtain ⟨entered, way, distinct, governs⟩ := continues
    exact ⟨_, .variant found declared carries record way, List.nodup_middle.2 distinct, governs⟩

theorem RouteFrom.direct {reference : Text}
    (continues : table.RouteFrom opened carried (.named reference) route) (rest : List Turn) :
    route.turns ≠ .pointer :: rest := by
  obtain ⟨entered, way, _⟩ := continues
  intro equal
  rw [equal] at way
  cases way

end TypeTable

end RecordSearch
