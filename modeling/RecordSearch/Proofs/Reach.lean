import RecordSearch.Proofs.Evaluation

/-!
# Where steps lead

`Step.Leads` lists the ways from a node to a child, one rule for each, and
`Node.Reaches` follows some steps one after the other.  A predicate lifted
through steps holds where they reach a node at which the inner one holds, and
reports what that one reports at the nodes that they reach.
-/

namespace RecordSearch

namespace Step

/-- One step from a node to one of its children: to any item of a list, and to the key or the
value of any entry of a map.  A variant is entered only if its payload, perhaps behind one
indirection, is a record. -/
inductive Leads : Step → Node → Node → Prop where
  | field {name : Text} {fields : List (Text × Node)} :
      (Node.fieldNamed fields name).isAbsent = false →
      Leads (.field name) (.record fields) (Node.fieldNamed fields name)
  | pointer {target : Node} : Leads .pointer (.pointer (some target)) target
  | list {items : List Node} {item : Node} :
      item ∈ items →
      Leads .list (.list items) item
  | key {entries : List (Node × Node)} {key value : Node} :
      (key, value) ∈ entries →
      Leads .map (.map entries) key
  | value {entries : List (Node × Node)} {key value : Node} :
      (key, value) ∈ entries →
      Leads .map (.map entries) value
  | payload {name : Text} {fields : List (Text × Node)} :
      Leads (.variant name) (.variant name (some (.record fields))) (.record fields)
  | payloadBehind {name : Text} {fields : List (Text × Node)} :
      Leads (.variant name) (.variant name (some (.pointer (some (.record fields)))))
        (.record fields)

theorem leads_payload_unwrapped {name : Text} {payload : Node}
    (record : payload.unwrapped.isRecord = true) :
    Leads (.variant name) (.variant name (some payload)) payload.unwrapped := by
  cases payload with
  | record fields => exact .payload
  | pointer target =>
      cases target with
      | none => simp [Node.unwrapped, Node.isRecord] at record
      | some inner =>
          cases inner with
          | record fields => exact .payloadBehind
          | _ => simp [Node.unwrapped, Node.isRecord] at record
  | _ => simp [Node.unwrapped, Node.isRecord] at record

theorem mem_sides_iff {entries : List (Node × Node)} {side : Node} :
    side ∈ Node.sides entries ↔
      ∃ key value, (key, value) ∈ entries ∧ (side = key ∨ side = value) := by
  simp [Node.sides]

theorem leads_of_mem_children {step : Step} {node child : Node}
    (member : child ∈ step.children node) : step.Leads node child := by
  cases step with
  | field name =>
      cases node with
      | record fields =>
          simp only [children] at member
          split at member
          · exact absurd member List.not_mem_nil
          · rename_i present
            rw [List.mem_singleton.1 member]
            exact .field (by simpa using present)
      | _ => exact absurd member List.not_mem_nil
  | variant name =>
      cases node with
      | variant active payload =>
          cases payload with
          | none => exact absurd member List.not_mem_nil
          | some payload =>
              simp only [children] at member
              split at member
              · rename_i entered
                obtain ⟨rfl, record⟩ := entered
                rw [List.mem_singleton.1 member]
                exact leads_payload_unwrapped record
              · exact absurd member List.not_mem_nil
      | _ => exact absurd member List.not_mem_nil
  | pointer =>
      cases node with
      | pointer target =>
          cases target with
          | none => exact absurd member List.not_mem_nil
          | some target =>
              rw [List.mem_singleton.1 member]
              exact .pointer
      | _ => exact absurd member List.not_mem_nil
  | list =>
      cases node with
      | list items => exact .list member
      | _ => exact absurd member List.not_mem_nil
  | map =>
      cases node with
      | map entries =>
          obtain ⟨key, value, entry, rfl | rfl⟩ := mem_sides_iff.1 member
          · exact .key entry
          · exact .value entry
      | _ => exact absurd member List.not_mem_nil

theorem Leads.mem_children {step : Step} {node child : Node}
    (leads : step.Leads node child) : child ∈ step.children node := by
  cases leads with
  | field present => simp [children, present]
  | pointer => exact List.mem_singleton_self _
  | list member => exact member
  | key entry => exact mem_sides_iff.2 ⟨_, _, entry, .inl rfl⟩
  | value entry => exact mem_sides_iff.2 ⟨_, _, entry, .inr rfl⟩
  | payload => simp [children, Node.unwrapped, Node.isRecord]
  | payloadBehind => simp [children, Node.unwrapped, Node.isRecord]

theorem mem_children_iff {step : Step} {node child : Node} :
    child ∈ step.children node ↔ step.Leads node child :=
  ⟨leads_of_mem_children, Leads.mem_children⟩

end Step

namespace Node

/-- The steps lead from the node to the target. -/
inductive Reaches : List Step → Node → Node → Prop where
  | here {node : Node} : Reaches [] node node
  | step {step : Step} {steps : List Step} {node child target : Node} :
      step.Leads node child →
      Reaches steps child target →
      Reaches (step :: steps) node target

@[simp]
theorem reaches_nil_iff {node target : Node} : Reaches [] node target ↔ target = node := by
  constructor
  · intro reaches
    cases reaches
    rfl
  · intro equal
    subst equal
    exact .here

theorem reaches_cons_iff {step : Step} {steps : List Step} {node target : Node} :
    Reaches (step :: steps) node target ↔
      ∃ child, step.Leads node child ∧ Reaches steps child target := by
  constructor
  · intro reaches
    cases reaches with
    | step leads rest => exact ⟨_, leads, rest⟩
  · intro reached
    obtain ⟨child, leads, rest⟩ := reached
    exact .step leads rest

theorem reaches_append_iff {front back : List Step} {node target : Node} :
    Reaches (front ++ back) node target ↔
      ∃ between, Reaches front node between ∧ Reaches back between target := by
  induction front generalizing node with
  | nil => simp
  | cons step front induction =>
      simp only [List.cons_append, reaches_cons_iff, induction]
      constructor
      · rintro ⟨child, leads, between, reaches, rest⟩
        exact ⟨between, ⟨child, leads, reaches⟩, rest⟩
      · rintro ⟨between, ⟨child, leads, reaches⟩, rest⟩
        exact ⟨child, leads, between, reaches, rest⟩

end Node

namespace Predicate

variable {steps : List Step} {inner : Predicate} {node : Node} {key text : Text}

/-- What a step lifts to the children behind it, some steps lift to the nodes that they reach. -/
theorem lifted_wrap_iff (Lifted : Predicate → Node → Prop)
    (lifted_within_iff : ∀ step inner node,
      Lifted (within step inner) node ↔ ∃ child ∈ step.children node, Lifted inner child) :
    Lifted (wrap steps inner) node ↔
      ∃ target, Node.Reaches steps node target ∧ Lifted inner target := by
  induction steps generalizing node with
  | nil => simp [wrap]
  | cons step steps induction =>
      change Lifted (within step (wrap steps inner)) node ↔ _
      rw [lifted_within_iff]
      constructor
      · intro found
        obtain ⟨child, member, lifted⟩ := found
        obtain ⟨target, reaches, lifted⟩ := induction.1 lifted
        exact ⟨target, .step (Step.mem_children_iff.1 member) reaches, lifted⟩
      · intro found
        obtain ⟨target, reaches, lifted⟩ := found
        obtain ⟨child, leads, rest⟩ := Node.reaches_cons_iff.1 reaches
        exact ⟨child, Step.mem_children_iff.2 leads, induction.2 ⟨target, rest, lifted⟩⟩

theorem holdsAt_wrap_iff :
    (wrap steps inner).HoldsAt node ↔
      ∃ target, Node.Reaches steps node target ∧ inner.HoldsAt target :=
  lifted_wrap_iff HoldsAt fun _ _ _ => holdsAt_within_iff

theorem reportsAt_wrap_iff :
    (wrap steps inner).ReportsAt node key text ↔
      ∃ target, Node.Reaches steps node target ∧ inner.ReportsAt target key text :=
  lifted_wrap_iff (fun predicate node => predicate.ReportsAt node key text)
    fun _ _ _ => reportsAt_within_iff

theorem holdsAt_wrap_leaf_iff {test : LeafTest} :
    (wrap steps (.leaf test)).HoldsAt node ↔
      ∃ value, Node.Reaches steps node (.leaf value) ∧ test.accepts value = true := by
  rw [holdsAt_wrap_iff]
  simp only [holdsAt_leaf_iff]
  constructor
  · intro found
    obtain ⟨_, reaches, value, rfl, accepted⟩ := found
    exact ⟨value, reaches, accepted⟩
  · intro found
    obtain ⟨value, reaches, accepted⟩ := found
    exact ⟨_, reaches, value, rfl, accepted⟩

theorem reportsAt_wrap_leaf_iff {test : LeafTest} :
    (wrap steps (.leaf test)).ReportsAt node key text ↔
      ∃ value, Node.Reaches steps node (.leaf value) ∧ test.accepts value = true ∧
        key = test.key ∧ text = value.render := by
  rw [reportsAt_wrap_iff]
  simp only [reportsAt_leaf_iff]
  constructor
  · intro found
    obtain ⟨_, reaches, value, rfl, reported⟩ := found
    exact ⟨value, reaches, reported⟩
  · intro found
    obtain ⟨value, reaches, reported⟩ := found
    exact ⟨_, reaches, value, rfl, reported⟩

section Places

variable {Place : Type} {Placed : Place → Value → Prop} {test : LeafTest}

/-- If the steps reach the leaves at certain places, a test behind the steps holds if it accepts a
leaf at one of these places. -/
theorem holdsAt_wrap_leaf_iff_placed
    (placed : ∀ value, Node.Reaches steps node (.leaf value) ↔ ∃ place, Placed place value) :
    (wrap steps (.leaf test)).HoldsAt node ↔
      ∃ place value, Placed place value ∧ test.accepts value = true := by
  rw [holdsAt_wrap_leaf_iff]
  simp only [placed]
  constructor
  · intro found
    obtain ⟨value, ⟨place, lies⟩, accepted⟩ := found
    exact ⟨place, value, lies, accepted⟩
  · intro found
    obtain ⟨place, value, lies, accepted⟩ := found
    exact ⟨value, ⟨place, lies⟩, accepted⟩

/-- If the steps reach the leaves at certain places, a test behind the steps reports the texts of
those that it accepts. -/
theorem reportsAt_wrap_leaf_iff_placed
    (placed : ∀ value, Node.Reaches steps node (.leaf value) ↔ ∃ place, Placed place value) :
    (wrap steps (.leaf test)).ReportsAt node key text ↔
      key = test.key ∧
        ∃ place value, Placed place value ∧ test.accepts value = true ∧ text = value.render := by
  rw [reportsAt_wrap_leaf_iff]
  simp only [placed]
  constructor
  · intro found
    obtain ⟨value, ⟨place, lies⟩, accepted, listed, rendered⟩ := found
    exact ⟨listed, place, value, lies, accepted, rendered⟩
  · intro found
    obtain ⟨listed, place, value, lies, accepted, rendered⟩ := found
    exact ⟨value, ⟨place, lies⟩, accepted, listed, rendered⟩

end Places

end Predicate

end RecordSearch
