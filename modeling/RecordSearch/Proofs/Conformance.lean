import RecordSearch.Proofs.Reach
import RecordSearch.Proofs.Route

/-!
# Nodes and their shapes

A node conforms to a shape if each of its parts has the form that the shape
describes.  A place of a leaf is a list of turns through the node and its shape
at once.  In a conforming node, the steps that reach a leaf are those along the
places where it lies.
-/

namespace RecordSearch

namespace Node

theorem exists_mem_of_present {fields : List (Text × Node)} {name : Text}
    (present : (fieldNamed fields name).isAbsent = false) :
    ∃ entry ∈ fields, entry.1 = name := by
  unfold fieldNamed at present
  cases found : fields.find? fun entry => entry.1 == name with
  | none =>
      rw [found] at present
      cases present
  | some entry =>
      exact ⟨entry, List.mem_of_find?_eq_some found, by simpa using List.find?_some found⟩

/-- A record that has one field has something at the name of that field only. -/
theorem eq_of_present_singleton {name other : Text} {node : Node}
    (present : (fieldNamed [(name, node)] other).isAbsent = false) : name = other := by
  obtain ⟨entry, among, rfl⟩ := exists_mem_of_present present
  rw [List.mem_singleton.1 among]

@[simp]
theorem fieldNamed_singleton (name : Text) (node : Node) :
    fieldNamed [(name, node)] name = node := by
  simp [fieldNamed]

theorem fieldNamed_of_mem {fields : List (Text × Node)} {entry : Text × Node}
    (distinct : (fields.map (·.1)).Nodup) (member : entry ∈ fields) :
    fieldNamed fields entry.1 = entry.2 := by
  have found : fields.find? (fun other => other.1 == entry.1) = some entry := by
    induction fields with
    | nil => cases member
    | cons first fields induction =>
        obtain ⟨fresh, distinct⟩ := List.nodup_cons.1 distinct
        rcases List.mem_cons.1 member with rfl | later
        · simp
        · have differs : (first.1 == entry.1) = false :=
            beq_false_of_ne fun same => fresh (List.mem_map.2 ⟨entry, later, same.symm⟩)
          rw [List.find?_cons_of_neg (by simp [differs]), induction distinct later]
  rw [fieldNamed, found]
  rfl

end Node

namespace Step

def EntersRecords : List Step → Prop
  | [] => True
  | .variant _ :: steps => (∃ name rest, steps = .field name :: rest) ∧ EntersRecords steps
  | _ :: steps => EntersRecords steps

end Step

namespace TypeTable

/-- The node has the form that the shape describes.  A field of a record may be absent, and fields
that the shape does not name are. -/
inductive Conforms (table : TypeTable) : Shape → Node → Prop where
  | leaf {kind : LeafKind} {value : Value} :
      kind.accepts value = true →
      Conforms table (.leaf kind) (.leaf value)
  | unset {target : Shape} : Conforms table (.pointer target) (.pointer none)
  | pointer {target : Shape} {node : Node} :
      Conforms table target node →
      Conforms table (.pointer target) (.pointer (some node))
  | list {item : Shape} {items : List Node} :
      (∀ node ∈ items, Conforms table item node) →
      Conforms table (.list item) (.list items)
  | map {key value : Shape} {entries : List (Node × Node)} :
      (∀ entry ∈ entries, Conforms table key entry.1) →
      (∀ entry ∈ entries, Conforms table value entry.2) →
      Conforms table (.map key value) (.map entries)
  | record {reference typeName : Text} {fields : List FieldShape} {nodes : List (Text × Node)} :
      table.find? reference = some { typeName, body := .record fields } →
      (∀ field ∈ fields, (Node.fieldNamed nodes field.name).isAbsent = false →
        Conforms table field.shape (Node.fieldNamed nodes field.name)) →
      (∀ name, (Node.fieldNamed nodes name).isAbsent = false →
        ∃ field ∈ fields, field.name = name) →
      Conforms table (.named reference) (.record nodes)
  | bare {reference typeName : Text} {variants : List VariantShape} {variant : VariantShape} :
      table.find? reference = some { typeName, body := .variants variants } →
      variant ∈ variants →
      variant.payload = none →
      Conforms table (.named reference) (.variant variant.name none)
  | variant {reference typeName : Text} {variants : List VariantShape} {variant : VariantShape}
      {payload : Shape} {node : Node} :
      table.find? reference = some { typeName, body := .variants variants } →
      variant ∈ variants →
      variant.payload = some payload →
      Conforms table payload node →
      Conforms table (.named reference) (.variant variant.name (some node))
  | hidden : Conforms table .hidden .absent

/-- The value of a leaf lies in the node at the end of the turns through the shape.  Payloads of
every shape are looked into, through each of their indirections. -/
inductive LiesAt (table : TypeTable) : Shape → Node → List Turn → Value → Prop where
  | leaf {kind : LeafKind} {value : Value} : LiesAt table (.leaf kind) (.leaf value) [] value
  | pointer {target : Shape} {node : Node} {turns : List Turn} {value : Value} :
      LiesAt table target node turns value →
      LiesAt table (.pointer target) (.pointer (some node)) (.pointer :: turns) value
  | list {item : Shape} {items : List Node} {node : Node} {turns : List Turn} {value : Value} :
      node ∈ items →
      LiesAt table item node turns value →
      LiesAt table (.list item) (.list items) (.list :: turns) value
  | key {key other : Shape} {entries : List (Node × Node)} {entry : Node × Node}
      {turns : List Turn} {value : Value} :
      entry ∈ entries →
      LiesAt table key entry.1 turns value →
      LiesAt table (.map key other) (.map entries) (.key :: turns) value
  | value {key other : Shape} {entries : List (Node × Node)} {entry : Node × Node}
      {turns : List Turn} {value : Value} :
      entry ∈ entries →
      LiesAt table other entry.2 turns value →
      LiesAt table (.map key other) (.map entries) (.value :: turns) value
  | field {reference typeName : Text} {fields : List FieldShape} {position : Nat}
      {field : FieldShape} {nodes : List (Text × Node)} {turns : List Turn} {value : Value} :
      table.find? reference = some { typeName, body := .record fields } →
      fields[position]? = some field →
      LiesAt table field.shape (Node.fieldNamed nodes field.name) turns value →
      LiesAt table (.named reference) (.record nodes) (.field position field :: turns) value
  | variant {reference typeName : Text} {variants : List VariantShape} {position : Nat}
      {variant : VariantShape} {payload : Shape} {node : Node} {turns : List Turn}
      {value : Value} :
      table.find? reference = some { typeName, body := .variants variants } →
      variants[position]? = some variant →
      variant.payload = some payload →
      LiesAt table payload node turns value →
      LiesAt table (.named reference) (.variant variant.name (some node))
        (.variant position variant :: turns) value

variable {table : TypeTable} {shape : Shape} {node : Node} {turns : List Turn} {value : Value}

theorem Conforms.singleton {reference typeName : Text} {fields : List FieldShape}
    {field : FieldShape}
    (found : table.find? reference = some { typeName, body := .record fields })
    (member : field ∈ fields) (unique : ∀ other ∈ fields, other.name = field.name → other = field)
    (conforms : table.Conforms field.shape node) :
    table.Conforms (.named reference) (.record [(field.name, node)]) := by
  refine .record found (fun other among present => ?_) fun name present => ?_
  · obtain rfl := unique other among (Node.eq_of_present_singleton present).symm
    rwa [Node.fieldNamed_singleton]
  · exact ⟨field, member, Node.eq_of_present_singleton present⟩

theorem Conforms.declares {reference typeName name : Text} {fields : List FieldShape}
    {rest : List Step} {target : Node}
    (conforms : table.Conforms (.named reference) node)
    (found : table.find? reference = some { typeName, body := .record fields })
    (reaches : node.Reaches (.field name :: rest) target) :
    ∃ field ∈ fields, field.name = name ∧ ∃ inner, table.Conforms field.shape inner ∧
      inner.Reaches rest target := by
  obtain ⟨child, leads, reaches⟩ := Node.reaches_cons_iff.1 reaches
  cases leads with
  | field present =>
      cases conforms with
      | record foundToo fieldsConform named =>
          cases found.symm.trans foundToo
          obtain ⟨field, member, rfl⟩ := named _ present
          exact ⟨field, member, rfl, _, fieldsConform field member present, reaches⟩

theorem Way.begins_with_field {entered : List Text} {kind : LeafKind}
    (record : (table.record? shape).isSome) (way : table.Way shape turns entered kind) :
    ∃ position field rest, turns = .field position field :: rest := by
  obtain ⟨reference, found⟩ := Option.isSome_iff_exists.1 record
  obtain ⟨rfl, _, _, found⟩ := record?_eq_some_iff.1 found
  cases way with
  | field => exact ⟨_, _, _, rfl⟩
  | variant foundToo => cases found.symm.trans foundToo

theorem Way.entersRecords {entered : List Text} {kind : LeafKind}
    (way : table.Way shape turns entered kind) : Step.EntersRecords (Turn.steps turns) := by
  induction way with
  | leaf => trivial
  | pointer _ induction => rwa [Turn.steps_pointer]
  | list _ induction => rwa [Turn.steps_list]
  | key _ induction => rwa [Turn.steps_key]
  | value _ induction => rwa [Turn.steps_value]
  | field _ _ _ induction => rwa [Turn.steps_field]
  | @variant _ _ _ position variant payload turns _ _ _ _ _ record way induction =>
      cases payload with
      | pointer target =>
          cases way with
          | pointer rest =>
              rw [Turn.steps_pointer] at induction
              rw [Turn.steps_variant_pointer]
              obtain ⟨position, field, following, rfl⟩ := rest.begins_with_field record
              exact ⟨⟨field.name, _, Turn.steps_field _ _ _⟩, induction⟩
      | _ =>
          obtain ⟨position, field, rest, rfl⟩ := way.begins_with_field record
          rw [Turn.steps_variant (by simp)]
          exact ⟨⟨field.name, _, Turn.steps_field _ _ _⟩, induction⟩

theorem LiesAt.present (lies : table.LiesAt shape node turns value) : node.isAbsent = false := by
  cases lies <;> rfl

/-- The steps along a place lead to the leaf that lies there, if every payload on the way is looked
into for one of its fields. -/
theorem LiesAt.reaches (lies : table.LiesAt shape node turns value)
    (enters : Step.EntersRecords (Turn.steps turns)) :
    node.Reaches (Turn.steps turns) (.leaf value) := by
  induction lies with
  | leaf => exact .here
  | pointer _ induction =>
      rw [Turn.steps_pointer] at enters ⊢
      exact .step .pointer (induction enters)
  | list member _ induction =>
      rw [Turn.steps_list] at enters ⊢
      exact .step (.list member) (induction enters)
  | key member _ induction =>
      rw [Turn.steps_key] at enters ⊢
      exact .step (.key member) (induction enters)
  | value member _ induction =>
      rw [Turn.steps_value] at enters ⊢
      exact .step (.value member) (induction enters)
  | field _ _ lies induction =>
      rw [Turn.steps_field] at enters ⊢
      exact .step (.field lies.present) (induction enters)
  | @variant _ _ _ _ _ _ _ turns _ _ _ _ lies induction =>
      by_cases behind : ∃ following, turns = .pointer :: following
      · obtain ⟨following, rfl⟩ := behind
        rw [Turn.steps_pointer] at induction
        rw [Turn.steps_variant_pointer] at enters ⊢
        obtain ⟨⟨name, rest, begins⟩, restEnters⟩ := enters
        obtain ⟨position, field, following, rfl⟩ := Turn.field_of_steps begins
        obtain ⟨child, leads, reaches⟩ := Node.reaches_cons_iff.1 (induction restEnters)
        cases leads
        cases lies with
        | pointer lies =>
          cases lies with
          | field => exact .step .payloadBehind reaches
      · have direct : ∀ following, turns ≠ .pointer :: following := fun following equal =>
          behind ⟨following, equal⟩
        rw [Turn.steps_variant direct] at enters ⊢
        obtain ⟨⟨name, rest, begins⟩, restEnters⟩ := enters
        obtain ⟨position, field, following, rfl⟩ := Turn.field_of_steps begins
        cases lies with
        | field => exact .step .payload (induction restEnters)

/-- Every leaf that some steps reach in a conforming node lies at a place along these steps. -/
theorem Conforms.exists_liesAt {steps : List Step} (conforms : table.Conforms shape node)
    (reaches : node.Reaches steps (.leaf value)) :
    ∃ turns, table.LiesAt shape node turns value ∧ Turn.steps turns = steps := by
  generalize target : Node.leaf value = leaf at reaches
  induction reaches generalizing shape with
  | here =>
      subst target
      cases conforms
      exact ⟨[], .leaf, rfl⟩
  | step leads rest induction =>
      cases leads with
      | field present =>
          cases conforms with
          | record found fieldsConform named =>
              obtain ⟨field, member, rfl⟩ := named _ present
              obtain ⟨position, declared⟩ := List.mem_iff_getElem?.1 member
              obtain ⟨turns, lies, along⟩ := induction (fieldsConform field member present) target
              exact ⟨_, .field found declared lies, by rw [Turn.steps_field, along]⟩
      | pointer =>
          cases conforms with
          | pointer conforms =>
              obtain ⟨turns, lies, along⟩ := induction conforms target
              exact ⟨_, .pointer lies, by rw [Turn.steps_pointer, along]⟩
      | list member =>
          cases conforms with
          | list conforms =>
              obtain ⟨turns, lies, along⟩ := induction (conforms _ member) target
              exact ⟨_, .list member lies, by rw [Turn.steps_list, along]⟩
      | key member =>
          cases conforms with
          | map keysConform _ =>
              obtain ⟨turns, lies, along⟩ := induction (keysConform _ member) target
              exact ⟨_, .key member lies, by rw [Turn.steps_key, along]⟩
      | value member =>
          cases conforms with
          | map _ valuesConform =>
              obtain ⟨turns, lies, along⟩ := induction (valuesConform _ member) target
              exact ⟨_, .value member lies, by rw [Turn.steps_value, along]⟩
      | payload =>
          cases conforms with
          | variant found member carries conforms =>
              obtain ⟨position, declared⟩ := List.mem_iff_getElem?.1 member
              obtain ⟨turns, lies, along⟩ := induction conforms target
              refine ⟨_, .variant found declared carries lies, ?_⟩
              cases lies with
              | field => rw [Turn.steps_variant (by simp), along]
      | payloadBehind =>
          cases conforms with
          | variant found member carries conforms =>
              obtain ⟨position, declared⟩ := List.mem_iff_getElem?.1 member
              cases conforms with
              | pointer conforms =>
                  obtain ⟨turns, lies, along⟩ := induction conforms target
                  refine ⟨_, .variant found declared carries (.pointer lies), ?_⟩
                  rw [Turn.steps_variant_pointer, along]

end TypeTable

end RecordSearch
