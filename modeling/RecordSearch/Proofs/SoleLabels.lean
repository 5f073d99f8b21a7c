import RecordSearch.Proofs.Containers

/-!
# Labels of one field

A label may belong to a single field of a record, the shape of which is built
from leaves by pointers, lists and maps.  Then the walk registers the leaves of
that field and nothing else under the label, and the steps of the label lead
to leaves of the field only.
-/

namespace RecordSearch

namespace TypeTable

/-- The record with the reference has the field at the position, and the shape contains the record
at some depth. -/
inductive HasField (table : TypeTable) (reference : Text) (position : Nat) (field : FieldShape) :
    Shape → Prop where
  | here {typeName : Text} {fields : List FieldShape} :
      table.find? reference = some { typeName, body := .record fields } →
      fields[position]? = some field →
      HasField table reference position field (.named reference)
  | pointer {target : Shape} :
      HasField table reference position field target →
      HasField table reference position field (.pointer target)
  | list {item : Shape} :
      HasField table reference position field item →
      HasField table reference position field (.list item)
  | key {key value : Shape} :
      HasField table reference position field key →
      HasField table reference position field (.map key value)
  | value {key value : Shape} :
      HasField table reference position field value →
      HasField table reference position field (.map key value)
  | field {outer typeName : Text} {fields : List FieldShape} {other : FieldShape} :
      table.find? outer = some { typeName, body := .record fields } →
      other ∈ fields →
      HasField table reference position field other.shape →
      HasField table reference position field (.named outer)
  | payload {outer typeName : Text} {variants : List VariantShape} {variant : VariantShape}
      {payload : Shape} :
      table.find? outer = some { typeName, body := .variants variants } →
      variant ∈ variants →
      variant.payload = some payload →
      HasField table reference position field payload →
      HasField table reference position field (.named outer)

/-- Some field with the label is inside the shape, in a record that has not been entered. -/
def HasLabel (table : TypeTable) (entered : List Text) (label : Text) (shape : Shape) : Prop :=
  ∃ reference position field definition,
    table.HasField reference position field shape ∧ field.label = some label ∧
      table.find? reference = some definition ∧ definition.typeName ∉ entered

section Labels

variable {table : TypeTable} {entered : List Text} {label : Text} {steps : List Step}
  {kind : LeafKind}

theorem HasLabel.imp {inner outer : Shape} (has : table.HasLabel entered label inner)
    (within : ∀ reference position field,
      table.HasField reference position field inner →
        table.HasField reference position field outer) :
    table.HasLabel entered label outer := by
  obtain ⟨reference, position, field, definition, inside, rest⟩ := has
  exact ⟨reference, position, field, definition, within _ _ _ inside, rest⟩

theorem HasLabel.of_entered {typeName : Text} {shape : Shape}
    (has : table.HasLabel (typeName :: entered) label shape) :
    table.HasLabel entered label shape := by
  obtain ⟨reference, position, field, definition, inside, labelled, found, fresh⟩ := has
  exact ⟨reference, position, field, definition, inside, labelled, found,
    fun member => fresh (List.mem_cons_of_mem _ member)⟩

theorem exists_leaf_of_mem_under {step : Step} {findings : List Finding}
    (member : .leaf label steps kind ∈ findings.map (Finding.under step)) :
    ∃ rest, .leaf label rest kind ∈ findings := by
  obtain ⟨finding, among, equal⟩ := List.mem_map.1 member
  cases finding with
  | leaf =>
      cases equal
      exact ⟨_, among⟩
  | _ => cases equal

/-- A leaf that is found in a shape is under the label that leads there, or under one inside. -/
theorem hasLabel_of_mem_findings {enter : Text → List Finding} {carried : Option Text}
    (enters : ∀ reference steps kind, .leaf label steps kind ∈ enter reference →
      table.HasLabel entered label (.named reference))
    {shape : Shape} (member : .leaf label steps kind ∈ shape.findings enter carried) :
    carried = some label ∨ table.HasLabel entered label shape := by
  induction shape generalizing steps with
  | leaf =>
      cases carried with
      | none => cases member
      | some carried =>
          cases List.mem_singleton.1 member
          exact .inl rfl
  | pointer target induction =>
      obtain ⟨rest, among⟩ := exists_leaf_of_mem_under member
      exact (induction among).imp_right fun has => has.imp fun _ _ _ => .pointer
  | list item induction =>
      obtain ⟨rest, among⟩ := exists_leaf_of_mem_under member
      exact (induction among).imp_right fun has => has.imp fun _ _ _ => .list
  | map key value keyInduction valueInduction =>
      obtain ⟨rest, among⟩ := exists_leaf_of_mem_under member
      rcases List.mem_append.1 among with among | among
      · exact (keyInduction among).imp_right fun has => has.imp fun _ _ _ => .key
      · exact (valueInduction among).imp_right fun has => has.imp fun _ _ _ => .value
  | named reference =>
      cases carried with
      | none => exact .inr (enters _ _ _ member)
      | some carried =>
          rcases List.mem_cons.1 member with impossible | member
          · cases impossible
          · exact .inr (enters _ _ _ member)
  | hidden => cases member

theorem hasLabel_of_mem_variantFindings {enter : Text → List Finding} {variant : VariantShape}
    (enters : ∀ reference steps kind, .leaf label steps kind ∈ enter reference →
      table.HasLabel entered label (.named reference))
    (member : .leaf label steps kind ∈ table.variantFindings enter variant) :
    ∃ payload, variant.payload = some payload ∧ table.HasLabel entered label payload := by
  unfold variantFindings at member
  cases carries : variant.payload with
  | none =>
      rw [carries] at member
      cases member
  | some payload =>
      rw [carries] at member
      cases record : table.record? payload.unwrapped with
      | none =>
          simp [record] at member
      | some reference =>
          simp only [record] at member
          obtain ⟨rest, among⟩ := exists_leaf_of_mem_under member
          refine ⟨payload, rfl, ?_⟩
          have shape := (record?_eq_some_iff.1 record).1
          have has := enters _ _ _ among
          cases payload with
          | pointer target =>
              obtain rfl : target = .named reference := shape
              exact has.imp fun _ _ _ => .pointer
          | named other =>
              cases shape
              exact has
          | _ => cases shape

/-- A leaf that is found in a type is under the label of a field that is in the type. -/
theorem hasLabel_of_mem_typeFindings {depth : Nat} {reference : Text}
    (member : .leaf label steps kind ∈ table.typeFindings depth entered reference) :
    table.HasLabel entered label (.named reference) := by
  induction depth generalizing entered reference steps kind with
  | zero => cases member
  | succ depth induction =>
      cases found : table.find? reference with
      | none =>
          rw [typeFindings_of_unknown found] at member
          cases member
      | some definition =>
          by_cases seen : definition.typeName ∈ entered
          · rw [typeFindings_of_entered found seen] at member
            cases member
          · rw [typeFindings_of_fresh found seen] at member
            obtain ⟨typeName, body⟩ := definition
            cases body with
            | record fields =>
                obtain ⟨field, fieldMember, among⟩ := List.mem_flatMap.1 member
                obtain ⟨rest, among⟩ := exists_leaf_of_mem_under among
                rcases hasLabel_of_mem_findings (fun _ _ _ => induction) among with labelled | has
                · obtain ⟨position, declared⟩ := List.mem_iff_getElem?.1 fieldMember
                  exact ⟨reference, position, field, _, .here found declared, labelled, found, seen⟩
                · exact has.of_entered.imp fun _ _ _ => .field found fieldMember
            | variants variants =>
                obtain ⟨variant, variantMember, among⟩ := List.mem_flatMap.1 member
                obtain ⟨payload, carries, has⟩ :=
                  hasLabel_of_mem_variantFindings (fun _ _ _ => induction) among
                exact has.of_entered.imp fun _ _ _ => .payload found variantMember carries

end Labels

/-- In the record with the reference, the field at the position has the label.  No other field that
is inside the record has it, in any case, and no other field of the record has the same name. -/
structure SoleField (table : TypeTable) (reference : Text) (position : Nat) (field : FieldShape)
    (label : Text) : Prop where
  labelled : field.label = some label
  declared : ∃ typeName fields,
    table.find? reference = some { typeName, body := .record fields } ∧
      fields[position]? = some field ∧
      ∀ place other, fields[place]? = some other → other.name = field.name → place = position
  alone : ∀ owner place other spelled, table.HasField owner place other (.named reference) →
    other.label = some spelled → Text.lower spelled = Text.lower label →
    owner = reference ∧ place = position

section Sole

variable {table : TypeTable} {reference label : Text} {position : Nat} {field : FieldShape}

theorem HasField.not_isContainer {shape : Shape}
    (has : table.HasField reference position field shape) : ¬shape.IsContainer := by
  intro container
  induction has with
  | pointer _ induction =>
      cases container with
      | pointer container => exact induction container
  | list _ induction =>
      cases container with
      | list container => exact induction container
  | key _ induction =>
      cases container with
      | map container _ => exact induction container
  | value _ induction =>
      cases container with
      | map _ container => exact induction container
  | here => cases container
  | field => cases container
  | payload => cases container

/-- In a record without other records inside, the fields decide whether a label is of one only. -/
theorem SoleField.of_containers {typeName : Text} {fields : List FieldShape}
    (found : table.find? reference = some { typeName, body := .record fields })
    (containers : ∀ field ∈ fields, field.shape.IsContainer)
    (declared : fields[position]? = some field) (labelled : field.label = some label)
    (names : ∀ place other, fields[place]? = some other → other.name = field.name →
      place = position)
    (labels : ∀ place other spelled, fields[place]? = some other → other.label = some spelled →
      Text.lower spelled = Text.lower label → place = position) :
    table.SoleField reference position field label where
  labelled := labelled
  declared := ⟨typeName, fields, found, declared, names⟩
  alone := by
    intro owner place other spelled has otherLabelled same
    cases has with
    | here foundToo otherDeclared =>
        cases found.symm.trans foundToo
        exact ⟨rfl, labels place other spelled otherDeclared otherLabelled same⟩
    | field foundToo member inside =>
        cases found.symm.trans foundToo
        exact absurd (containers _ member) inside.not_isContainer
    | payload foundToo => cases found.symm.trans foundToo

theorem flatMap_eq_of_sole {α β : Type} {items : List α} {place : Nat} {item : α}
    {produce : α → List β} (declared : items[place]? = some item)
    (others : ∀ otherPlace other, items[otherPlace]? = some other → otherPlace ≠ place →
      produce other = []) :
    items.flatMap produce = produce item := by
  induction items generalizing place with
  | nil => cases declared
  | cons head items induction =>
      rw [List.flatMap_cons]
      cases place with
      | zero =>
          cases declared
          have silent : items.flatMap produce = [] := by
            rw [List.flatMap_eq_nil_iff]
            intro other member
            obtain ⟨otherPlace, found⟩ := List.mem_iff_getElem?.1 member
            exact others (otherPlace + 1) other found (Nat.succ_ne_zero _)
          rw [silent, List.append_nil]
      | succ place =>
          have rest : items.flatMap produce = produce item :=
            induction declared fun otherPlace other found different =>
              others (otherPlace + 1) other found (by omega)
          rw [others 0 head rfl (Nat.succ_ne_zero _).symm, rest, List.nil_append]

/-- The other fields of the record register nothing under the label of a sole field. -/
theorem SoleField.silent {typeName : Text} {fields : List FieldShape}
    (sole : table.SoleField reference position field label)
    (found : table.find? reference = some { typeName, body := .record fields })
    {place depth : Nat} {other : FieldShape} (declared : fields[place]? = some other)
    (different : place ≠ position) :
    ((fieldFindings (table.typeFindings depth [typeName]) other).filterMap
      Finding.registration?).filter (·.isFor label) = [] := by
  rw [List.filter_eq_nil_iff]
  intro registration member concerned
  obtain ⟨finding, among, registered⟩ := List.mem_filterMap.1 member
  cases finding with
  | leaf spelled steps kind =>
      cases registered
      have same : Text.lower spelled = Text.lower label := beq_iff_eq.1 concerned
      obtain ⟨rest, among⟩ := exists_leaf_of_mem_under among
      rcases hasLabel_of_mem_findings (fun _ _ _ => hasLabel_of_mem_typeFindings) among with
        labelled | ⟨owner, ownerPlace, inner, definition, inside, labelled, ownerFound, fresh⟩
      · exact different (sole.alone _ _ _ _ (.here found declared) labelled same).2
      · have within := HasField.field found (List.mem_of_getElem? declared) inside
        obtain ⟨rfl, _⟩ := sole.alone _ _ _ _ within labelled same
        cases found.symm.trans ownerFound
        exact fresh (List.mem_singleton_self _)
  | _ => cases registered

/-- Under the label of a sole field, a walk registers the leaves of the field. -/
theorem SoleField.registrations (sole : table.SoleField reference position field label)
    (container : field.shape.IsContainer) :
    ((table.walk (.named reference)).filterMap Finding.registration?).filter (·.isFor label) =
      field.shape.places.map fun place =>
        { label, path := { steps := .field field.name :: place.1, leaf := place.2 } } := by
  obtain ⟨typeName, fields, found, declared, _⟩ := sole.declared
  obtain ⟨depth, size⟩ : ∃ depth, table.size = depth + 1 := by
    have nonempty : table.size ≠ 0 := by
      intro empty
      rw [find?, List.length_eq_zero_iff.1 empty] at found
      cases found
    exact Nat.exists_eq_succ_of_ne_zero nonempty
  have walked : table.walk (.named reference) =
      fields.flatMap (fieldFindings (table.typeFindings depth [typeName])) := by
    rw [walk, Shape.findings, size, typeFindings_of_fresh found List.not_mem_nil]
    rfl
  have own : (fieldFindings (table.typeFindings depth [typeName]) field).filterMap
      Finding.registration? = field.shape.places.map fun place =>
        { label, path := { steps := .field field.name :: place.1, leaf := place.2 } } := by
    rw [fieldFindings, sole.labelled, Finding.filterMap_registration?_under,
      container.registrations, List.map_map]
    rfl
  rw [walked, List.filterMap_flatMap, List.filter_flatMap, flatMap_eq_of_sole declared, own]
  · rw [List.filter_eq_self]
    intro registration member
    obtain ⟨place, _, rfl⟩ := List.mem_map.1 member
    exact beq_self_eq_true _
  · intro place other otherDeclared different
    exact sole.silent found otherDeclared different

/-- The label of a sole field has the steps to the first leaf of the field, and the kinds of all
leaves behind the same steps. -/
theorem SoleField.get? (sole : table.SoleField reference position field label)
    (container : field.shape.IsContainer) (typeName : Text) :
    ∃ path, (Schema.ofShape typeName table (.named reference)).get? label = some path ∧
      path.steps = .field field.name :: field.shape.firstSteps ∧
      path.leaves = ((field.shape.places.filter fun place =>
        place.1 == field.shape.firstSteps).map (·.2)).eraseDups := by
  obtain ⟨kind, rest, places⟩ := container.places_eq_cons
  have described := Schema.get?_build
    ((table.walk (.named reference)).filterMap Finding.registration?) label typeName
  rw [sole.registrations container, List.head?_map, places, List.head?_cons, Option.map_some,
    Option.map_some, ← places, List.filter_map, List.flatMap_map] at described
  obtain ⟨path, known, equal⟩ := Option.map_eq_some_iff.1 described
  obtain ⟨steps, leaves⟩ := Prod.mk.inj equal
  refine ⟨path, known, steps, leaves.trans (congrArg List.eraseDups ?_)⟩
  rw [List.map_eq_flatMap]
  refine congrArg (List.flatMap _) (List.filter_congr fun place _ => ?_)
  simp [Registration.along, Bool.beq_eq_decide_eq]

theorem SoleField.conforms_field (sole : table.SoleField reference position field label)
    {node : Node} (conforms : table.Conforms (.named reference) node)
    (present : (node.field field.name).isAbsent = false) :
    table.Conforms field.shape (node.field field.name) := by
  obtain ⟨typeName, fields, found, declared, _⟩ := sole.declared
  cases conforms with
  | record foundToo fieldsConform _ =>
      cases found.symm.trans foundToo
      exact fieldsConform field (List.mem_of_getElem? declared) present
  | _ => cases present

/-- In a record that conforms, the steps into a sole field lead to the leaves inside the field. -/
theorem SoleField.reaches_iff (sole : table.SoleField reference position field label)
    (container : field.shape.IsContainer) {node : Node}
    (conforms : table.Conforms (.named reference) node) {steps : List Step} {value : Value} :
    node.Reaches (.field field.name :: steps) (.leaf value) ↔
      ∃ turns, table.LiesAt field.shape (node.field field.name) turns value ∧
        Turn.steps turns = steps := by
  constructor
  · intro reaches
    obtain ⟨child, leads, rest⟩ := Node.reaches_cons_iff.1 reaches
    cases leads with
    | field present => exact (sole.conforms_field conforms present).exists_liesAt rest
  · intro placed
    obtain ⟨turns, lies, rfl⟩ := placed
    cases node with
    | record nodes =>
        exact .step (.field lies.present) (lies.reaches (lies.entersRecords container))
    | _ => exact absurd lies.present (by simp [Node.field, Node.isAbsent])

end Sole

end TypeTable

end RecordSearch
