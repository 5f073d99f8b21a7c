import RecordSearch.Proofs.LabelledContainers

/-!
# Tables without repeated names

If the names of each type are apart, some steps without maps lead to one place
of a shape only, and for each place at which some node has a leaf there is a
node whose leaf at that place is told apart from all its other leaves.
-/

namespace RecordSearch

namespace TypeBody

def names : TypeBody → List Text
  | .record fields => fields.map (·.name)
  | .variants declared => declared.map (·.name)

end TypeBody

namespace Turn

variable {position : Nat} {variant : VariantShape} {turns following : List Turn}

/-- Behind one variant, the steps tell the turns apart as far as those behind the variant do, if
the turns both begin with an indirection or both do not. -/
theorem eq_of_steps_variant
    (alike : (∃ rest, turns = .pointer :: rest) ↔ ∃ rest, following = .pointer :: rest)
    (same : steps (.variant position variant :: turns) =
      steps (.variant position variant :: following)) :
    steps turns = steps following := by
  by_cases behind : ∃ rest, turns = .pointer :: rest
  · obtain ⟨rest, rfl⟩ := behind
    obtain ⟨further, rfl⟩ := alike.1 ⟨rest, rfl⟩
    rw [steps_variant_pointer, steps_variant_pointer] at same
    injection same with _ along
    exact congrArg (List.cons Step.pointer) along
  · have direct (rest : List Turn) : turns ≠ .pointer :: rest := fun equal => behind ⟨rest, equal⟩
    have directToo (rest : List Turn) : following ≠ .pointer :: rest := fun equal =>
      behind (alike.2 ⟨rest, equal⟩)
    rw [steps_variant direct, steps_variant directToo] at same
    injection same

theorem map_mem_steps_variant (member : Step.map ∈ steps turns) :
    Step.map ∈ steps (.variant position variant :: turns) := by
  by_cases behind : ∃ rest, turns = .pointer :: rest
  · obtain ⟨rest, rfl⟩ := behind
    rw [steps_variant_pointer]
    rw [steps_pointer] at member
    exact List.mem_cons_of_mem _ (List.mem_of_ne_of_mem (by simp) member)
  · rw [steps_variant fun rest equal => behind ⟨rest, equal⟩]
    exact List.mem_cons_of_mem _ member

end Turn

namespace TypeTable

/-- No type of the table has two fields, or two variants, of one name. -/
def NamesApart (table : TypeTable) : Prop :=
  ∀ entry ∈ table.definitions, entry.2.body.names.Nodup

instance (table : TypeTable) : Decidable table.NamesApart :=
  inferInstanceAs (Decidable (∀ entry ∈ table.definitions, entry.2.body.names.Nodup))

variable {table : TypeTable} {shape : Shape} {node : Node} {turns : List Turn} {value : Value}
  {kind : LeafKind} {reference typeName : Text}

theorem NamesApart.names_nodup {definition : TypeDefinition} (apart : table.NamesApart)
    (found : table.find? reference = some definition) : definition.body.names.Nodup := by
  obtain ⟨entry, entryFound, rfl⟩ := Option.map_eq_some_iff.1 found
  exact apart entry (List.mem_of_find?_eq_some entryFound)

theorem eq_of_names_nodup {α : Type} (name : α → Text) {declarations : List α}
    {position place : Nat} {first second : α} (distinct : (declarations.map name).Nodup)
    (declared : declarations[position]? = some first) (again : declarations[place]? = some second)
    (same : name first = name second) : position = place ∧ first = second := by
  have bound : position < (declarations.map name).length := by
    rw [List.length_map]
    exact (List.getElem?_eq_some_iff.1 declared).1
  have alike : (declarations.map name)[position]? = (declarations.map name)[place]? := by
    rw [List.getElem?_map, List.getElem?_map, declared, again, Option.map_some, Option.map_some,
      same]
  obtain rfl := (List.getElem?_inj bound distinct).1 alike
  exact ⟨rfl, Option.some.inj (declared.symm.trans again)⟩

section Record

variable {fields : List FieldShape} {position : Nat} {field : FieldShape}

theorem NamesApart.eq_field {place : Nat} {other : FieldShape} (apart : table.NamesApart)
    (found : table.find? reference = some { typeName, body := .record fields })
    (declared : fields[position]? = some field) (again : fields[place]? = some other)
    (same : field.name = other.name) : position = place ∧ field = other :=
  eq_of_names_nodup FieldShape.name (apart.names_nodup found) declared again same

theorem NamesApart.conforms_singleton (apart : table.NamesApart)
    (found : table.find? reference = some { typeName, body := .record fields })
    (declared : fields[position]? = some field) (conforms : table.Conforms field.shape node) :
    table.Conforms (.named reference) (.record [(field.name, node)]) := by
  refine .singleton found (List.mem_of_getElem? declared) (fun other among same => ?_) conforms
  obtain ⟨place, again⟩ := List.mem_iff_getElem?.1 among
  exact (apart.eq_field found again declared same).2

/-- A record that is described by its fields conforms to the description if they do. -/
theorem NamesApart.conforms_node {α : Type} {fields : List (FieldView α)} {record : α}
    (apart : table.NamesApart)
    (found : table.find? reference =
      some { typeName, body := .record (fields.map (·.described)) })
    (each : ∀ field ∈ fields, table.Conforms field.described.shape (field.view record)) :
    table.Conforms (.named reference) (FieldView.node fields record) := by
  have distinct : ((fields.map fun field =>
      (field.described.name, field.view record)).map (·.1)).Nodup := by
    have names := apart.names_nodup found
    rw [TypeBody.names, List.map_map] at names
    rwa [List.map_map]
  refine .record found (fun described member _ => ?_) fun name present => ?_
  · obtain ⟨field, among, rfl⟩ := List.mem_map.1 member
    have entry := List.mem_map_of_mem (f := fun field : FieldView α =>
      (field.described.name, field.view record)) among
    rw [Node.fieldNamed_of_mem distinct entry]
    exact each field among
  · obtain ⟨entry, among, rfl⟩ := Node.exists_mem_of_present present
    obtain ⟨field, declared, rfl⟩ := List.mem_map.1 among
    exact ⟨field.described, List.mem_map_of_mem declared, rfl⟩

/-- What lies in a record of which one field only is set lies in that field. -/
theorem LiesAt.of_singleton (lies : table.LiesAt (.named reference)
      (.record [(field.name, node)]) turns value) (apart : table.NamesApart)
    (found : table.find? reference = some { typeName, body := .record fields })
    (declared : fields[position]? = some field) :
    ∃ rest, turns = .field position field :: rest ∧ table.LiesAt field.shape node rest value := by
  cases lies with
  | field foundToo again lies =>
      cases found.symm.trans foundToo
      obtain ⟨rfl, rfl⟩ :=
        apart.eq_field found declared again (Node.eq_of_present_singleton lies.present)
      rw [Node.fieldNamed_singleton] at lies
      exact ⟨_, rfl, lies⟩

theorem IsMarkedAt.of_field (marked : table.IsMarkedAt field.shape node turns kind)
    (apart : table.NamesApart)
    (found : table.find? reference = some { typeName, body := .record fields })
    (declared : fields[position]? = some field) :
    table.IsMarkedAt (.named reference) (.record [(field.name, node)])
      (.field position field :: turns) kind where
  conforms := apart.conforms_singleton found declared marked.conforms
  lies := .field found declared (by rw [Node.fieldNamed_singleton]; exact marked.lies)
  others := by
    intro following leaf lies
    obtain ⟨rest, rfl, inside⟩ := lies.of_singleton apart found declared
    exact (marked.others _ _ inside).imp_left (congrArg (List.cons (Turn.field position field)))

end Record

section Variants

variable {variants : List VariantShape} {position : Nat} {variant : VariantShape} {payload : Shape}

theorem NamesApart.eq_variant {place : Nat} {other : VariantShape} (apart : table.NamesApart)
    (found : table.find? reference = some { typeName, body := .variants variants })
    (declared : variants[position]? = some variant) (again : variants[place]? = some other)
    (same : variant.name = other.name) : position = place ∧ variant = other :=
  eq_of_names_nodup VariantShape.name (apart.names_nodup found) declared again same

/-- What lies in a variant lies in the payload of the variant that is declared under its name. -/
theorem LiesAt.of_variant (lies : table.LiesAt (.named reference)
      (.variant variant.name (some node)) turns value) (apart : table.NamesApart)
    (found : table.find? reference = some { typeName, body := .variants variants })
    (declared : variants[position]? = some variant) (carries : variant.payload = some payload) :
    ∃ rest, turns = .variant position variant :: rest ∧ table.LiesAt payload node rest value := by
  generalize same : variant.name = name at lies
  cases lies with
  | variant foundToo again carriesToo lies =>
      cases found.symm.trans foundToo
      obtain ⟨rfl, rfl⟩ := apart.eq_variant found declared again same
      cases carries.symm.trans carriesToo
      exact ⟨_, rfl, lies⟩

theorem Conforms.of_variant (conforms : table.Conforms (.named reference)
      (.variant variant.name (some node))) (apart : table.NamesApart)
    (found : table.find? reference = some { typeName, body := .variants variants })
    (declared : variants[position]? = some variant) (carries : variant.payload = some payload) :
    table.Conforms payload node := by
  generalize same : variant.name = name at conforms
  cases conforms with
  | variant foundToo among carriesToo conforms =>
      cases found.symm.trans foundToo
      obtain ⟨place, again⟩ := List.mem_iff_getElem?.1 among
      obtain ⟨_, rfl⟩ := apart.eq_variant found declared again same
      cases carries.symm.trans carriesToo
      exact conforms

theorem IsMarkedAt.of_payload (marked : table.IsMarkedAt payload node turns kind)
    (apart : table.NamesApart)
    (found : table.find? reference = some { typeName, body := .variants variants })
    (declared : variants[position]? = some variant) (carries : variant.payload = some payload) :
    table.IsMarkedAt (.named reference) (.variant variant.name (some node))
      (.variant position variant :: turns) kind where
  conforms := .variant found (List.mem_of_getElem? declared) carries marked.conforms
  lies := .variant found declared carries marked.lies
  others := by
    intro following leaf lies
    obtain ⟨rest, rfl, inside⟩ := lies.of_variant apart found declared carries
    exact (marked.others _ _ inside).imp_left
      (congrArg (List.cons (Turn.variant position variant)))

end Variants

/-- If there is a node of some shape, there is one without any text in it. -/
theorem Conforms.exists_blank (conforms : table.Conforms shape node) (apart : table.NamesApart) :
    ∃ blank, table.Conforms shape blank ∧ table.IsBlank shape blank := by
  induction conforms with
  | @leaf kind => exact ⟨_, .leaf kind.accepts_blank, isBlank_leaf kind kind⟩
  | unset | pointer => exact ⟨_, .unset, isBlank_unset _⟩
  | list => exact ⟨_, .list (by simp), isBlank_list _⟩
  | map => exact ⟨_, .map (by simp) (by simp), isBlank_map _ _⟩
  | record found =>
      refine ⟨.record [], .record found (fun _ _ present => nomatch present)
        (fun _ present => nomatch present), fun turns value lies => ?_⟩
      cases lies with
      | field _ _ lies => cases lies.present
  | @bare _ _ _ variant found among empty =>
      refine ⟨_, .bare found among empty, fun turns value lies => ?_⟩
      generalize variant.name = name at lies
      cases lies
  | variant found among carries _ induction =>
      obtain ⟨blank, conforms, isBlank⟩ := induction
      refine ⟨_, .variant found among carries conforms, fun turns value lies => ?_⟩
      obtain ⟨position, declared⟩ := List.mem_iff_getElem?.1 among
      obtain ⟨rest, _, lies⟩ := lies.of_variant apart found declared carries
      exact isBlank rest value lies
  | hidden => exact ⟨_, .hidden, fun _ _ lies => nomatch lies⟩

/-- At each place where a leaf lies in some node, a marked leaf lies in some node. -/
theorem LiesAt.exists_markedAt (lies : table.LiesAt shape node turns value)
    (conforms : table.Conforms shape node) (apart : table.NamesApart) :
    ∃ other kind, table.IsMarkedAt shape other turns kind := by
  induction lies with
  | leaf => exact ⟨_, _, .leaf⟩
  | pointer _ induction =>
      cases conforms with
      | pointer conforms =>
          obtain ⟨other, kind, marked⟩ := induction conforms
          exact ⟨_, _, marked.pointer⟩
  | list among _ induction =>
      cases conforms with
      | list conforms =>
          obtain ⟨other, kind, marked⟩ := induction (conforms _ among)
          exact ⟨_, _, marked.list⟩
  | key among _ induction =>
      cases conforms with
      | map keysConform valuesConform =>
          obtain ⟨other, kind, marked⟩ := induction (keysConform _ among)
          obtain ⟨blank, blankConforms, isBlank⟩ := (valuesConform _ among).exists_blank apart
          exact ⟨_, _, marked.map_key blankConforms isBlank⟩
  | value among _ induction =>
      cases conforms with
      | map keysConform valuesConform =>
          obtain ⟨other, kind, marked⟩ := induction (valuesConform _ among)
          obtain ⟨blank, blankConforms, isBlank⟩ := (keysConform _ among).exists_blank apart
          exact ⟨_, _, marked.map_value blankConforms isBlank⟩
  | field found declared lies induction =>
      cases conforms with
      | record foundToo fieldsConform =>
          cases found.symm.trans foundToo
          have inside := fieldsConform _ (List.mem_of_getElem? declared) lies.present
          obtain ⟨other, kind, marked⟩ := induction inside
          exact ⟨_, _, marked.of_field apart found declared⟩
  | variant found declared carries _ induction =>
      have inside := conforms.of_variant apart found declared carries
      obtain ⟨other, kind, marked⟩ := induction inside
      exact ⟨_, _, marked.of_payload apart found declared carries⟩

theorem LiesAt.begins_with_pointer_iff (lies : table.LiesAt shape node turns value) :
    (∃ rest, turns = .pointer :: rest) ↔ ∃ target, shape = .pointer target := by
  cases lies <;> simp

theorem Way.begins_with_pointer_iff {entered : List Text}
    (way : table.Way shape turns entered kind) :
    (∃ rest, turns = .pointer :: rest) ↔ ∃ target, shape = .pointer target := by
  cases way <;> simp

/-- Along the steps of a way without maps, leaves lie at the end of that way only. -/
theorem Way.eq_of_steps {entered : List Text} {others : List Turn}
    (way : table.Way shape turns entered kind) (apart : table.NamesApart)
    (straight : .map ∉ Turn.steps turns) (lies : table.LiesAt shape node others value)
    (same : Turn.steps others = Turn.steps turns) : others = turns := by
  induction way generalizing node others with
  | leaf =>
      cases lies
      rfl
  | pointer _ induction =>
      cases lies with
      | pointer lies =>
          rw [Turn.steps_pointer] at straight
          injection same with _ along
          rw [induction (List.not_mem_of_not_mem_cons straight) lies along]
  | list _ induction =>
      cases lies with
      | list _ lies =>
          rw [Turn.steps_list] at straight
          injection same with _ along
          rw [induction (List.not_mem_of_not_mem_cons straight) lies along]
  | key | value => exact absurd List.mem_cons_self straight
  | field found declared _ induction =>
      cases lies with
      | field foundToo again lies =>
          cases found.symm.trans foundToo
          rw [Turn.steps_field] at straight
          injection same with taken along
          injection taken with name
          obtain ⟨rfl, rfl⟩ := apart.eq_field found again declared name
          rw [induction (List.not_mem_of_not_mem_cons straight) lies along]
      | variant foundToo => cases found.symm.trans foundToo
  | variant found declared carries _ way induction =>
      cases lies with
      | field foundToo => cases found.symm.trans foundToo
      | variant foundToo again carriesToo lies =>
          cases found.symm.trans foundToo
          have taken := congrArg List.head? same
          rw [Turn.head?_steps_cons, Turn.head?_steps_cons] at taken
          injection taken with taken
          injection taken with name
          obtain ⟨rfl, rfl⟩ := apart.eq_variant found again declared name
          cases carries.symm.trans carriesToo
          have alike := lies.begins_with_pointer_iff.trans way.begins_with_pointer_iff.symm
          have along := Turn.eq_of_steps_variant alike same
          rw [induction (fun member => straight (Turn.map_mem_steps_variant member)) lies along]

end TypeTable

end RecordSearch
