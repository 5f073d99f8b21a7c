import RecordSearch.Proofs.FieldConditions
import RecordSearch.Proofs.RegisteredPlaces

/-!
# Searching labelled containers

The condition on a label that accepts every value lists the leaves of the
labelled container that lie behind the steps to its first leaf.  So it finds
every leaf exactly if all leaves of the container lie behind the same steps.  It
does not for a map with texts as keys and lists as values, of which only the
keys are found.
-/

namespace RecordSearch

namespace Shape

/-- All leaves of the shape lie behind the same steps. -/
def IsEven (shape : Shape) : Prop :=
  ∀ place ∈ shape.places, place.1 = shape.firstSteps

instance (shape : Shape) : Decidable shape.IsEven :=
  inferInstanceAs (Decidable (∀ place ∈ shape.places, place.1 = shape.firstSteps))

end Shape

namespace LeafKind

/-- The value of a kind that a record holds when there is nothing to say. -/
def blank : LeafKind → Value
  | .string => .string []
  | .bool => .bool false
  | .number => .number (.signed 0)
  | .choice _ => .choice [] 0

/-- A value of a kind with a text that no blank value has. -/
def marked : LeafKind → Value
  | .string => .string ['x']
  | .bool => .bool true
  | .number => .number (.signed 1)
  | .choice _ => .choice ['x'] 0

theorem accepts_blank (kind : LeafKind) : kind.accepts kind.blank = true := by
  cases kind <;> rfl

theorem accepts_marked (kind : LeafKind) : kind.accepts kind.marked = true := by
  cases kind <;> rfl

theorem render_marked_ne_render_blank (kind other : LeafKind) :
    kind.marked.render ≠ other.blank.render := by
  cases kind <;> cases other <;> nofun

end LeafKind

namespace TypeTable

variable {table : TypeTable} {shape key value : Shape} {node : Node} {turns : List Turn}
  {steps : List Step} {kind : LeafKind}

def IsBlank (table : TypeTable) (shape : Shape) (node : Node) : Prop :=
  ∀ turns value, table.LiesAt shape node turns value → ∃ kind : LeafKind, value = kind.blank

/-- In the node, the leaf at the end of the turns is marked, and all leaves elsewhere are blank. -/
structure IsMarkedAt (table : TypeTable) (shape : Shape) (node : Node) (turns : List Turn)
    (kind : LeafKind) : Prop where
  conforms : table.Conforms shape node
  lies : table.LiesAt shape node turns kind.marked
  others : ∀ other value, table.LiesAt shape node other value →
    other = turns ∨ ∃ blank : LeafKind, value = blank.blank

/-- In the node, some leaf along the steps is marked, and all leaves elsewhere are blank. -/
structure IsMarked (table : TypeTable) (shape : Shape) (node : Node) (steps : List Step)
    (kind : LeafKind) : Prop where
  conforms : table.Conforms shape node
  lies : ∃ turns, table.LiesAt shape node turns kind.marked ∧ Turn.steps turns = steps
  others : ∀ turns value, table.LiesAt shape node turns value →
    Turn.steps turns = steps ∨ ∃ other : LeafKind, value = other.blank

theorem isBlank_leaf (kind other : LeafKind) : table.IsBlank (.leaf kind) (.leaf other.blank) := by
  intro turns value lies
  cases lies
  exact ⟨other, rfl⟩

theorem isBlank_unset (target : Shape) : table.IsBlank (.pointer target) (.pointer none) := by
  intro turns value lies
  cases lies

theorem isBlank_list (item : Shape) : table.IsBlank (.list item) (.list []) := by
  intro turns value lies
  cases lies
  contradiction

theorem isBlank_map (key value : Shape) : table.IsBlank (.map key value) (.map []) := by
  intro turns value lies
  cases lies <;> contradiction

theorem exists_blank (table : TypeTable) (container : shape.IsContainer) :
    ∃ node, table.Conforms shape node ∧ table.IsBlank shape node := by
  cases container with
  | @leaf kind => exact ⟨_, .leaf kind.accepts_blank, isBlank_leaf kind kind⟩
  | pointer => exact ⟨_, .unset, isBlank_unset _⟩
  | list => exact ⟨_, .list (by simp), isBlank_list _⟩
  | map => exact ⟨_, .map (by simp) (by simp), isBlank_map _ _⟩

theorem IsMarkedAt.leaf : table.IsMarkedAt (.leaf kind) (.leaf kind.marked) [] kind where
  conforms := .leaf kind.accepts_marked
  lies := .leaf
  others := by
    intro other value lies
    cases lies
    exact .inl rfl

theorem IsMarkedAt.pointer (marked : table.IsMarkedAt shape node turns kind) :
    table.IsMarkedAt (.pointer shape) (.pointer (some node)) (.pointer :: turns) kind where
  conforms := .pointer marked.conforms
  lies := .pointer marked.lies
  others := by
    intro other value lies
    cases lies with
    | pointer lies => exact (marked.others _ _ lies).imp_left (congrArg (List.cons Turn.pointer))

theorem IsMarkedAt.list (marked : table.IsMarkedAt shape node turns kind) :
    table.IsMarkedAt (.list shape) (.list [node]) (.list :: turns) kind where
  conforms := .list (List.forall_mem_singleton.2 marked.conforms)
  lies := .list (List.mem_singleton_self _) marked.lies
  others := by
    intro other value lies
    cases lies with
    | list item lies =>
        cases List.mem_singleton.1 item
        exact (marked.others _ _ lies).imp_left (congrArg (List.cons Turn.list))

theorem IsMarkedAt.map_key {other : Node} (marked : table.IsMarkedAt key node turns kind)
    (conforms : table.Conforms value other) (blank : table.IsBlank value other) :
    table.IsMarkedAt (.map key value) (.map [(node, other)]) (.key :: turns) kind where
  conforms := .map (List.forall_mem_singleton.2 marked.conforms)
    (List.forall_mem_singleton.2 conforms)
  lies := .key (List.mem_singleton_self _) marked.lies
  others := by
    intro following leaf lies
    cases lies with
    | key entry lies =>
        cases List.mem_singleton.1 entry
        exact (marked.others _ _ lies).imp_left (congrArg (List.cons Turn.key))
    | value entry lies =>
        cases List.mem_singleton.1 entry
        exact .inr (blank _ _ lies)

theorem IsMarkedAt.map_value {other : Node} (marked : table.IsMarkedAt value node turns kind)
    (conforms : table.Conforms key other) (blank : table.IsBlank key other) :
    table.IsMarkedAt (.map key value) (.map [(other, node)]) (.value :: turns) kind where
  conforms := .map (List.forall_mem_singleton.2 conforms)
    (List.forall_mem_singleton.2 marked.conforms)
  lies := .value (List.mem_singleton_self _) marked.lies
  others := by
    intro following leaf lies
    cases lies with
    | key entry lies =>
        cases List.mem_singleton.1 entry
        exact .inr (blank _ _ lies)
    | value entry lies =>
        cases List.mem_singleton.1 entry
        exact (marked.others _ _ lies).imp_left (congrArg (List.cons Turn.value))

theorem IsMarkedAt.isMarked (marked : table.IsMarkedAt shape node turns kind) :
    table.IsMarked shape node (Turn.steps turns) kind where
  conforms := marked.conforms
  lies := ⟨turns, marked.lies, rfl⟩
  others := fun other value lies => (marked.others other value lies).imp_left (congrArg Turn.steps)

theorem exists_markedAt (table : TypeTable) (container : shape.IsContainer)
    (member : (steps, kind) ∈ shape.places) :
    ∃ node turns, Turn.steps turns = steps ∧ table.IsMarkedAt shape node turns kind := by
  induction container generalizing steps with
  | leaf =>
      cases List.mem_singleton.1 member
      exact ⟨_, [], rfl, .leaf⟩
  | pointer _ induction =>
      obtain ⟨_, among, equal⟩ := List.mem_map.1 member
      cases equal
      obtain ⟨node, turns, along, marked⟩ := induction among
      exact ⟨_, _, by rw [Turn.steps_pointer, along], marked.pointer⟩
  | list _ induction =>
      obtain ⟨_, among, equal⟩ := List.mem_map.1 member
      cases equal
      obtain ⟨node, turns, along, marked⟩ := induction among
      exact ⟨_, _, by rw [Turn.steps_list, along], marked.list⟩
  | map keyContainer valueContainer keyInduction valueInduction =>
      obtain ⟨_, among, equal⟩ := List.mem_map.1 member
      cases equal
      rcases List.mem_append.1 among with among | among
      · obtain ⟨node, turns, along, marked⟩ := keyInduction among
        obtain ⟨other, conforms, blank⟩ := exists_blank table valueContainer
        exact ⟨_, _, by rw [Turn.steps_key, along], marked.map_key conforms blank⟩
      · obtain ⟨node, turns, along, marked⟩ := valueInduction among
        obtain ⟨other, conforms, blank⟩ := exists_blank table keyContainer
        exact ⟨_, _, by rw [Turn.steps_value, along], marked.map_value conforms blank⟩

theorem exists_marked (table : TypeTable) (container : shape.IsContainer)
    (member : (steps, kind) ∈ shape.places) : ∃ node, table.IsMarked shape node steps kind := by
  obtain ⟨node, turns, rfl, marked⟩ := table.exists_markedAt container member
  exact ⟨node, marked.isMarked⟩

end TypeTable

namespace Schema

/-- The condition on the label of a container that accepts every value finds the leaves behind the
steps to the first one.  These are all leaves of the container, in every record that conforms,
exactly if the container is even. -/
theorem wildcard_finds_container_iff_even [PropertyTable] {typeName reference label : Text}
    {table : TypeTable}
    {position : Nat} {field : FieldShape} {highlight : Bool}
    (sole : table.SoleField reference position field label)
    (container : field.shape.IsContainer) :
    ∃ predicate,
      (ofShape typeName table (.named reference)).compile
        (.base (.field { label, value := Matcher.wildcard, highlight })) = .ok predicate ∧
      (∀ node, table.Conforms (.named reference) node →
        predicate.Finds table field node fun turns _ =>
          Turn.steps turns = field.shape.firstSteps) ∧
      ((∀ node, table.Conforms (.named reference) node →
        predicate.Finds table field node fun _ _ => True) ↔ field.shape.IsEven) := by
  obtain ⟨path, _, compiles⟩ := sole.exists_condition container typeName
  obtain ⟨predicate, compiled, tested⟩ := compiles _ highlight _ path.leafTest_wildcard
  have finds (node : Node) (conforms : table.Conforms (.named reference) node) :
      predicate.Finds table field node fun turns _ =>
        Turn.steps turns = field.shape.firstSteps :=
    (tested node conforms).congr fun turns value _ => by
      rw [path.accepts_wildcardTest]
      exact and_iff_left rfl
  refine ⟨predicate, compiled, finds, ⟨?_, ?_⟩⟩
  · intro all place member
    by_contra uneven
    obtain ⟨node, marked⟩ := table.exists_marked container member
    have conforms := sole.conforms_record marked.conforms
    have inside : (Node.record [(field.name, node)]).field field.name = node := by
      simp [Node.field, Node.fieldNamed]
    obtain ⟨turns, lies, along⟩ := marked.lies
    have listed := ((all _ conforms).lists field.name place.2.marked.render).2
      ⟨rfl, turns, _, inside.symm ▸ lies, trivial, rfl⟩
    obtain ⟨_, others, value, otherLies, first, rendered⟩ := ((finds _ conforms).lists _ _).1 listed
    rw [inside] at otherLies
    rcases marked.others _ _ otherLies with same | ⟨kind, rfl⟩
    · exact uneven (same.symm.trans first)
    · exact LeafKind.render_marked_ne_render_blank _ _ rendered
  · intro even node conforms
    refine (finds node conforms).congr fun turns value lies => iff_true_intro ?_
    obtain ⟨kind, member⟩ := lies.exists_mem_places container
    exact even _ member

end Schema

namespace Samples

/-- The leaves of switches with names all lie behind the same steps, so all of them are found. -/
theorem wildcard_finds_container_iff_even_switches :
    (taggedTable (Dictionary Text Bool)).SoleField "Tagged".toList 0
        (taggedField (Dictionary Text Bool)) "Value".toList ∧
      ∃ predicate,
        (Schema.ofShape "Tagged".toList (taggedTable (Dictionary Text Bool))
            (.named "Tagged".toList)).compile
          (.matchField "Value".toList Matcher.wildcard) = .ok predicate ∧
        ∀ node, (taggedTable (Dictionary Text Bool)).Conforms (.named "Tagged".toList) node →
          predicate.Finds (taggedTable (Dictionary Text Bool))
            (taggedField (Dictionary Text Bool)) node fun _ _ => True := by
  have container : (taggedField (Dictionary Text Bool)).shape.IsContainer := .map .leaf .leaf
  have sole := taggedTable_sole container
  obtain ⟨predicate, compiled, _, even⟩ := Schema.wildcard_finds_container_iff_even sole container
  exact ⟨sole, predicate, compiled, even.2 (by decide)⟩

abbrev Buckets := Dictionary UInt32 (List Text)

def northBucket : Node :=
  Inspectable.node (⟨⟨[(7, ["north".toList])]⟩⟩ : Tagged Buckets)

/-- Of a bucket only the number is found, though the place in it is a leaf of the same field. -/
theorem bucket_content_not_found :
    (taggedTable Buckets).SoleField "Tagged".toList 0 (taggedField Buckets) "Value".toList ∧
      (taggedField Buckets).shape.IsContainer ∧
      (taggedTable Buckets).Conforms (.named "Tagged".toList) northBucket ∧
      ∃ predicate,
        (Schema.ofShape "Tagged".toList (taggedTable Buckets) (.named "Tagged".toList)).compile
          (.matchField "Value".toList Matcher.wildcard) = .ok predicate ∧
        predicate.ReportsAt northBucket "value".toList "7".toList ∧
        ¬predicate.Finds (taggedTable Buckets) (taggedField Buckets) northBucket
          fun _ _ => True := by
  have container : (taggedField Buckets).shape.IsContainer := .map .leaf (.list .leaf)
  have sole := taggedTable_sole container
  have conforms : (taggedTable Buckets).Conforms (Shaped.shape Buckets)
      (Inspectable.node (⟨[(7, ["north".toList])]⟩ : Buckets)) :=
    .map (List.forall_mem_singleton.2 (.leaf rfl))
      (List.forall_mem_singleton.2 (.list (List.forall_mem_singleton.2 (.leaf rfl))))
  have lies : (taggedTable Buckets).LiesAt (taggedField Buckets).shape
      (northBucket.field (taggedField Buckets).name) [.value, .list] (.string "north".toList) :=
    .value (List.mem_singleton_self _) (.list (List.mem_singleton_self _) .leaf)
  refine ⟨sole, container, sole.conforms_record conforms, _, rfl, ?_, fun finds => ?_⟩
  · exact ⟨_, rfl, _, rfl, List.mem_singleton_self _⟩
  · obtain ⟨result, evaluated, values, found, member⟩ :=
      (finds.lists "value".toList "north".toList).2 ⟨rfl, _, _, lies, trivial, rfl⟩
    cases evaluated
    cases found
    cases List.mem_singleton.1 member

end Samples

end RecordSearch
