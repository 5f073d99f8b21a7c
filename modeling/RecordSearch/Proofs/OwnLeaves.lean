import RecordSearch.Proofs.NamesApart

/-!
# A label reads its own leaves

The condition on a label looks at the leaves along the steps of the label.  It
reads leaves with this label only, exactly if all leaves along these steps have
it.  Steps without maps lead to one place, which has the label.  A step into a
map leads to its keys and its values alike, so behind it the leaf of another
label, or of none, may be read.
-/

namespace RecordSearch

/-- A leaf at the end of the turns has the label, in any case. -/
def Turn.AreFor (label : Text) (turns : List Turn) : Prop :=
  ∃ spelled, governing none turns = some spelled ∧ Text.lower spelled = Text.lower label

/-- All leaves that lie along the steps, in any conforming node, have the label. -/
def TypeTable.LabelsAlong (table : TypeTable) (shape : Shape) (steps : List Step)
    (label : Text) : Prop :=
  ∀ node turns value, table.Conforms shape node → table.LiesAt shape node turns value →
    Turn.steps turns = steps → Turn.AreFor label turns

/-- The predicate holds at the node if the test accepts a leaf along the path, and reports the texts
of the accepted leaves. -/
structure Predicate.FindsAlong (predicate : Predicate) (table : TypeTable) (shape : Shape)
    (path : FieldPath) (test : LeafTest) (node : Node) : Prop where
  holds : predicate.HoldsAt node ↔
    ∃ turns value, table.LiesAt shape node turns value ∧ Turn.steps turns = path.steps ∧
      test.accepts value = true
  reports : ∀ key text, predicate.ReportsAt node key text ↔
    key = path.wirePath ∧
      ∃ turns value, table.LiesAt shape node turns value ∧ Turn.steps turns = path.steps ∧
        test.accepts value = true ∧ text = value.render

namespace Schema

variable {typeName label : Text} {table : TypeTable} {shape : Shape} {path : FieldPath}

theorem labelsAlong_of_straight (known : (ofShape typeName table shape).get? label = some path)
    (apart : table.NamesApart) (straight : .map ∉ path.steps) :
    table.LabelsAlong shape path.steps label := by
  obtain ⟨route, ⟨_, way, _, governed⟩, concerned, same⟩ := exists_route_for_of_get? known
  intro node turns value _ lies along
  rw [← same] at straight along
  rw [way.eq_of_steps apart straight lies along]
  exact ⟨route.label, governed, beq_iff_eq.1 concerned⟩

variable [PropertyTable]

/-- All texts that some condition on the label reports are texts of leaves with the label. -/
def ReadsOwnLeaves (schema : Schema) (table : TypeTable) (shape : Shape) (label : Text) : Prop :=
  ∀ literal highlight predicate,
    schema.compile (.base (.field { label, value := literal, highlight })) = .ok predicate →
    ∀ node, table.Conforms shape node → ∀ key text, predicate.ReportsAt node key text →
      ∃ turns value, table.LiesAt shape node turns value ∧ Turn.AreFor label turns ∧
        text = value.render

theorem exists_findsAlong {literal : Text} {highlight : Bool} {predicate : Predicate}
    (known : (ofShape typeName table shape).get? label = some path)
    (compiled : (ofShape typeName table shape).compile
      (.base (.field { label, value := literal, highlight })) = .ok predicate) :
    ∃ test, path.leafTest literal = .ok test ∧
      ∀ node, table.Conforms shape node → predicate.FindsAlong table shape path test node := by
  rw [compile_eq_compileNested rfl, compileNested, compileCondition] at compiled
  rcases compileField_eq_ok_iff.1 compiled with ⟨unknown, _⟩ | ⟨_, test, found, tested, rfl⟩
  · cases known.symm.trans unknown
  · cases known.symm.trans found
    refine ⟨test, tested, fun node conforms => ?_⟩
    constructor
    · rw [Predicate.holdsAt_wrap_leaf_iff_placed fun _ => reaches_iff_liesAt known conforms]
      simp only [and_assoc]
    · intro key text
      rw [Predicate.reportsAt_wrap_leaf_iff_placed fun _ => reaches_iff_liesAt known conforms,
        (FieldPath.leafTest_eq_ok_iff.1 tested).1]
      simp only [and_assoc]

theorem readsOwnLeaves_of_labelsAlong
    (known : (ofShape typeName table shape).get? label = some path)
    (own : table.LabelsAlong shape path.steps label) :
    (ofShape typeName table shape).ReadsOwnLeaves table shape label := by
  intro literal highlight predicate compiled node conforms key text reported
  obtain ⟨test, _, finds⟩ := exists_findsAlong known compiled
  obtain ⟨_, turns, value, lies, along, _, rendered⟩ :=
    ((finds node conforms).reports key text).1 reported
  exact ⟨turns, value, lies, own node turns value conforms lies along, rendered⟩

/-- If some leaf along the steps does not have the label, a record in which that leaf is marked
shows it. -/
theorem labelsAlong_of_readsOwnLeaves
    (known : (ofShape typeName table shape).get? label = some path) (apart : table.NamesApart)
    (reads : (ofShape typeName table shape).ReadsOwnLeaves table shape label) :
    table.LabelsAlong shape path.steps label := by
  intro node turns value conforms lies along
  obtain ⟨other, kind, marked⟩ := lies.exists_markedAt conforms apart
  have compiled := compile_field true known path.leafTest_wildcard
  have reported := reportsAt_wildcard_iff.2
    ⟨rfl, _, reaches_of_liesAt known marked.lies along, rfl⟩
  obtain ⟨places, leaf, otherLies, own, rendered⟩ :=
    reads _ _ _ compiled other marked.conforms _ _ reported
  rcases marked.others places leaf otherLies with rfl | ⟨blank, rfl⟩
  · exact own
  · exact absurd rendered (LeafKind.render_marked_ne_render_blank kind blank)

/-- Each condition on a label finds what its test accepts among the leaves along the steps of the
label.  So it reads only leaves with the label if all leaves along these steps have it.  In a table
without repeated names this is necessary as well, and it holds of all steps that enter no map. -/
theorem reads_own_leaves_iff (known : (ofShape typeName table shape).get? label = some path) :
    (∀ literal highlight predicate,
      (ofShape typeName table shape).compile
        (.base (.field { label, value := literal, highlight })) = .ok predicate →
      ∃ test, path.leafTest literal = .ok test ∧
        ∀ node, table.Conforms shape node → predicate.FindsAlong table shape path test node) ∧
    (table.LabelsAlong shape path.steps label →
      (ofShape typeName table shape).ReadsOwnLeaves table shape label) ∧
    (table.NamesApart →
      ((ofShape typeName table shape).ReadsOwnLeaves table shape label ↔
        table.LabelsAlong shape path.steps label) ∧
      (.map ∉ path.steps → table.LabelsAlong shape path.steps label)) := by
  have sufficient := readsOwnLeaves_of_labelsAlong known
  refine ⟨fun _ _ _ => exists_findsAlong known, sufficient, fun apart => ⟨⟨?_, sufficient⟩, ?_⟩⟩
  · exact labelsAlong_of_readsOwnLeaves known apart
  · exact labelsAlong_of_straight known apart

end Schema

namespace Samples

def peopleTable : TypeTable where
  definitions := peopleTypes

/-- The roles of members lie along steps through a list, so a condition on them reads only them. -/
theorem reads_own_leaves_iff_roles :
    (Schema.ofShape "Item".toList peopleTable (Shaped.shape Item)).get? "role".toList =
        some { steps := [.field "members".toList, .list, .field "role".toList], leaf := .string } ∧
      (Schema.ofShape "Item".toList peopleTable (Shaped.shape Item)).ReadsOwnLeaves peopleTable
        (Shaped.shape Item) "role".toList := by
  have known : (Schema.ofShape "Item".toList peopleTable (Shaped.shape Item)).get? "role".toList =
      some { steps := [.field "members".toList, .list, .field "role".toList], leaf := .string } :=
    rfl
  have apart : peopleTable.NamesApart := by decide
  obtain ⟨_, reads, necessary⟩ := Schema.reads_own_leaves_iff known
  exact ⟨known, reads ((necessary apart).2 (by decide))⟩

structure Host where
  name : Text

def Host.nameField : FieldView Host := .labelled "name" "Host" (·.name)

instance : Shaped Host := ⟨.named "Host".toList⟩
instance : Inspectable Host := ⟨FieldView.node [Host.nameField]⟩

structure Service where
  name : Text

def Service.nameField : FieldView Service := .labelled "name" "Service" (·.name)

instance : Shaped Service := ⟨.named "Service".toList⟩
instance : Inspectable Service := ⟨FieldView.node [Service.nameField]⟩

/-- What runs where. -/
structure Placement where
  running : Dictionary Host Service

def Placement.runningField : FieldView Placement := .plain "running" (·.running)

instance : Shaped Placement := ⟨.named "Placement".toList⟩
instance : Inspectable Placement := ⟨FieldView.node [Placement.runningField]⟩

def placementTable : TypeTable where
  definitions := [
    FieldView.definition "Placement" [Placement.runningField],
    FieldView.definition "Host" [Host.nameField],
    FieldView.definition "Service" [Service.nameField]]

def mailOnWeb : Placement where
  running := ⟨[(⟨"web".toList⟩, ⟨"mail".toList⟩)]⟩

/-- The condition on hosts reads the name of a service, which has another label. -/
theorem host_found_by_service :
    placementTable.NamesApart ∧
      placementTable.Conforms (Shaped.shape Placement) (Inspectable.node mailOnWeb) ∧
      (∃ predicate,
        (Schema.ofShape "Placement".toList placementTable (Shaped.shape Placement)).compile
          (.matchField "Host".toList "mail".toList) = .ok predicate ∧
        predicate.ReportsAt (Inspectable.node mailOnWeb) "running.name".toList "mail".toList) ∧
      ¬∃ turns value, placementTable.LiesAt (Shaped.shape Placement) (Inspectable.node mailOnWeb)
        turns value ∧ Turn.AreFor "Host".toList turns ∧ "mail".toList = value.render := by
  have apart : placementTable.NamesApart := by decide
  have placement : placementTable.find? "Placement".toList =
      some { typeName := "Placement".toList, body := .record [Placement.runningField.described] } :=
    rfl
  have host : placementTable.find? "Host".toList =
      some { typeName := "Host".toList, body := .record [Host.nameField.described] } := rfl
  have service : placementTable.find? "Service".toList =
      some { typeName := "Service".toList, body := .record [Service.nameField.described] } := rfl
  have running : [Placement.runningField.described][0]? = some Placement.runningField.described :=
    rfl
  have hostName : [Host.nameField.described][0]? = some Host.nameField.described := rfl
  have serviceName : [Service.nameField.described][0]? = some Service.nameField.described := rfl
  refine ⟨apart, ?_, ⟨_, rfl, ?_⟩, ?_⟩
  · refine apart.conforms_singleton placement running ?_
    refine .map (List.forall_mem_singleton.2 ?_) (List.forall_mem_singleton.2 ?_)
    · exact apart.conforms_singleton host hostName (.leaf rfl)
    · exact apart.conforms_singleton service serviceName (.leaf rfl)
  · exact ⟨_, rfl, _, rfl, List.mem_singleton_self _⟩
  · intro found
    obtain ⟨turns, value, lies, ⟨spelled, governed, same⟩, rendered⟩ := found
    obtain ⟨_, rfl, inside⟩ := lies.of_singleton apart placement running
    cases inside with
    | key among named =>
        cases List.mem_singleton.1 among
        obtain ⟨_, rfl, text⟩ := named.of_singleton apart host hostName
        cases text
        cases rendered
    | value among named =>
        cases List.mem_singleton.1 among
        obtain ⟨_, rfl, text⟩ := named.of_singleton apart service serviceName
        cases text
        cases governed
        revert same
        decide

end Samples

end RecordSearch
