import RecordSearch.Proofs.Conformance
import RecordSearch.Proofs.LabelledRoutes
import RecordSearch.Proofs.QueryMeaning
import RecordSearch.Samples.Deployments
import RecordSearch.Samples.Properties

/-!
# Leaves at registered places

The walk that registers labels and the evaluation of a condition follow the
same steps: a condition that accepts every value lists each leaf at a place
along the steps of its label, and in a conforming node nothing else.
-/

namespace RecordSearch

namespace FieldPath

variable (path : FieldPath)

def wildcardTest : LeafTest where
  key := path.wirePath
  matchers := path.leaves.map fun kind => (kind, .anything)

theorem leafTest_wildcard [PropertyTable] :
    path.leafTest Matcher.wildcard = .ok path.wildcardTest := by
  unfold leafTest wildcardTest
  refine Run.bind_eq_ok_iff.2 ⟨_, ?_, rfl⟩
  induction path.leaves with
  | nil => rfl
  | cons kind kinds induction =>
      exact Run.mapM_cons_eq_ok_iff.2 ⟨_, _, rfl, induction, rfl⟩

theorem accepts_wildcardTest (value : Value) : path.wildcardTest.accepts value = true := by
  have anything : ∃ matcher, path.wildcardTest.matcherFor value = some matcher ∧
      matcher = .anything := by
    unfold LeafTest.matcherFor
    split
    · rename_i entry found
      obtain ⟨kind, _, rfl⟩ := List.mem_map.1 (List.mem_of_find?_eq_some found)
      exact ⟨_, rfl, rfl⟩
    · exact ⟨_, rfl, rfl⟩
  obtain ⟨_, chosen, rfl⟩ := anything
  rw [LeafTest.accepts, chosen]
  rfl

end FieldPath

namespace Schema

theorem compile_field [PropertyTable] {schema : Schema} {label literal : Text} {path : FieldPath}
    {test : LeafTest} (highlight : Bool) (known : schema.get? label = some path)
    (compiled : path.leafTest literal = .ok test) :
    schema.compile (.base (.field { label, value := literal, highlight })) =
      .ok (.wrap path.steps (.leaf test)) := by
  rw [compile_eq_compileNested rfl, compileNested, compileCondition, compileField, known]
  exact Run.bind_eq_ok_iff.2 ⟨test, compiled, rfl⟩

theorem reportsAt_wildcard_iff {path : FieldPath} {node : Node} {key text : Text} :
    (Predicate.wrap path.steps (.leaf path.wildcardTest)).ReportsAt node key text ↔
      key = path.wirePath ∧
        ∃ value, node.Reaches path.steps (.leaf value) ∧ text = value.render := by
  rw [Predicate.reportsAt_wrap_leaf_iff]
  constructor
  · intro reported
    obtain ⟨value, reaches, _, listed, rendered⟩ := reported
    exact ⟨listed, value, reaches, rendered⟩
  · intro reached
    obtain ⟨listed, value, reaches, rendered⟩ := reached
    exact ⟨value, reaches, path.accepts_wildcardTest value, listed, rendered⟩

section Places

variable {typeName label : Text} {table : TypeTable} {shape : Shape} {path : FieldPath}
  {node : Node} {turns : List Turn} {value : Value}

theorem reaches_of_liesAt (known : (ofShape typeName table shape).get? label = some path)
    (lies : table.LiesAt shape node turns value) (along : Turn.steps turns = path.steps) :
    node.Reaches path.steps (.leaf value) := by
  obtain ⟨route, ⟨_, way, _⟩, _, same⟩ := exists_route_for_of_get? known
  have enters : Step.EntersRecords path.steps := same ▸ way.entersRecords
  rw [← along] at enters ⊢
  exact lies.reaches enters

/-- In a conforming node the steps of a label lead to the leaves that lie along them, and to no
other leaves. -/
theorem reaches_iff_liesAt (known : (ofShape typeName table shape).get? label = some path)
    (conforms : table.Conforms shape node) :
    node.Reaches path.steps (.leaf value) ↔
      ∃ turns, table.LiesAt shape node turns value ∧ Turn.steps turns = path.steps := by
  constructor
  · exact conforms.exists_liesAt
  · intro placed
    obtain ⟨turns, lies, along⟩ := placed
    exact reaches_of_liesAt known lies along

end Places

/-- A label of a shape finds what the shape has under it.  The condition on the label that accepts
every value lists each leaf that lies along the steps of the label, in any node; and in a node that
conforms to the shape it lists nothing else. -/
theorem wildcard_lists_leaves_along_label [PropertyTable] {typeName label : Text}
    {table : TypeTable}
    {shape : Shape} {path : FieldPath} {highlight : Bool}
    (known : (ofShape typeName table shape).get? label = some path) :
    ∃ predicate,
      (ofShape typeName table shape).compile
        (.base (.field { label, value := Matcher.wildcard, highlight })) = .ok predicate ∧
      ∀ node,
        (∀ turns value, table.LiesAt shape node turns value → Turn.steps turns = path.steps →
          ∃ result, predicate.evaluateNode node = some result ∧
            result.Lists path.wirePath value.render) ∧
        (table.Conforms shape node →
          ∀ result, predicate.evaluateNode node = some result →
            ∀ key text, result.Lists key text ↔
              key = path.wirePath ∧
                ∃ turns value, table.LiesAt shape node turns value ∧
                  Turn.steps turns = path.steps ∧ text = value.render) := by
  refine ⟨_, compile_field highlight known path.leafTest_wildcard, fun node => ⟨?_, ?_⟩⟩
  · intro turns value lies same
    exact reportsAt_wildcard_iff.2 ⟨rfl, value, reaches_of_liesAt known lies same, rfl⟩
  · intro conforms result evaluated key text
    rw [← Predicate.reportsAt_iff_lists evaluated, reportsAt_wildcard_iff]
    simp only [reaches_iff_liesAt known conforms]
    refine and_congr_right fun _ => ⟨?_, ?_⟩
    · intro found
      obtain ⟨value, ⟨turns, lies, same⟩, rendered⟩ := found
      exact ⟨turns, value, lies, same, rendered⟩
    · intro placed
      obtain ⟨turns, value, lies, same, rendered⟩ := placed
      exact ⟨value, ⟨turns, lies, same⟩, rendered⟩

end Schema

namespace Samples

def deploymentTable : TypeTable where
  definitions := deploymentTypes

/-- A volume at a directory of the host, which is a variant with a record behind a pointer. -/
def mounted : VolumeSource :=
  .hostPath ⟨{ path := "/var".toList }⟩

theorem conforms_hostPath (directory : HostPath) :
    deploymentTable.Conforms (Shaped.shape HostPath) (Inspectable.node directory) := by
  have found : deploymentTable.find? "HostPath".toList =
      some { typeName := "HostPath".toList, body := .record (HostPath.fields.map (·.described)) } :=
    rfl
  apply TypeTable.Conforms.singleton found List.mem_cons_self
  · intro other member _
    rw [List.mem_singleton.1 member]
  · exact .leaf rfl

theorem wildcard_lists_leaves_along_label_mounted :
    deploymentTable.Conforms (Shaped.shape VolumeSource) (Inspectable.node mounted) ∧
      ∃ predicate,
        (Schema.ofShape "VolumeSource".toList deploymentTable
            (Shaped.shape VolumeSource)).compile
          (.matchField "host path".toList Matcher.wildcard) = .ok predicate ∧
        ∃ result, predicate.evaluateNode (Inspectable.node mounted) = some result ∧
          result.Lists "host_path.path".toList "/var".toList := by
  have variant : VolumeSource.variants[1]? =
      some { name := "host_path".toList, payload := some (Shaped.shape (Indirect HostPath)) } := rfl
  have field : (HostPath.fields.map (·.described))[0]? =
      some { name := "path".toList, label := some "Host Path".toList, shape := .leaf .string } :=
    rfl
  have lies : deploymentTable.LiesAt (Shaped.shape VolumeSource) (Inspectable.node mounted) _
      (.string "/var".toList) := .variant rfl variant rfl (.pointer (.field rfl field .leaf))
  have known : (Schema.ofShape "VolumeSource".toList deploymentTable
      (Shaped.shape VolumeSource)).get? "host path".toList =
        some { steps := [.variant "host_path".toList, .field "path".toList], leaf := .string } :=
    rfl
  constructor
  · exact .variant rfl (List.mem_of_getElem? variant) rfl (.pointer (conforms_hostPath _))
  · obtain ⟨predicate, compiled, listed⟩ := Schema.wildcard_lists_leaves_along_label known
    exact ⟨predicate, compiled, (listed (Inspectable.node mounted)).1 _ _ lies rfl⟩

end Samples

end RecordSearch
