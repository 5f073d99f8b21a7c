import RecordSearch.Proofs.LiteralTests
import RecordSearch.Proofs.RegisteredPlaces
import RecordSearch.Proofs.SoleLabels
import RecordSearch.Samples.People

/-!
# Conditions on sole fields

If a label belongs to a single field, a condition on the label tests the leaves
behind the steps to the first leaf of that field, and lists those that it
accepts under the name of the field.
-/

namespace RecordSearch

namespace Shape

theorem filterMap_name?_firstSteps (shape : Shape) :
    shape.firstSteps.filterMap Step.name? = [] := by
  induction shape with
  | pointer _ induction => exact induction
  | list _ induction => exact induction
  | map _ _ induction _ => exact induction
  | _ => rfl

end Shape

namespace FieldPath

variable {path : FieldPath}

theorem wirePath_eq_of_steps {name : Text} {shape : Shape}
    (steps : path.steps = .field name :: shape.firstSteps) : path.wirePath = name := by
  rw [wirePath, steps, List.filterMap_cons, Step.name?, shape.filterMap_name?_firstSteps]
  rfl

end FieldPath

/-- What the predicate finds at the node are the chosen leaves of the field: it holds if there is
one, and lists the texts of exactly these under the name of the field. -/
structure Predicate.Finds (predicate : Predicate) (table : TypeTable) (field : FieldShape)
    (node : Node) (chosen : List Turn → Value → Prop) : Prop where
  holds : predicate.HoldsAt node ↔
    ∃ turns value, table.LiesAt field.shape (node.field field.name) turns value ∧
      chosen turns value
  lists : ∀ key text, predicate.ReportsAt node key text ↔
    key = field.name ∧
      ∃ turns value, table.LiesAt field.shape (node.field field.name) turns value ∧
        chosen turns value ∧ text = value.render

theorem Predicate.Finds.congr {predicate : Predicate} {table : TypeTable} {field : FieldShape}
    {node : Node} {chosen other : List Turn → Value → Prop}
    (finds : predicate.Finds table field node chosen)
    (same : ∀ turns value, table.LiesAt field.shape (node.field field.name) turns value →
      (chosen turns value ↔ other turns value)) :
    predicate.Finds table field node other := by
  constructor
  · rw [finds.holds]
    exact exists₂_congr fun turns value => and_congr_right fun lies => same turns value lies
  · intro key text
    rw [finds.lists]
    exact and_congr_right fun _ => exists₂_congr fun turns value =>
      and_congr_right fun lies => and_congr_left fun _ => same turns value lies

namespace TypeTable

variable {table : TypeTable} {reference label : Text} {position : Nat} {field : FieldShape}

theorem SoleField.conforms_record {node : Node}
    (sole : table.SoleField reference position field label)
    (conforms : table.Conforms field.shape node) :
    table.Conforms (.named reference) (.record [(field.name, node)]) := by
  obtain ⟨typeName, fields, found, declared, unique⟩ := sole.declared
  refine .singleton found (List.mem_of_getElem? declared) (fun other among same => ?_) conforms
  obtain ⟨place, again⟩ := List.mem_iff_getElem?.1 among
  obtain rfl := unique place other again same
  exact Option.some.inj (again.symm.trans declared)

theorem SoleField.finds (sole : table.SoleField reference position field label)
    (container : field.shape.IsContainer) {node : Node}
    (conforms : table.Conforms (.named reference) node) {test : LeafTest}
    (key : test.key = field.name) :
    (Predicate.wrap (.field field.name :: field.shape.firstSteps) (.leaf test)).Finds
      table field node fun turns value =>
        Turn.steps turns = field.shape.firstSteps ∧ test.accepts value = true := by
  constructor
  · rw [Predicate.holdsAt_wrap_leaf_iff_placed fun _ => sole.reaches_iff container conforms]
    simp only [and_assoc]
  · intro listed text
    rw [Predicate.reportsAt_wrap_leaf_iff_placed fun _ => sole.reaches_iff container conforms, key]
    simp only [and_assoc]

/-- The condition on the label of a sole field has a test of the kinds of leaves behind the steps to
the first leaf of the field.  If a literal compiles for these, the condition finds what the test
accepts behind the steps. -/
theorem SoleField.exists_condition [PropertyTable]
    (sole : table.SoleField reference position field label)
    (container : field.shape.IsContainer) (typeName : Text) :
    ∃ path : FieldPath,
      path.leaves = ((field.shape.places.filter fun place =>
        place.1 == field.shape.firstSteps).map (·.2)).eraseDups ∧
      ∀ literal highlight test, path.leafTest literal = .ok test →
        ∃ predicate,
          (Schema.ofShape typeName table (.named reference)).compile
            (.base (.field { label, value := literal, highlight })) = .ok predicate ∧
          ∀ node, table.Conforms (.named reference) node →
            predicate.Finds table field node fun turns value =>
              Turn.steps turns = field.shape.firstSteps ∧ test.accepts value = true := by
  obtain ⟨path, known, steps, leaves⟩ := sole.get? container typeName
  refine ⟨path, leaves, fun literal highlight test compiled => ?_⟩
  refine ⟨_, Schema.compile_field highlight known compiled, fun node conforms => ?_⟩
  have key : test.key = field.name :=
    (FieldPath.leafTest_eq_ok_iff.1 compiled).1.trans (FieldPath.wirePath_eq_of_steps steps)
  rw [steps]
  exact sole.finds container conforms key

end TypeTable

namespace Samples

section Tagged

variable (α : Type) [Inspectable α] [Shaped α]

def taggedField : FieldShape where
  name := "value".toList
  label := some "Value".toList
  shape := Shaped.shape α

/-- The table of a tagged value, in which nothing else is described. -/
def taggedTable : TypeTable where
  definitions := [FieldView.definition "Tagged" (Tagged.fields : List (FieldView (Tagged α)))]

variable {α}

theorem taggedTable_sole (container : (taggedField α).shape.IsContainer) :
    (taggedTable α).SoleField "Tagged".toList 0 (taggedField α) "Value".toList := by
  have found : (taggedTable α).find? "Tagged".toList =
      some { typeName := "Tagged".toList, body := .record [taggedField α] } := rfl
  have first {place : Nat} {other : FieldShape} (declared : [taggedField α][place]? = some other) :
      place = 0 := by
    cases place with
    | zero => rfl
    | succ place => cases declared
  exact .of_containers found (List.forall_mem_singleton.2 container) rfl rfl
    (fun _ _ declared _ => first declared) (fun _ _ _ declared _ _ => first declared)

end Tagged

end Samples

end RecordSearch
