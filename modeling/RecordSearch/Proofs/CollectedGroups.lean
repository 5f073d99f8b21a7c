import Mathlib.Data.List.Induction
import RecordSearch.Proofs.Collapsing
import RecordSearch.Query.Builder

/-!
# What a builder collects

What a builder has collected after some steps is a function of the steps alone: every step adds
its group, and the conditions of the group are marked if a step before it turned highlighting on.
The built query is a collapsed conjunction of these groups, or an exclusion if some step excludes.
-/

namespace RecordSearch

namespace QueryBuilder

namespace Step

def turnsOn : Step → Bool
  | .highlighted => true
  | _ => false

def isExclusion : Step → Bool
  | .exclude _ _ => true
  | _ => false

/-- Whether the step asks for one of no values. -/
def lacksValues : Step → Bool
  | .addStrings _ values => values.isEmpty
  | .exclude _ values => values.isEmpty
  | _ => false

/-- Whether the step adds a group; the empty query adds none. -/
def addsGroup : Step → Bool
  | .highlighted => false
  | .addQuery query => !query.isEmpty
  | _ => true

def mark (highlight : Bool) (field : FieldMatch) : FieldMatch :=
  { field with highlight := field.highlight || highlight }

def alternatives (highlight : Bool) (label : Text) (values : List Text) : List FieldMatch :=
  values.map fun value => { label, value, highlight }

/-- The collapsed disjunction of these conditions. -/
def anyValue (highlight : Bool) (label : Text) (values : List Text) : Query :=
  .anyOf ((alternatives highlight label values).map fun field => .base (.field field))

def fields (highlight : Bool) : Step → List FieldMatch
  | .highlighted => []
  | .addStrings label values => alternatives highlight label values
  | .addLinked group => group.map (mark highlight)
  | .addQuery query => query.fields
  | .exclude label values => alternatives highlight label values

def groups (highlight : Bool) : Step → List Query
  | .highlighted => []
  | .addStrings label values => [anyValue highlight label values]
  | .addLinked group => [.matchLinked (group.map (mark highlight))]
  | .addQuery query => if query.isEmpty then [] else [query]
  | .exclude label values => [anyValue highlight label values]

/-- The group that the step adds to what is excluded, or to what has to hold. -/
def groupsOf (excluded highlight : Bool) (step : Step) : List Query :=
  if step.isExclusion = excluded then step.groups highlight else []

variable {step : Step} {highlight : Bool} {label : Text} {values : List Text}

theorem fields_anyValue :
    (anyValue highlight label values).fields = alternatives highlight label values := by
  simp [anyValue, List.flatMap_map]

theorem anyValue_eq_empty_iff : anyValue highlight label values = .empty ↔ values = [] := by
  cases values with
  | nil => exact iff_of_true rfl rfl
  | cons value values =>
      cases values <;> simp [anyValue, alternatives, Query.anyOf, Query.collapse]

theorem empty_mem_groups_iff : .empty ∈ step.groups highlight ↔ step.lacksValues = true := by
  cases step with
  | highlighted => simp [groups, lacksValues]
  | addStrings label values =>
      rw [groups, List.mem_singleton, eq_comm, anyValue_eq_empty_iff, lacksValues,
        List.isEmpty_iff]
  | addLinked group => simp [groups, lacksValues, Query.matchLinked]
  | addQuery query => cases query <;> simp [groups, lacksValues, Query.isEmpty]
  | exclude label values =>
      rw [groups, List.mem_singleton, eq_comm, anyValue_eq_empty_iff, lacksValues,
        List.isEmpty_iff]

theorem length_groups : (step.groups highlight).length = step.addsGroup.toNat := by
  cases step with
  | addQuery query => cases query <;> rfl
  | _ => rfl

theorem fields_groups : (step.groups highlight).flatMap Query.fields = step.fields highlight := by
  cases step with
  | highlighted => rfl
  | addStrings label values => rw [groups, List.flatMap_singleton, fields_anyValue, fields]
  | addLinked group => simp [groups, fields, Query.matchLinked]
  | addQuery query => cases query <;> simp [groups, fields, Query.isEmpty]
  | exclude label values => rw [groups, List.flatMap_singleton, fields_anyValue, fields]

end Step

def history : List Step → List (List Step × Step)
  | [] => []
  | step :: steps => ([], step) :: (history steps).map fun turn => (step :: turn.1, turn.2)

/-- The groups that some steps add to what is excluded, or to what has to hold. -/
def groupsOf (excluded : Bool) (steps : List Step) : List Query :=
  (history steps).flatMap fun turn => turn.2.groupsOf excluded (turn.1.any Step.turnsOn)

/-- The query that some steps build. -/
def built (steps : List Step) : Query :=
  (applyAll {} steps).build

variable {steps : List Step} {excluded : Bool}

theorem history_concat (steps : List Step) (last : Step) :
    history (steps ++ [last]) = history steps ++ [(steps, last)] := by
  induction steps with
  | nil => rfl
  | cons step steps induction => simp [history, induction]

theorem map_history : (history steps).map (·.2) = steps := by
  induction steps with
  | nil => rfl
  | cons step steps induction =>
      rw [history, List.map_cons, List.map_map]
      exact congrArg (step :: ·) induction

theorem forall_history_iff {Property : Step → Prop} :
    (∀ turn ∈ history steps, Property turn.2) ↔ ∀ step ∈ steps, Property step := by
  have same := List.forall_mem_map (l := history steps) (f := (·.2)) (P := Property)
  rw [map_history] at same
  exact same.symm

theorem groupsOf_concat (excluded : Bool) (steps : List Step) (last : Step) :
    groupsOf excluded (steps ++ [last]) =
      groupsOf excluded steps ++ last.groupsOf excluded (steps.any Step.turnsOn) := by
  rw [groupsOf, groupsOf, history_concat, List.flatMap_append, List.flatMap_singleton]

/-- What one step adds to what has been collected. -/
theorem apply_eq (builder : QueryBuilder) (step : Step) :
    builder.apply step = {
      must := builder.must ++ step.groupsOf false builder.highlight
      mustNot := builder.mustNot ++ step.groupsOf true builder.highlight
      highlight := builder.highlight || step.turnsOn } := by
  have group (label : Text) (values : List Text) :
      builder.fieldGroup label values = Step.anyValue builder.highlight label values := by
    simp [fieldGroup, Step.anyValue, Step.alternatives, Function.comp_def]
  cases step with
  | highlighted => simp [apply, Step.groupsOf, Step.groups, highlighted, Step.turnsOn]
  | addStrings label values =>
      simp [apply, Step.groupsOf, Step.isExclusion, Step.groups, addStrings, group, Step.turnsOn]
  | addLinked fields =>
      simp [apply, Step.groupsOf, Step.isExclusion, Step.groups, addLinked, Step.turnsOn]
      rfl
  | addQuery query =>
      by_cases empty : query.isEmpty = true <;>
        simp [apply, Step.groupsOf, Step.isExclusion, Step.groups, addQuery, Step.turnsOn, empty]
  | exclude label values =>
      simp [apply, Step.groupsOf, Step.isExclusion, Step.groups, exclude, group, Step.turnsOn]

/-- What has been collected after some steps. -/
theorem applyAll_eq (steps : List Step) :
    applyAll {} steps = {
      must := groupsOf false steps
      mustNot := groupsOf true steps
      highlight := steps.any Step.turnsOn } := by
  induction steps using List.reverseRecOn with
  | nil => rfl
  | append_singleton steps last induction =>
      have run : applyAll {} (steps ++ [last]) = (applyAll {} steps).apply last := by
        rw [applyAll, List.foldl_concat, ← applyAll]
      rw [run, induction, apply_eq, groupsOf_concat, groupsOf_concat, List.any_append,
        List.any_cons, List.any_nil, Bool.or_false]

theorem built_eq (steps : List Step) :
    built steps =
      if groupsOf true steps = [] then .allOf (groupsOf false steps)
      else .boolean (groupsOf false steps) (groupsOf true steps) := by
  rw [built, applyAll_eq]
  rfl

theorem forall_groupsOf_iff {Property : Query → Prop} :
    (∀ group ∈ groupsOf excluded steps, Property group) ↔
      ∀ turn ∈ history steps,
        ∀ group ∈ turn.2.groupsOf excluded (turn.1.any Step.turnsOn), Property group :=
  List.forall_mem_flatMap

theorem fields_groupsOf (excluded : Bool) (steps : List Step) :
    (groupsOf excluded steps).flatMap Query.fields =
      ((history steps).filter fun turn => turn.2.isExclusion == excluded).flatMap fun turn =>
        turn.2.fields (turn.1.any Step.turnsOn) := by
  unfold groupsOf
  induction history steps with
  | nil => rfl
  | cons turn turns induction =>
      rw [List.flatMap_cons, List.flatMap_append, induction, Step.groupsOf, List.filter_cons]
      by_cases side : turn.2.isExclusion = excluded
      · rw [if_pos side, Step.fields_groups, if_pos (beq_iff_eq.2 side), List.flatMap_cons]
      · rw [if_neg side, if_neg (by simpa using side), List.flatMap_nil, List.nil_append]

/-- The conditions on fields in a built query are those of its steps, the exclusions last. -/
theorem fields_built (steps : List Step) :
    (built steps).fields =
      ((history steps).filter (fun turn => turn.2.isExclusion == false) ++
        (history steps).filter fun turn => turn.2.isExclusion == true).flatMap fun turn =>
          turn.2.fields (turn.1.any Step.turnsOn) := by
  rw [List.flatMap_append, ← fields_groupsOf, ← fields_groupsOf, built_eq]
  split
  · next none => rw [Query.fields_allOf, none, List.flatMap_nil, List.append_nil]
  · rw [Query.fields_boolean]

theorem length_groupsOf (steps : List Step) :
    (groupsOf false steps).length + (groupsOf true steps).length =
      (steps.filter Step.addsGroup).length := by
  induction steps using List.reverseRecOn with
  | nil => rfl
  | append_singleton steps last induction =>
      have added : (last.groupsOf false (steps.any Step.turnsOn)).length +
          (last.groupsOf true (steps.any Step.turnsOn)).length =
            ([last].filter Step.addsGroup).length := by
        rw [← List.countP_eq_length_filter, List.countP_singleton, Step.groupsOf, Step.groupsOf]
        cases side : last.isExclusion <;> cases adds : last.addsGroup <;>
          simp [Step.length_groups, adds]
      rw [groupsOf_concat, groupsOf_concat, List.length_append, List.length_append,
        List.filter_append, List.length_append]
      omega

theorem mem_groupsOf {step : Step} (member : step ∈ steps) :
    ∃ highlight, ∀ group ∈ step.groups highlight, group ∈ groupsOf step.isExclusion steps := by
  have turns : step ∈ (history steps).map (·.2) := by rwa [map_history]
  obtain ⟨turn, turnMember, rfl⟩ := List.mem_map.1 turns
  refine ⟨turn.1.any Step.turnsOn, fun group groupMember => ?_⟩
  refine List.mem_flatMap.2 ⟨turn, turnMember, ?_⟩
  rwa [Step.groupsOf, if_pos rfl]

/-- Everything that some steps collect is one empty query exactly if only one of them adds a group
at all, and this one requires one of no values. -/
theorem groupsOf_eq_empty_iff :
    groupsOf true steps = [] ∧ groupsOf false steps = [.empty] ↔
      ∃ label, steps.filter Step.addsGroup = [.addStrings label []] := by
  have count := length_groupsOf steps
  constructor
  · intro collected
    obtain ⟨excluded, required⟩ := collected
    rw [excluded, required] at count
    obtain ⟨step, only⟩ := List.length_eq_one_iff.1 count.symm
    obtain ⟨member, adds⟩ := List.mem_filter.1 (only ▸ List.mem_singleton_self step)
    obtain ⟨highlight, collects⟩ := mem_groupsOf member
    have single : (step.groups highlight).length = 1 := by rw [Step.length_groups, adds]; rfl
    obtain ⟨group, groups⟩ := List.length_eq_one_iff.1 single
    have groupMember := collects group (groups ▸ List.mem_singleton_self group)
    cases side : step.isExclusion with
    | true =>
        rw [side, excluded] at groupMember
        cases groupMember
    | false =>
        rw [side, required, List.mem_singleton] at groupMember
        subst groupMember
        have lacks : step.lacksValues = true :=
          Step.empty_mem_groups_iff.1 (groups ▸ List.mem_singleton_self _)
        cases step with
        | addStrings label values =>
            obtain rfl := List.isEmpty_iff.1 lacks
            exact ⟨label, only⟩
        | exclude label values => cases side
        | _ => cases lacks
  · intro only
    obtain ⟨label, only⟩ := only
    rw [only, List.length_singleton] at count
    have member : Step.addStrings label [] ∈ steps :=
      List.mem_of_mem_filter (only ▸ List.mem_singleton_self _)
    obtain ⟨highlight, collects⟩ := mem_groupsOf member
    have empty : .empty ∈ groupsOf false steps := collects .empty (Step.empty_mem_groups_iff.2 rfl)
    have positive := List.length_pos_of_mem empty
    have single : (groupsOf false steps).length = 1 := by omega
    have none : (groupsOf true steps).length = 0 := by omega
    obtain ⟨group, required⟩ := List.length_eq_one_iff.1 single
    rw [required, List.mem_singleton] at empty
    exact ⟨List.length_eq_zero_iff.1 none, empty ▸ required⟩

end QueryBuilder

end RecordSearch
