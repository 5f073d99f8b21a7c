import Mathlib.Computability.StateTransition
import RecordSearch.Proofs.LabelledRoutes

/-!
# A walk step by step

The walk through a shape as a machine.  It keeps what is left to do, the steps to the place that it
has reached, the names of the types that are open there, and what it has found; nothing bounds the
number of its steps or the depth of its way.  On every table of types, however they refer to each
other, it comes to an end with the findings of the walk, and at no moment is a type open twice.
-/

namespace RecordSearch

/-- Something that a walk has to do. -/
inductive Task
  /-- To look into a shape, under the label that the way to it carries. -/
  | visit (label : Option Text) (shape : Shape)
  /-- To go through a type, unless its name is open. -/
  | enter (reference : Text)
  | note (finding : Finding)
  | take (step : Step)
  | stepBack
  /-- To close the type that was entered last. -/
  | close

/-- A walk under way. -/
structure Walk where
  tasks : List Task := []
  /-- The steps to the place that is reached, the last one first. -/
  steps : List Step := []
  /-- The names of the open types, the one entered last first. -/
  opened : List Text := []
  found : List Finding := []

namespace Finding

/-- What is found at the end of some steps, of which the last one stands first. -/
def behind (steps : List Step) (finding : Finding) : Finding :=
  steps.foldl (fun finding step => finding.under step) finding

theorem map_behind_under (steps : List Step) (step : Step) (findings : List Finding) :
    (findings.map (under step)).map (behind steps) = findings.map (behind (step :: steps)) :=
  List.map_map

theorem map_behind_nil (findings : List Finding) : findings.map (behind []) = findings :=
  List.map_id findings

end Finding

namespace Task

def within (step : Step) (tasks : List Task) : List Task :=
  .take step :: (tasks ++ [.stepBack])

def ofShape (label : Option Text) : Shape → List Task
  | .leaf kind =>
      match label with
      | some label => [.note (.leaf label [] kind)]
      | none => []
  | .pointer target => within .pointer [.visit label target]
  | .list item => within .list [.visit label item]
  | .map key value => within .map [.visit label key, .visit label value]
  | .named reference =>
      match label with
      | some label => [.note (.ignoredLabel label), .enter reference]
      | none => [.enter reference]
  | .hidden => []

def ofField (field : FieldShape) : List Task :=
  within (.field field.name) [.visit field.label field.shape]

def ofVariant (table : TypeTable) (variant : VariantShape) : List Task :=
  match variant.payload with
  | none => []
  | some payload =>
      match table.record? payload.unwrapped with
      | some reference => within (.variant variant.name) [.enter reference]
      | none => [.note (.ignoredPayload variant.name)]

def ofBody (table : TypeTable) : TypeBody → List Task
  | .record fields => fields.flatMap ofField
  | .variants variants => variants.flatMap (ofVariant table)

end Task

namespace Walk

def start (shape : Shape) : Walk where
  tasks := [.visit none shape]

/-- The walk after its next task, if anything is left to do. -/
def next? (table : TypeTable) (walk : Walk) : Option Walk :=
  match walk.tasks with
  | [] => none
  | .visit label shape :: rest => some { walk with tasks := Task.ofShape label shape ++ rest }
  | .enter reference :: rest =>
      (table.find? reference).elim (some { walk with tasks := rest }) fun definition =>
        if walk.opened.contains definition.typeName then
          some { walk with tasks := rest }
        else
          some { walk with
            tasks := Task.ofBody table definition.body ++ .close :: rest
            opened := definition.typeName :: walk.opened }
  | .note finding :: rest =>
      some { walk with tasks := rest, found := walk.found ++ [finding.behind walk.steps] }
  | .take step :: rest => some { walk with tasks := rest, steps := step :: walk.steps }
  | .stepBack :: rest => some { walk with tasks := rest, steps := walk.steps.tail }
  | .close :: rest => some { walk with tasks := rest, opened := walk.opened.tail }

section Enter

variable {table : TypeTable} {reference : Text} {rest : List Task} {steps : List Step}
  {opened : List Text} {found : List Finding}

theorem next?_enter_of_unknown (unknown : table.find? reference = none) :
    next? table { tasks := .enter reference :: rest, steps, opened, found } =
      some { tasks := rest, steps, opened, found } := by
  simp only [next?, unknown, Option.elim_none]

variable {definition : TypeDefinition}

theorem next?_enter_of_opened (known : table.find? reference = some definition)
    (member : definition.typeName ∈ opened) :
    next? table { tasks := .enter reference :: rest, steps, opened, found } =
      some { tasks := rest, steps, opened, found } := by
  simp only [next?, known, Option.elim_some, if_pos (List.contains_iff_mem.2 member)]

theorem next?_enter_of_fresh (known : table.find? reference = some definition)
    (fresh : definition.typeName ∉ opened) :
    next? table { tasks := .enter reference :: rest, steps, opened, found } =
      some {
        tasks := Task.ofBody table definition.body ++ .close :: rest
        steps
        opened := definition.typeName :: opened
        found } := by
  have closed : ¬opened.contains definition.typeName = true :=
    fun member => fresh (List.contains_iff_mem.1 member)
  simp only [next?, known, Option.elim_some, if_neg closed]

end Enter

theorem reaches_next {table : TypeTable} {walk following : Walk}
    (taken : next? table walk = some following) :
    StateTransition.Reaches (next? table) walk following :=
  .single taken

/-- No task opens a type that is open already. -/
theorem nodup_opened_next {table : TypeTable} {walk following : Walk}
    (taken : next? table walk = some following) (distinct : walk.opened.Nodup) :
    following.opened.Nodup := by
  obtain ⟨tasks, steps, opened, found⟩ := walk
  cases tasks with
  | nil => cases taken
  | cons task rest =>
      cases task with
      | enter reference =>
          cases known : table.find? reference with
          | none =>
              rw [next?_enter_of_unknown known] at taken
              cases taken
              exact distinct
          | some definition =>
              by_cases member : definition.typeName ∈ opened
              · rw [next?_enter_of_opened known member] at taken
                cases taken
                exact distinct
              · rw [next?_enter_of_fresh known member] at taken
                cases taken
                exact List.nodup_cons.2 ⟨member, distinct⟩
      | close =>
          cases taken
          exact distinct.sublist (List.tail_sublist opened)
      | visit | note | take | stepBack =>
          cases taken
          exact distinct

theorem nodup_opened_of_reaches {table : TypeTable} {walk later : Walk}
    (reaches : StateTransition.Reaches (next? table) walk later) (distinct : walk.opened.Nodup) :
    later.opened.Nodup := by
  induction reaches with
  | refl => exact distinct
  | tail _ taken induction => exact nodup_opened_next taken induction

end Walk

/-- The tasks come to an end with the findings, wherever they are begun and whatever is left to do
behind them.  The place reached and the open types are then those from before. -/
def Ends (table : TypeTable) (opened : List Text) (tasks : List Task)
    (findings : List Finding) : Prop :=
  ∀ rest steps found, StateTransition.Reaches (Walk.next? table)
    { tasks := tasks ++ rest, steps, opened, found }
    { tasks := rest, steps, opened, found := found ++ findings.map (Finding.behind steps) }

namespace Ends

variable {table : TypeTable} {opened : List Text} {tasks more : List Task}
  {findings others : List Finding}

theorem nil : Ends table opened [] [] := by
  intro rest steps found
  rw [List.map_nil, List.append_nil]
  exact .refl

theorem append (first : Ends table opened tasks findings) (second : Ends table opened more others) :
    Ends table opened (tasks ++ more) (findings ++ others) := by
  intro rest steps found
  rw [List.append_assoc, List.map_append, ← List.append_assoc found]
  exact (first _ steps found).trans (second rest steps _)

/-- A step of the walk that leaves its place as it is goes on to the tasks it puts in front. -/
theorem head {task : Task} (ends : Ends table opened tasks findings)
    (taken : ∀ rest steps found,
      Walk.next? table { tasks := task :: rest, steps, opened, found } =
        some { tasks := tasks ++ rest, steps, opened, found }) :
    Ends table opened [task] findings :=
  fun rest steps found => (Walk.reaches_next (taken rest steps found)).trans (ends rest steps found)

theorem visit {label : Option Text} {shape : Shape}
    (ends : Ends table opened (Task.ofShape label shape) findings) :
    Ends table opened [.visit label shape] findings :=
  ends.head fun _ _ _ => rfl

theorem note (finding : Finding) : Ends table opened [.note finding] [finding] :=
  fun _ _ _ => Walk.reaches_next rfl

theorem within (step : Step) (ends : Ends table opened tasks findings) :
    Ends table opened (Task.within step tasks) (findings.map (.under step)) := by
  intro rest steps found
  have inside := ends (.stepBack :: rest) (step :: steps) found
  rw [Finding.map_behind_under, Task.within, List.cons_append, List.append_assoc]
  exact (Walk.reaches_next rfl).trans (inside.trans (Walk.reaches_next rfl))

theorem flatMap {Item : Type} {tasksOf : Item → List Task} {findingsIn : Item → List Finding}
    (each : ∀ item, Ends table opened (tasksOf item) (findingsIn item)) (items : List Item) :
    Ends table opened (items.flatMap tasksOf) (items.flatMap findingsIn) := by
  induction items with
  | nil => exact nil
  | cons item items induction =>
      rw [List.flatMap_cons, List.flatMap_cons]
      exact (each item).append induction

/-- Going through a type that is not open does what there is to do in it while it is open, and
closes it. -/
theorem enter {reference : Text} {definition : TypeDefinition}
    (known : table.find? reference = some definition) (fresh : definition.typeName ∉ opened)
    (ends : Ends table (definition.typeName :: opened) (Task.ofBody table definition.body)
      findings) :
    Ends table opened [.enter reference] findings := by
  intro rest steps found
  have inside := ends (.close :: rest) steps found
  exact (Walk.reaches_next (Walk.next?_enter_of_fresh known fresh)).trans
    (inside.trans (Walk.reaches_next rfl))

end Ends

namespace TypeTable

variable {table : TypeTable} {opened : List Text}

/-- Looking into a shape ends if going through the types that it refers to does. -/
theorem ends_visit {enter : Text → List Finding}
    (enters : ∀ reference, Ends table opened [.enter reference] (enter reference))
    (label : Option Text) (shape : Shape) :
    Ends table opened [.visit label shape] (shape.findings enter label) := by
  induction shape with
  | leaf kind =>
      cases label with
      | none => exact .visit .nil
      | some label => exact .visit (.note _)
  | pointer target induction => exact .visit (induction.within .pointer)
  | list item induction => exact .visit (induction.within .list)
  | map key value keyInduction valueInduction =>
      exact .visit ((keyInduction.append valueInduction).within .map)
  | named reference =>
      cases label with
      | none => exact .visit (enters reference)
      | some label => exact .visit ((Ends.note (.ignoredLabel label)).append (enters reference))
  | hidden => exact .visit .nil

theorem ends_variant {enter : Text → List Finding}
    (enters : ∀ reference, Ends table opened [.enter reference] (enter reference))
    (variant : VariantShape) :
    Ends table opened (Task.ofVariant table variant) (table.variantFindings enter variant) := by
  unfold Task.ofVariant variantFindings
  cases variant.payload with
  | none => exact .nil
  | some payload =>
      simp only
      cases table.record? payload.unwrapped with
      | none => exact .note _
      | some reference => exact (enters reference).within _

theorem ends_body {enter : Text → List Finding}
    (enters : ∀ reference, Ends table opened [.enter reference] (enter reference))
    (body : TypeBody) :
    Ends table opened (Task.ofBody table body) (table.bodyFindings enter body) := by
  cases body with
  | record fields =>
      refine .flatMap (fun field => ?_) fields
      exact (ends_visit enters field.label field.shape).within _
  | variants variants => exact .flatMap (ends_variant enters) variants

theorem ends_enter_of_skipped {reference : Text}
    (skipped : ∀ definition, table.find? reference = some definition →
      definition.typeName ∈ opened) (depth : Nat) :
    Ends table opened [.enter reference] (table.typeFindings depth opened reference) := by
  cases known : table.find? reference with
  | none =>
      have nothing : table.typeFindings depth opened reference = [] := by
        cases depth with
        | zero => rfl
        | succ depth => exact typeFindings_of_unknown known
      rw [nothing]
      exact Ends.nil.head fun _ _ _ => Walk.next?_enter_of_unknown known
  | some definition =>
      have member := skipped definition known
      have nothing : table.typeFindings depth opened reference = [] := by
        cases depth with
        | zero => rfl
        | succ depth => exact typeFindings_of_entered known member
      rw [nothing]
      exact Ends.nil.head fun _ _ _ => Walk.next?_enter_of_opened known member

/-- Going through a type ends.  The induction is on the number of types that can still be opened:
the depth of the walk bounds it, so that a depth of zero leaves no type to open. -/
theorem ends_enter {depth : Nat} (bound : table.size ≤ depth + opened.length)
    (distinct : opened.Nodup) (declared : opened ⊆ table.typeNames) (reference : Text) :
    Ends table opened [.enter reference] (table.typeFindings depth opened reference) := by
  induction depth generalizing opened reference with
  | zero =>
      refine ends_enter_of_skipped (fun definition known => ?_) 0
      by_contra fresh
      have room := opened_lt_size distinct declared known fresh
      omega
  | succ depth induction =>
      by_cases skipped : ∀ definition, table.find? reference = some definition →
          definition.typeName ∈ opened
      · exact ends_enter_of_skipped skipped (depth + 1)
      · push Not at skipped
        obtain ⟨definition, known, fresh⟩ := skipped
        have openedDistinct := List.nodup_cons.2 ⟨fresh, distinct⟩
        have openedDeclared := List.cons_subset.2 ⟨typeName_mem_typeNames known, declared⟩
        have room : table.size ≤ depth + (definition.typeName :: opened).length := by
          rw [List.length_cons]
          omega
        rw [typeFindings_of_fresh known fresh]
        exact .enter known fresh
          (ends_body (induction room openedDistinct openedDeclared) definition.body)

/-- The walk of a shape comes to an end with what is found in the shape. -/
theorem walk_mem_eval (table : TypeTable) (shape : Shape) :
    ({ found := table.walk shape } : Walk) ∈
      StateTransition.eval (Walk.next? table) (.start shape) := by
  have enters (reference : Text) :
      Ends table [] [.enter reference] (table.typeFindings table.size [] reference) :=
    ends_enter (by simp) .nil (List.nil_subset _) reference
  have reaches := ends_visit enters none shape [] [] []
  rw [Finding.map_behind_nil] at reaches
  exact StateTransition.mem_eval.2 ⟨reaches, rfl⟩

end TypeTable

/-- Building the schema of a shape ends on every table of types.  The walk through the shape, whose
steps nothing bounds, comes to a state in which nothing is left to do, all steps are taken back, all
types are closed, and the findings are those that the schema is made of.  On the way there no type
is ever open twice; and the paths that are registered are those of routes, one after the other in
the order of declaration, that enter no type name more than once. -/
theorem Schema.walk_ends_without_reentering (typeName : Text) (table : TypeTable) (shape : Shape) :
    ({ found := table.walk shape } : Walk) ∈
        StateTransition.eval (Walk.next? table) (.start shape) ∧
      (∀ walk, StateTransition.Reaches (Walk.next? table) (.start shape) walk →
        walk.opened.Nodup) ∧
      ∃ routes : List Route,
        (table.walk shape).filterMap Finding.registration? = routes.map Route.registration ∧
        ofShape typeName table shape = build typeName (routes.map Route.registration) ∧
        routes.Pairwise Route.Before ∧
        ∀ route ∈ routes,
          ∃ entered, table.Way shape route.turns entered route.kind ∧ entered.Nodup := by
  refine ⟨table.walk_mem_eval shape, ?_, ?_⟩
  · intro walk reaches
    exact Walk.nodup_opened_of_reaches reaches .nil
  · obtain ⟨routes, registered, members, ordered⟩ := table.enumerates_walk shape
    refine ⟨routes, registered, by rw [ofShape, registered], ordered, ?_⟩
    intro route member
    obtain ⟨entered, way, distinct, _⟩ := (members route).1 member
    exact ⟨entered, way, distinct⟩

end RecordSearch
