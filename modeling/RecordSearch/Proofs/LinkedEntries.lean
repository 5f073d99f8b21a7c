import RecordSearch.Proofs.OwnLeaves
import RecordSearch.Proofs.SeparateConditions

/-!
# Linked conditions on the entries of a map

An entry of a map is two nodes, its key and its value, and the step into the map leads to each of
them by itself.  So a linked group whose paths part behind a map holds where all of its conditions
hold on one side of one entry.  Conditions whose labels keep to different sides are never met
together, not even by an entry that satisfies each of them on its own side.
-/

namespace RecordSearch

/-- One of the two sides of the entries of a map. -/
inductive Side
  | key
  | value
deriving DecidableEq

def Side.of : Side → Node × Node → Node
  | .key, entry => entry.1
  | .value, entry => entry.2

namespace Node

variable {steps back : List Step} {node target other : Node}

theorem Reaches.unique (single : ∀ step ∈ steps, step.IsSingle)
    (reaches : node.Reaches steps target) (again : node.Reaches steps other) : target = other := by
  induction reaches with
  | here => exact (reaches_nil_iff.1 again).symm
  | @step step steps node child target leads _ induction =>
      obtain ⟨first, rest⟩ := List.forall_mem_cons.1 single
      obtain ⟨otherChild, leadsToo, again⟩ := reaches_cons_iff.1 again
      have children := leads.mem_children
      have childrenToo := leadsToo.mem_children
      rcases Step.children_of_isSingle first node with nowhere | ⟨only, one⟩
      · rw [nowhere] at children
        cases children
      · rw [one, List.mem_singleton] at children childrenToo
        subst children childrenToo
        exact induction rest again

theorem reaches_map_iff :
    node.Reaches (.map :: back) target ↔
      ∃ entries, node = .map entries ∧ ∃ entry ∈ entries, ∃ side : Side,
        (side.of entry).Reaches back target := by
  rw [reaches_cons_iff]
  constructor
  · intro reached
    obtain ⟨child, leads, reaches⟩ := reached
    cases leads with
    | key member => exact ⟨_, rfl, _, member, .key, reaches⟩
    | value member => exact ⟨_, rfl, _, member, .value, reaches⟩
  · intro entered
    obtain ⟨entries, rfl, ⟨key, value⟩, member, side, reaches⟩ := entered
    cases side with
    | key => exact ⟨key, .key member, reaches⟩
    | value => exact ⟨value, .value member, reaches⟩

end Node

namespace Schema

variable {schema : Schema} {fields : List FieldMatch} {shared before after : List Step}
  {node start : Node} {field : FieldMatch} {path : FieldPath} {value : Value}

variable [PropertyTable]

theorem FindsBelow.of_reaches {element : Node} (reaches : start.Reaches after element)
    (finds : schema.FindsBelow (shared ++ after) element field path value) :
    schema.FindsBelow shared start field path value := by
  obtain ⟨known, ⟨rest, split, further⟩, satisfied⟩ := finds
  refine ⟨known, ⟨after ++ rest, by rw [split, List.append_assoc], ?_⟩, satisfied⟩
  exact Node.reaches_append_iff.2 ⟨element, reaches, further⟩

/-- A leaf that is found along some steps is found below their target. -/
theorem FindsBelow.exists_reaches (begins : shared ++ after <+: path.steps)
    (finds : schema.FindsBelow shared start field path value) :
    ∃ element, start.Reaches after element ∧
      schema.FindsBelow (shared ++ after) element field path value := by
  obtain ⟨known, ⟨rest, split, reaches⟩, satisfied⟩ := finds
  obtain ⟨further, parts⟩ := begins
  rw [split, List.append_assoc, List.append_cancel_left_eq] at parts
  subst parts
  obtain ⟨element, front, back⟩ := Node.reaches_append_iff.1 reaches
  exact ⟨element, front, known, ⟨further, by rw [split, List.append_assoc], back⟩, satisfied⟩

/-- Steps without choice between the start and the leaves make no difference to a linked group. -/
theorem exists_allFindBelow_iff (nonempty : fields ≠ [])
    (single : ∀ step ∈ after, step.IsSingle)
    (begins : ∀ path ∈ schema.paths fields, shared ++ after <+: path.steps) :
    (∃ element, start.Reaches after element ∧
        schema.AllFindBelow (shared ++ after) element fields) ↔
      schema.AllFindBelow shared start fields := by
  have below (field : FieldMatch) (member : field ∈ fields) (path : FieldPath) (value : Value)
      (finds : schema.FindsBelow shared start field path value) :
      ∃ element, start.Reaches after element ∧
        schema.FindsBelow (shared ++ after) element field path value :=
    finds.exists_reaches (begins path (List.mem_filterMap.2 ⟨field, member, finds.known⟩))
  constructor
  · intro reached field member
    obtain ⟨element, reaches, all⟩ := reached
    obtain ⟨path, value, finds⟩ := all field member
    exact ⟨path, value, finds.of_reaches reaches⟩
  · intro all
    obtain ⟨first, among⟩ := List.exists_mem_of_ne_nil fields nonempty
    obtain ⟨path, value, finds⟩ := all first among
    obtain ⟨element, reaches, _⟩ := below first among path value finds
    refine ⟨element, reaches, fun field member => ?_⟩
    obtain ⟨path, value, finds⟩ := all field member
    obtain ⟨other, reachesToo, finds⟩ := below field member path value finds
    exact ⟨path, value, reaches.unique single reachesToo ▸ finds⟩

/-- The condition finds a leaf on the side of an entry of a map behind the first steps. -/
def FindsOn (schema : Schema) (before : List Step) (entry : Node × Node) (side : Side)
    (field : FieldMatch) : Prop :=
  ∃ path value, schema.FindsBelow (before ++ [.map]) (side.of entry) field path value

/-- In all conforming nodes, the steps of the label go on from this side only of the entries of a
map behind the first steps. -/
def KeepsTo (schema : Schema) (table : TypeTable) (shape : Shape) (before : List Step)
    (side : Side) (label : Text) : Prop :=
  ∀ path rest, schema.get? label = some path → path.steps = before ++ .map :: rest →
    ∀ node entries, table.Conforms shape node → node.Reaches before (.map entries) →
      ∀ entry ∈ entries, ∀ (other : Side) value,
        (other.of entry).Reaches rest (.leaf value) → other = side

theorem FindsOn.side_eq {table : TypeTable} {shape : Shape} {entries : List (Node × Node)}
    {entry : Node × Node} {side other : Side} (finds : schema.FindsOn before entry other field)
    (keeps : schema.KeepsTo table shape before side field.label)
    (conforms : table.Conforms shape node) (reaches : node.Reaches before (.map entries))
    (member : entry ∈ entries) : other = side := by
  obtain ⟨path, value, known, ⟨rest, split, below⟩, _⟩ := finds
  rw [List.append_assoc, List.singleton_append] at split
  exact keeps path rest known split node entries conforms reaches entry member other value below

/-- A linked group whose paths part behind a map holds exactly where one side of one entry of the
map satisfies all of its conditions.  If the steps of each label keep to one side, it holds where
one entry satisfies each condition on its side, and all of them are on the same. -/
theorem linked_holds_on_one_side {schema : Schema} {fields : List FieldMatch}
    {before after : List Step} (nonempty : fields ≠ [])
    (resolves : ∀ field ∈ fields, ∃ path, schema.get? field.label = some path ∧
      ∃ test, path.leafTest field.value = .ok test)
    (longest : FieldPath.LongestShared (schema.paths fields) (before ++ .map :: after))
    (single : ∀ step ∈ after, step.IsSingle) :
    ∃ predicate, schema.compile (.matchLinked fields) = .ok predicate ∧
      (∀ node, predicate.HoldsAt node ↔
        ∃ entries, node.Reaches before (.map entries) ∧ ∃ entry ∈ entries, ∃ side : Side,
          ∀ field ∈ fields, schema.FindsOn before entry side field) ∧
      ∀ (table : TypeTable) (shape : Shape) (sideOf : FieldMatch → Side),
        (∀ field ∈ fields, schema.KeepsTo table shape before (sideOf field) field.label) →
        ∀ node, table.Conforms shape node →
          (predicate.HoldsAt node ↔
            (∃ side, ∀ field ∈ fields, sideOf field = side) ∧
            ∃ entries, node.Reaches before (.map entries) ∧ ∃ entry ∈ entries,
              ∀ field ∈ fields, schema.FindsOn before entry (sideOf field) field) := by
  obtain ⟨predicate, compiled, links⟩ := exists_compile_linked nonempty resolves longest
  have holds (node : Node) : predicate.HoldsAt node ↔
      ∃ entries, node.Reaches before (.map entries) ∧ ∃ entry ∈ entries, ∃ side : Side,
        ∀ field ∈ fields, schema.FindsOn before entry side field := by
    have split : before ++ .map :: after = before ++ [.map] ++ after := by simp
    have begins := longest.common
    rw [split] at begins
    rw [links.holdsAt_iff longest.common]
    constructor
    · intro reached
      obtain ⟨element, reaches, finds⟩ := reached
      obtain ⟨_, front, back⟩ := Node.reaches_append_iff.1 reaches
      obtain ⟨entries, rfl, entry, member, side, below⟩ := Node.reaches_map_iff.1 back
      rw [split] at finds
      exact ⟨entries, front, entry, member, side,
        (exists_allFindBelow_iff nonempty single begins).1 ⟨element, below, finds⟩⟩
    · intro satisfied
      obtain ⟨entries, front, entry, member, side, finds⟩ := satisfied
      obtain ⟨element, below, finds⟩ :=
        (exists_allFindBelow_iff nonempty single begins).2 finds
      refine ⟨element, Node.reaches_append_iff.2 ⟨_, front, ?_⟩, split ▸ finds⟩
      exact Node.reaches_map_iff.2 ⟨entries, rfl, entry, member, side, below⟩
  refine ⟨predicate, compiled, holds, fun table shape sideOf keeps node conforms => ?_⟩
  rw [holds]
  constructor
  · intro satisfied
    obtain ⟨entries, reaches, entry, member, side, finds⟩ := satisfied
    have same : ∀ field ∈ fields, side = sideOf field := fun field among =>
      (finds field among).side_eq (keeps field among) conforms reaches member
    refine ⟨⟨side, fun field among => (same field among).symm⟩, entries, reaches, entry, member, ?_⟩
    exact fun field among => same field among ▸ finds field among
  · intro satisfied
    obtain ⟨⟨side, same⟩, entries, reaches, entry, member, finds⟩ := satisfied
    refine ⟨entries, reaches, entry, member, side, fun field among => ?_⟩
    exact same field among ▸ finds field among

end Schema

namespace Samples

structure Job where
  title : Text
  state : Text

def Job.fields : List (FieldView Job) := [
  .labelled "title" "Job" (·.title),
  .labelled "state" "State" (·.state)]

instance : Shaped Job := ⟨.named "Job".toList⟩
instance : Inspectable Job := ⟨FieldView.node Job.fields⟩

structure Schedule where
  jobs : Dictionary Host Job

def Schedule.jobsField : FieldView Schedule := .plain "jobs" (·.jobs)

instance : Shaped Schedule := ⟨.named "Schedule".toList⟩
instance : Inspectable Schedule := ⟨FieldView.node [Schedule.jobsField]⟩

def scheduleTable : TypeTable where
  definitions := [
    FieldView.definition "Schedule" [Schedule.jobsField],
    FieldView.definition "Host" [Host.nameField],
    FieldView.definition "Job" Job.fields]

def scheduleSchema : Schema :=
  Schema.ofShape "Schedule".toList scheduleTable (Shaped.shape Schedule)

theorem find?_schedule : scheduleTable.find? "Schedule".toList =
    some {
      typeName := "Schedule".toList
      body := .record ([Schedule.jobsField].map (·.described)) } :=
  rfl

theorem find?_host : scheduleTable.find? "Host".toList =
    some { typeName := "Host".toList, body := .record ([Host.nameField].map (·.described)) } :=
  rfl

theorem find?_job : scheduleTable.find? "Job".toList =
    some { typeName := "Job".toList, body := .record (Job.fields.map (·.described)) } :=
  rfl

def Schedule.names : Side → List Text
  | .key => ["name".toList]
  | .value => ["title".toList, "state".toList]

theorem scheduleSchema_keepsTo {label : Text} {side : Side} {kind : LeafKind} (name : Text)
    (known : scheduleSchema.get? label =
      some { steps := [.field "jobs".toList, .map, .field name], leaf := kind })
    (own : ∀ other : Side, name ∈ Schedule.names other → other = side) :
    scheduleSchema.KeepsTo scheduleTable (Shaped.shape Schedule) [.field "jobs".toList] side
      label := by
  intro path rest found split node entries conforms reaches entry member other value below
  obtain rfl := Option.some.inj (known.symm.trans found)
  obtain rfl : [.field name] = rest := by simpa using split
  refine own other ?_
  obtain ⟨_, only, _, inner, inside, here⟩ := conforms.declares find?_schedule reaches
  cases List.mem_singleton.1 only
  cases Node.reaches_nil_iff.1 here
  cases inside with
  | map hosts jobs =>
      cases other with
      | key =>
          obtain ⟨field, declared, rfl, _⟩ := (hosts entry member).declares find?_host below
          cases List.mem_singleton.1 declared
          exact List.mem_singleton_self _
      | value =>
          obtain ⟨field, declared, rfl, _⟩ := (jobs entry member).declares find?_job below
          exact List.mem_map_of_mem declared

def backupDone : List FieldMatch := [
  { label := "Job".toList, value := "backup".toList },
  { label := "State".toList, value := "done".toList }]

def backupOnWeb : List FieldMatch := [
  { label := "Host".toList, value := "web".toList },
  { label := "Job".toList, value := "backup".toList }]

/-- Conditions on the jobs alone are met by one of them, and no schedule ever meets conditions on a
host and on its job. -/
theorem linked_holds_on_one_side_jobs :
    (∃ predicate, scheduleSchema.compile (.matchLinked backupDone) = .ok predicate ∧
      ∀ node, scheduleTable.Conforms (Shaped.shape Schedule) node →
        (predicate.HoldsAt node ↔
          ∃ entries, node.Reaches [.field "jobs".toList] (.map entries) ∧ ∃ entry ∈ entries,
            ∀ field ∈ backupDone,
              scheduleSchema.FindsOn [.field "jobs".toList] entry .value field)) ∧
    ∃ predicate, scheduleSchema.compile (.matchLinked backupOnWeb) = .ok predicate ∧
      ∀ node, scheduleTable.Conforms (Shaped.shape Schedule) node → ¬predicate.HoldsAt node := by
  have host : scheduleSchema.KeepsTo scheduleTable (Shaped.shape Schedule)
      [.field "jobs".toList] .key "Host".toList := by
    refine scheduleSchema_keepsTo "name".toList rfl fun other declared => ?_
    cases other <;> revert declared <;> decide
  have job : scheduleSchema.KeepsTo scheduleTable (Shaped.shape Schedule)
      [.field "jobs".toList] .value "Job".toList := by
    refine scheduleSchema_keepsTo "title".toList rfl fun other declared => ?_
    cases other <;> revert declared <;> decide
  have state : scheduleSchema.KeepsTo scheduleTable (Shaped.shape Schedule)
      [.field "jobs".toList] .value "State".toList := by
    refine scheduleSchema_keepsTo "state".toList rfl fun other declared => ?_
    cases other <;> revert declared <;> decide
  constructor
  · have resolves : ∀ field ∈ backupDone, ∃ path, scheduleSchema.get? field.label = some path ∧
        ∃ test, path.leafTest field.value = .ok test :=
      List.forall_mem_cons.2 ⟨⟨_, rfl, _, rfl⟩, List.forall_mem_singleton.2 ⟨_, rfl, _, rfl⟩⟩
    have longest : FieldPath.LongestShared (scheduleSchema.paths backupDone)
        ([.field "jobs".toList] ++ [.map]) := FieldPath.longestShared_sharedSteps (by decide)
    obtain ⟨predicate, compiled, _, sided⟩ :=
      Schema.linked_holds_on_one_side (by decide) resolves longest nofun
    refine ⟨predicate, compiled, fun node conforms => ?_⟩
    rw [sided scheduleTable _ (fun _ => .value)
      (List.forall_mem_cons.2 ⟨job, List.forall_mem_singleton.2 state⟩) node conforms]
    exact and_iff_right ⟨.value, fun _ _ => rfl⟩
  · have resolves : ∀ field ∈ backupOnWeb, ∃ path, scheduleSchema.get? field.label = some path ∧
        ∃ test, path.leafTest field.value = .ok test :=
      List.forall_mem_cons.2 ⟨⟨_, rfl, _, rfl⟩, List.forall_mem_singleton.2 ⟨_, rfl, _, rfl⟩⟩
    have longest : FieldPath.LongestShared (scheduleSchema.paths backupOnWeb)
        ([.field "jobs".toList] ++ [.map]) := FieldPath.longestShared_sharedSteps (by decide)
    obtain ⟨predicate, compiled, _, sided⟩ :=
      Schema.linked_holds_on_one_side (by decide) resolves longest nofun
    refine ⟨predicate, compiled, fun node conforms holds => ?_⟩
    let sideOf (field : FieldMatch) : Side := if field.label = "Host".toList then .key else .value
    obtain ⟨⟨side, same⟩, _⟩ := (sided scheduleTable _ sideOf
      (List.forall_mem_cons.2 ⟨host, List.forall_mem_singleton.2 job⟩) node conforms).1 holds
    have onKey : Side.key = side := same _ List.mem_cons_self
    have onValue : Side.value = side := same _ (.tail _ List.mem_cons_self)
    cases onKey.trans onValue.symm

def webBackup : Schedule where
  jobs := ⟨[(⟨"web".toList⟩, ⟨"backup".toList, "done".toList⟩)]⟩

theorem conforms_webBackup :
    scheduleTable.Conforms (Shaped.shape Schedule) (Inspectable.node webBackup) := by
  have apart : scheduleTable.NamesApart := by decide
  refine apart.conforms_node find?_schedule (List.forall_mem_singleton.2 ?_)
  refine .map (List.forall_mem_singleton.2 ?_) (List.forall_mem_singleton.2 ?_)
  · exact apart.conforms_node find?_host (List.forall_mem_singleton.2 (.leaf rfl))
  · exact apart.conforms_node find?_job
      (List.forall_mem_cons.2 ⟨.leaf rfl, List.forall_mem_singleton.2 (.leaf rfl)⟩)

theorem conforms_mailOnWeb :
    placementTable.Conforms (Shaped.shape Placement) (Inspectable.node mailOnWeb) := by
  have apart : placementTable.NamesApart := by decide
  have placement : placementTable.find? "Placement".toList = some {
      typeName := "Placement".toList
      body := .record ([Placement.runningField].map (·.described)) } := rfl
  have host : placementTable.find? "Host".toList = some {
      typeName := "Host".toList
      body := .record ([Host.nameField].map (·.described)) } := rfl
  have service : placementTable.find? "Service".toList = some {
      typeName := "Service".toList
      body := .record ([Service.nameField].map (·.described)) } := rfl
  refine apart.conforms_node placement (List.forall_mem_singleton.2 ?_)
  refine .map (List.forall_mem_singleton.2 ?_) (List.forall_mem_singleton.2 ?_)
  · exact apart.conforms_node host (List.forall_mem_singleton.2 (.leaf rfl))
  · exact apart.conforms_node service (List.forall_mem_singleton.2 (.leaf rfl))

def placementSchema : Schema :=
  Schema.ofShape "Placement".toList placementTable (Shaped.shape Placement)

/-- A service on a host, both of them called web. -/
def webOnWeb : List FieldMatch := [
  { label := "Host".toList, value := "web".toList },
  { label := "Service".toList, value := "web".toList }]

/-- The only entry of a schedule satisfies the condition on its host and the one on its job, and
still the two are not linked.  Conditions on a host and on a service that has another name are. -/
theorem entry_not_linked :
    (∃ predicate entry, scheduleSchema.compile (.matchLinked backupOnWeb) = .ok predicate ∧
      scheduleTable.Conforms (Shaped.shape Schedule) (Inspectable.node webBackup) ∧
      Inspectable.node webBackup = .record [("jobs".toList, .map [entry])] ∧
      scheduleSchema.FindsOn [.field "jobs".toList] entry .key
        { label := "Host".toList, value := "web".toList } ∧
      scheduleSchema.FindsOn [.field "jobs".toList] entry .value
        { label := "Job".toList, value := "backup".toList } ∧
      ¬predicate.HoldsAt (Inspectable.node webBackup)) ∧
    ∃ predicate entry, placementSchema.compile (.matchLinked webOnWeb) = .ok predicate ∧
      placementTable.Conforms (Shaped.shape Placement) (Inspectable.node mailOnWeb) ∧
      Inspectable.node mailOnWeb = .record [("running".toList, .map [entry])] ∧
      ¬placementSchema.FindsOn [.field "running".toList] entry .value
        { label := "Service".toList, value := "web".toList } ∧
      predicate.HoldsAt (Inspectable.node mailOnWeb) := by
  constructor
  · refine ⟨_, _, rfl, conforms_webBackup, rfl, ?_, ?_, ?_⟩
    · exact ⟨_, .string "web".toList, rfl, ⟨_, rfl, .step (.field rfl) .here⟩, _, rfl, rfl⟩
    · exact ⟨_, .string "backup".toList, rfl, ⟨_, rfl, .step (.field rfl) .here⟩, _, rfl, rfl⟩
    · exact nofun
  · refine ⟨_, _, rfl, conforms_mailOnWeb, rfl, ?_, rfl⟩
    intro found
    obtain ⟨path, value, known, ⟨rest, split, below⟩, test, compiled, accepted⟩ := found
    have service : placementSchema.get? "Service".toList = some {
        steps := [.field "running".toList, .map, .field "name".toList], leaf := .string } := rfl
    obtain rfl := Option.some.inj (service.symm.trans known)
    obtain rfl : [.field "name".toList] = rest := by simpa using split
    cases compiled
    obtain ⟨_, leads, here⟩ := Node.reaches_cons_iff.1 below
    cases leads
    cases here
    cases accepted

end Samples

end RecordSearch
