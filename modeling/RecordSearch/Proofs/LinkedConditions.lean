import RecordSearch.Proofs.LiteralTests
import RecordSearch.Proofs.QueryMeaning
import RecordSearch.Proofs.Reach
import RecordSearch.Proofs.SharedSteps
import RecordSearch.Samples.People
import RecordSearch.Samples.Properties

/-!
# Linked conditions

A linked group holds where one element at the end of the shared steps satisfies
all of its conditions.  It reports what the conditions find below elements of
that kind, and nothing that is found below an element at which one of them fails.
-/

namespace RecordSearch

namespace Schema

variable {schema : Schema} {fields : List FieldMatch} {shared : List Step}

def paths (schema : Schema) (fields : List FieldMatch) : List FieldPath :=
  fields.filterMap fun field => schema.get? field.label

/-- A leaf below the element satisfies the literal of a condition: it lies at the end of the
steps that follow the shared ones on the path of the condition. -/
structure FindsBelow [PropertyTable] (schema : Schema) (shared : List Step) (element : Node)
    (field : FieldMatch) (path : FieldPath) (value : Value) : Prop where
  known : schema.get? field.label = some path
  reached : ∃ rest, path.steps = shared ++ rest ∧ element.Reaches rest (.leaf value)
  satisfied : ∃ test, path.leafTest field.value = .ok test ∧ test.accepts value = true

def AllFindBelow [PropertyTable] (schema : Schema) (shared : List Step) (element : Node)
    (fields : List FieldMatch) : Prop :=
  ∀ field ∈ fields, ∃ path value, schema.FindsBelow shared element field path value

def branch [PropertyTable] (shared : List Step) (resolved : FieldMatch × FieldPath) :
    Except SearchError Predicate := do
  let test ← resolved.2.leafTest resolved.1.value
  return .wrap (resolved.2.steps.drop shared.length) (.leaf test)

theorem compileResolved_eq_ok_iff [PropertyTable] {resolved : List (FieldMatch × FieldPath)}
    {predicate : Predicate} :
    compileResolved resolved = .ok predicate ↔
      ∃ branches,
        resolved.mapM (branch (FieldPath.sharedSteps (resolved.map (·.2)))) = .ok branches ∧
        predicate = .wrap (FieldPath.sharedSteps (resolved.map (·.2))) (.all branches) := by
  simp only [compileResolved, Run.bind_eq_ok_iff, Run.pure_eq_ok_iff, eq_comm (b := predicate)]
  rfl

theorem branch_eq_ok_iff [PropertyTable] {field : FieldMatch} {path : FieldPath}
    {predicate : Predicate} :
    branch shared (field, path) = .ok predicate ↔
      ∃ test, path.leafTest field.value = .ok test ∧
        predicate = .wrap (path.steps.drop shared.length) (.leaf test) := by
  simp only [branch, Run.bind_eq_ok_iff, Run.pure_eq_ok_iff, eq_comm (b := predicate)]

theorem exists_resolveAll? (known : ∀ field ∈ fields, ∃ path, schema.get? field.label = some path) :
    ∃ resolved, schema.resolveAll? fields = some resolved ∧
      resolved.map (·.2) = schema.paths fields ∧
      ∀ field path, (field, path) ∈ resolved ↔
        field ∈ fields ∧ schema.get? field.label = some path := by
  induction fields with
  | nil => exact ⟨[], by simp [resolveAll?, paths]⟩
  | cons field fields induction =>
      obtain ⟨⟨path, found⟩, restKnown⟩ := List.forall_mem_cons.1 known
      obtain ⟨resolved, run, restPaths, members⟩ := induction restKnown
      have run : (fields.mapM fun field =>
          (schema.get? field.label).map fun path => (field, path)) = some resolved := run
      refine ⟨(field, path) :: resolved, ?_, ?_, ?_⟩
      · simp [resolveAll?, List.mapM_cons, found, run]
      · simp only [List.map_cons, restPaths]
        simp [paths, found]
      · intro other otherPath
        rw [List.mem_cons, members, List.mem_cons, Prod.mk.injEq]
        constructor
        · intro among
          rcases among with ⟨rfl, rfl⟩ | ⟨member, otherFound⟩
          · exact ⟨.inl rfl, found⟩
          · exact ⟨.inr member, otherFound⟩
        · intro among
          rcases among with ⟨rfl | member, otherFound⟩
          · rw [found, Option.some.injEq] at otherFound
            exact .inl ⟨rfl, otherFound.symm⟩
          · exact .inr ⟨member, otherFound⟩

variable [PropertyTable]

/-- What follows the shared steps on a path is what the branch of its condition walks. -/
theorem findsBelow_iff {element : Node} {field : FieldMatch} {path : FieldPath} {value : Value}
    (known : schema.get? field.label = some path) (begins : shared <+: path.steps) :
    schema.FindsBelow shared element field path value ↔
      element.Reaches (path.steps.drop shared.length) (.leaf value) ∧
        ∃ test, path.leafTest field.value = .ok test ∧ test.accepts value = true := by
  obtain ⟨following, split⟩ := begins
  constructor
  · intro finds
    obtain ⟨_, ⟨rest, equal, reaches⟩, satisfied⟩ := finds
    rw [equal, List.drop_left]
    exact ⟨reaches, satisfied⟩
  · intro found
    obtain ⟨reaches, satisfied⟩ := found
    rw [← split, List.drop_left] at reaches
    exact ⟨known, ⟨following, split.symm, reaches⟩, satisfied⟩

theorem holdsAt_branch_iff {element : Node} {field : FieldMatch} {path : FieldPath}
    {predicate : Predicate} (known : schema.get? field.label = some path)
    (begins : shared <+: path.steps) (compiled : branch shared (field, path) = .ok predicate) :
    predicate.HoldsAt element ↔
      ∃ path value, schema.FindsBelow shared element field path value := by
  obtain ⟨test, tested, rfl⟩ := branch_eq_ok_iff.1 compiled
  rw [Predicate.holdsAt_wrap_leaf_iff]
  constructor
  · intro holds
    obtain ⟨value, reaches, accepted⟩ := holds
    exact ⟨path, value, (findsBelow_iff known begins).2 ⟨reaches, test, tested, accepted⟩⟩
  · intro found
    obtain ⟨other, value, finds⟩ := found
    obtain rfl : path = other := Option.some.inj (known.symm.trans finds.known)
    obtain ⟨reaches, otherTest, otherTested, accepted⟩ := (findsBelow_iff known begins).1 finds
    rw [tested, Except.ok.injEq] at otherTested
    exact ⟨value, reaches, otherTested ▸ accepted⟩

theorem reportsAt_branch_iff {element : Node} {field : FieldMatch} {path : FieldPath}
    {predicate : Predicate} {key text : Text} (known : schema.get? field.label = some path)
    (begins : shared <+: path.steps) (compiled : branch shared (field, path) = .ok predicate) :
    predicate.ReportsAt element key text ↔
      ∃ path value, schema.FindsBelow shared element field path value ∧
        key = path.wirePath ∧ text = value.render := by
  obtain ⟨test, tested, rfl⟩ := branch_eq_ok_iff.1 compiled
  rw [Predicate.reportsAt_wrap_leaf_iff, (FieldPath.leafTest_eq_ok_iff.1 tested).1]
  constructor
  · intro reported
    obtain ⟨value, reaches, accepted, listed⟩ := reported
    have finds := (findsBelow_iff known begins).2 ⟨reaches, test, tested, accepted⟩
    exact ⟨path, value, finds, listed⟩
  · intro found
    obtain ⟨other, value, finds, listed⟩ := found
    obtain rfl : path = other := Option.some.inj (known.symm.trans finds.known)
    obtain ⟨reaches, otherTest, otherTested, accepted⟩ := (findsBelow_iff known begins).1 finds
    rw [tested, Except.ok.injEq] at otherTested
    exact ⟨value, reaches, otherTested ▸ accepted, listed⟩

/-- The predicate is a linked group: it lifts through the shared steps one branch for each of the
conditions. -/
structure Links (schema : Schema) (fields : List FieldMatch) (shared : List Step)
    (predicate : Predicate) : Prop where
  joined : ∃ branches, predicate = .wrap shared (.all branches) ∧
    ∀ inner, inner ∈ branches ↔
      ∃ field ∈ fields, ∃ path, schema.get? field.label = some path ∧
        branch shared (field, path) = .ok inner
  total : ∀ field ∈ fields, ∃ path inner, schema.get? field.label = some path ∧
    branch shared (field, path) = .ok inner

theorem exists_compile_linked (nonempty : fields ≠ [])
    (resolves : ∀ field ∈ fields, ∃ path, schema.get? field.label = some path ∧
      ∃ test, path.leafTest field.value = .ok test)
    (longest : FieldPath.LongestShared (schema.paths fields) shared) :
    ∃ predicate, schema.compile (.matchLinked fields) = .ok predicate ∧
      schema.Links fields shared predicate := by
  obtain ⟨resolved, resolvedRun, resolvedPaths, members⟩ :=
    exists_resolveAll? fun field member =>
      (resolves field member).imp fun _ known => known.1
  have sharedEquality : FieldPath.sharedSteps (resolved.map (·.2)) = shared := by
    rw [resolvedPaths]
    refine (longest.eq_sharedSteps ?_).symm
    obtain ⟨field, member⟩ := List.exists_mem_of_ne_nil fields nonempty
    obtain ⟨path, known, _⟩ := resolves field member
    exact List.ne_nil_of_mem (List.mem_filterMap.2 ⟨field, member, known⟩)
  have branchOf (field : FieldMatch) (member : field ∈ fields) :
      ∃ path inner, schema.get? field.label = some path ∧
        branch shared (field, path) = .ok inner := by
    obtain ⟨path, known, test, tested⟩ := resolves field member
    exact ⟨path, _, known, branch_eq_ok_iff.2 ⟨test, tested, rfl⟩⟩
  obtain ⟨branches, run⟩ := Run.mapM_isOk_iff.2 fun (pair : FieldMatch × FieldPath) member => by
    obtain ⟨field, path⟩ := pair
    obtain ⟨fieldMember, known⟩ := (members field path).1 member
    obtain ⟨other, inner, otherKnown, compiled⟩ := branchOf field fieldMember
    obtain rfl : path = other := Option.some.inj (known.symm.trans otherKnown)
    exact ⟨inner, compiled⟩
  refine ⟨.wrap shared (.all branches), ?_, ⟨branches, rfl, ?_⟩, branchOf⟩
  · simp only [compile, Query.matchLinked, Query.isEmpty, compileNested, compileCondition,
      compileLinked, nonempty, if_false, Bool.false_eq_true, resolvedRun]
    rw [compileResolved_eq_ok_iff, sharedEquality]
    exact ⟨branches, run, rfl⟩
  · intro inner
    rw [Run.mem_mapM_iff run]
    constructor
    · intro among
      obtain ⟨⟨field, path⟩, member, compiled⟩ := among
      obtain ⟨fieldMember, known⟩ := (members field path).1 member
      exact ⟨field, fieldMember, path, known, compiled⟩
    · intro described
      obtain ⟨field, member, path, known, compiled⟩ := described
      exact ⟨(field, path), (members field path).2 ⟨member, known⟩, compiled⟩

section Elements

variable {predicate : Predicate} {node : Node} {key text : Text}

theorem forall_branch_holdsAt_iff {element : Node} {branches : List Predicate}
    (begins : ∀ path ∈ schema.paths fields, shared <+: path.steps)
    (members : ∀ inner, inner ∈ branches ↔
      ∃ field ∈ fields, ∃ path, schema.get? field.label = some path ∧
        branch shared (field, path) = .ok inner)
    (total : ∀ field ∈ fields, ∃ path inner, schema.get? field.label = some path ∧
      branch shared (field, path) = .ok inner) :
    (∀ inner ∈ branches, inner.HoldsAt element) ↔
      schema.AllFindBelow shared element fields := by
  constructor
  · intro holds field member
    obtain ⟨path, inner, known, compiled⟩ := total field member
    have pathBegins := begins path (List.mem_filterMap.2 ⟨field, member, known⟩)
    have innerMember := (members inner).2 ⟨field, member, path, known, compiled⟩
    exact (holdsAt_branch_iff known pathBegins compiled).1 (holds inner innerMember)
  · intro finds inner innerMember
    obtain ⟨field, member, path, known, compiled⟩ := (members inner).1 innerMember
    have pathBegins := begins path (List.mem_filterMap.2 ⟨field, member, known⟩)
    exact (holdsAt_branch_iff known pathBegins compiled).2 (finds field member)

theorem Links.holdsAt_iff (links : schema.Links fields shared predicate)
    (begins : ∀ path ∈ schema.paths fields, shared <+: path.steps) :
    predicate.HoldsAt node ↔
      ∃ element, node.Reaches shared element ∧
        schema.AllFindBelow shared element fields := by
  obtain ⟨⟨branches, rfl, members⟩, total⟩ := links
  rw [Predicate.holdsAt_wrap_iff]
  refine exists_congr fun element => and_congr_right fun _ => ?_
  rw [Predicate.holdsAt_all_iff]
  exact forall_branch_holdsAt_iff begins members total

theorem Links.reportsAt_iff (links : schema.Links fields shared predicate)
    (begins : ∀ path ∈ schema.paths fields, shared <+: path.steps) :
    predicate.ReportsAt node key text ↔
      ∃ element, node.Reaches shared element ∧
        schema.AllFindBelow shared element fields ∧
        ∃ field ∈ fields, ∃ path value,
          schema.FindsBelow shared element field path value ∧
            key = path.wirePath ∧ text = value.render := by
  obtain ⟨⟨branches, rfl, members⟩, total⟩ := links
  rw [Predicate.reportsAt_wrap_iff]
  refine exists_congr fun element => and_congr_right fun _ => ?_
  rw [Predicate.reportsAt_all_iff]
  refine and_congr (forall_branch_holdsAt_iff begins members total) ?_
  constructor
  · intro reported
    obtain ⟨inner, innerMember, reports⟩ := reported
    obtain ⟨field, member, path, known, compiled⟩ := (members inner).1 innerMember
    have pathBegins := begins path (List.mem_filterMap.2 ⟨field, member, known⟩)
    exact ⟨field, member, (reportsAt_branch_iff known pathBegins compiled).1 reports⟩
  · intro found
    obtain ⟨field, member, finds⟩ := found
    obtain ⟨path, inner, known, compiled⟩ := total field member
    have pathBegins := begins path (List.mem_filterMap.2 ⟨field, member, known⟩)
    exact ⟨inner, (members inner).2 ⟨field, member, path, known, compiled⟩,
      (reportsAt_branch_iff known pathBegins compiled).2 finds⟩

end Elements

/-- A linked group whose labels are known and whose literals compile holds at a node exactly if
the steps that its paths share lead to one element below which every condition finds a leaf.
What it then lists are the texts of the leaves found below elements of that kind, each under the
wire path of its condition. -/
theorem linked_holds_within_one_element {schema : Schema} {fields : List FieldMatch}
    {shared : List Step} (nonempty : fields ≠ [])
    (resolves : ∀ field ∈ fields, ∃ path, schema.get? field.label = some path ∧
      ∃ test, path.leafTest field.value = .ok test)
    (longest : FieldPath.LongestShared (schema.paths fields) shared) :
    ∃ predicate, schema.compile (.matchLinked fields) = .ok predicate ∧
      ∀ node,
        (predicate.HoldsAt node ↔
          ∃ element, node.Reaches shared element ∧
            schema.AllFindBelow shared element fields) ∧
        ∀ result, predicate.evaluateNode node = some result →
          ∀ key text, result.Lists key text ↔
            ∃ element, node.Reaches shared element ∧
              schema.AllFindBelow shared element fields ∧
              ∃ field ∈ fields, ∃ path value,
                schema.FindsBelow shared element field path value ∧
                  key = path.wirePath ∧ text = value.render := by
  obtain ⟨predicate, compiled, links⟩ := exists_compile_linked nonempty resolves longest
  refine ⟨predicate, compiled, fun node => ⟨links.holdsAt_iff longest.common, ?_⟩⟩
  intro result evaluated key text
  rw [← Predicate.reportsAt_iff_lists evaluated]
  exact links.reportsAt_iff longest.common

end Schema

namespace Samples

def annButNoGuest : List FieldMatch := [
  { label := "Member".toList, value := "ann".toList },
  { label := "Role".toList, value := "!guest".toList }]

theorem linked_holds_within_one_element_ann :
    ∃ predicate, Item.schema.compile (.matchLinked annButNoGuest) = .ok predicate ∧
      ∀ node,
        (predicate.HoldsAt node ↔
          ∃ element, node.Reaches [.field "members".toList, .list] element ∧
            Item.schema.AllFindBelow [.field "members".toList, .list] element annButNoGuest) ∧
        ∀ result, predicate.evaluateNode node = some result →
          ∀ key text, result.Lists key text ↔
            ∃ element, node.Reaches [.field "members".toList, .list] element ∧
              Item.schema.AllFindBelow [.field "members".toList, .list] element annButNoGuest ∧
              ∃ field ∈ annButNoGuest, ∃ path value,
                Item.schema.FindsBelow [.field "members".toList, .list] element field path value ∧
                  key = path.wirePath ∧ text = value.render := by
  have resolves : ∀ field ∈ annButNoGuest, ∃ path, Item.schema.get? field.label = some path ∧
      ∃ test, path.leafTest field.value = .ok test := by
    refine List.forall_mem_cons.2 ⟨⟨_, rfl, _, rfl⟩, List.forall_mem_singleton.2 ⟨_, rfl, _, rfl⟩⟩
  have longest : FieldPath.LongestShared (Item.schema.paths annButNoGuest)
      [.field "members".toList, .list] := FieldPath.longestShared_sharedSteps (by decide)
  exact Schema.linked_holds_within_one_element (by decide) resolves longest

end Samples

end RecordSearch
