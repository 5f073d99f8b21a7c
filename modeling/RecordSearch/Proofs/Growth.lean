import Mathlib.Data.List.Forall2
import RecordSearch.Proofs.LinkedConditions

/-!
# Records that grow

A record grows if items and entries are inserted, and if what is absent or unset gets a value, at
any depth; its leaves stay as they are.  Every way of steps through a record is a way through the
grown one.  So a query that excludes nothing goes on to hold, and lists what it listed before.
-/

namespace RecordSearch

namespace Node

/-- The second node arises from the first by insertions and by filling what is missing. -/
inductive Grows : Node → Node → Prop where
  | absent (node : Node) : Grows .absent node
  | leaf (value : Value) : Grows (.leaf value) (.leaf value)
  | record {fields grown : List (Text × Node)} :
      (∀ name, Grows (fieldNamed fields name) (fieldNamed grown name)) →
      Grows (.record fields) (.record grown)
  | unset (target : Option Node) : Grows (.pointer none) (.pointer target)
  | pointer {target grown : Node} :
      Grows target grown →
      Grows (.pointer (some target)) (.pointer (some grown))
  | bare (name : Text) (payload : Option Node) : Grows (.variant name none) (.variant name payload)
  | variant {name : Text} {payload grown : Node} :
      Grows payload grown →
      Grows (.variant name (some payload)) (.variant name (some grown))
  /-- Some items of the grown list are the grown items of the first. -/
  | list {items kept grown : List Node} :
      List.Forall₂ Grows items kept →
      kept.Sublist grown →
      Grows (.list items) (.list grown)
  /-- Some entries of the grown map are the grown entries of the first. -/
  | map {entries kept grown : List (Node × Node)} :
      List.Forall₂ Grows (entries.map (·.1)) (kept.map (·.1)) →
      List.Forall₂ Grows (entries.map (·.2)) (kept.map (·.2)) →
      kept.Sublist grown →
      Grows (.map entries) (.map grown)

variable {node grown child target : Node} {value : Value}

theorem Grows.isAbsent (grows : node.Grows grown) (present : node.isAbsent = false) :
    grown.isAbsent = false := by
  cases grows with
  | absent => cases present
  | _ => rfl

theorem Grows.eq_leaf (grows : Grows (.leaf value) grown) : grown = .leaf value := by
  cases grows
  rfl

theorem exists_grown_of_mem {items kept : List Node} (grow : List.Forall₂ Grows items kept)
    (member : child ∈ items) : ∃ other ∈ kept, child.Grows other := by
  induction grow with
  | nil => cases member
  | cons first _ induction =>
      rcases List.mem_cons.1 member with rfl | later
      · exact ⟨_, List.mem_cons_self, first⟩
      · obtain ⟨other, inKept, grows⟩ := induction later
        exact ⟨other, List.mem_cons_of_mem _ inKept, grows⟩

/-- Wherever a step leads from a node, it leads from the grown node to the grown child. -/
theorem Grows.leads {step : Step} (grows : node.Grows grown) (leads : step.Leads node child) :
    ∃ other, step.Leads grown other ∧ child.Grows other := by
  cases leads with
  | field present =>
      cases grows with
      | record fields => exact ⟨_, .field ((fields _).isAbsent present), fields _⟩
  | pointer =>
      cases grows with
      | pointer inner => exact ⟨_, .pointer, inner⟩
  | list member =>
      cases grows with
      | list items inserted =>
          obtain ⟨other, inKept, inner⟩ := exists_grown_of_mem items member
          exact ⟨other, .list (inserted.subset inKept), inner⟩
  | key member =>
      cases grows with
      | map keys _ inserted =>
          obtain ⟨other, inKept, inner⟩ :=
            exists_grown_of_mem keys (List.mem_map_of_mem (f := (·.1)) member)
          obtain ⟨entry, among, rfl⟩ := List.mem_map.1 inKept
          exact ⟨entry.1, .key (inserted.subset among), inner⟩
  | value member =>
      cases grows with
      | map _ values inserted =>
          obtain ⟨other, inKept, inner⟩ :=
            exists_grown_of_mem values (List.mem_map_of_mem (f := (·.2)) member)
          obtain ⟨entry, among, rfl⟩ := List.mem_map.1 inKept
          exact ⟨entry.2, .value (inserted.subset among), inner⟩
  | payload =>
      cases grows with
      | variant inner =>
          cases inner with
          | record fields => exact ⟨_, .payload, .record fields⟩
  | payloadBehind =>
      cases grows with
      | variant inner =>
          cases inner with
          | pointer inner =>
              cases inner with
              | record fields => exact ⟨_, .payloadBehind, .record fields⟩

/-- Wherever some steps lead from a node, they lead from the grown node to the grown target. -/
theorem Grows.reaches {steps : List Step} (grows : node.Grows grown)
    (reaches : node.Reaches steps target) :
    ∃ other, grown.Reaches steps other ∧ target.Grows other := by
  induction reaches generalizing grown with
  | here => exact ⟨grown, .here, grows⟩
  | step leads _ induction =>
      obtain ⟨child, childLeads, childGrows⟩ := grows.leads leads
      obtain ⟨other, rest, targetGrows⟩ := induction childGrows
      exact ⟨other, .step childLeads rest, targetGrows⟩

/-- A record grows if the fields that it has grow in their places and others follow. -/
theorem grows_record_append {fields kept : List (Text × Node)} (more : List (Text × Node))
    (grow :
      List.Forall₂ (fun field other => field.1 = other.1 ∧ field.2.Grows other.2) fields kept) :
    Grows (.record fields) (.record (kept ++ more)) := by
  apply Grows.record
  intro name
  induction grow with
  | nil => exact .absent _
  | @cons field other fields kept first _ induction =>
      obtain ⟨same, grows⟩ := first
      by_cases named : other.1 = name
      · simpa [fieldNamed, same, named] using grows
      · simpa [fieldNamed, same, named] using induction

end Node

namespace Predicate

variable {predicate inner : Predicate} {children : List Predicate}

/-- Growth takes nothing away from the predicate: it goes on to hold, and to list what it lists. -/
structure Persists (predicate : Predicate) : Prop where
  holds : ∀ node grown, node.Grows grown → predicate.HoldsAt node → predicate.HoldsAt grown
  reports : ∀ node grown, node.Grows grown → ∀ key text,
    predicate.ReportsAt node key text → predicate.ReportsAt grown key text

theorem persists_leaf (test : LeafTest) : (leaf test).Persists := by
  constructor
  · intro node grown grows holds
    obtain ⟨value, rfl, accepted⟩ := holdsAt_leaf_iff.1 holds
    exact holdsAt_leaf_iff.2 ⟨value, grows.eq_leaf, accepted⟩
  · intro node grown grows key text reports
    obtain ⟨value, rfl, listed⟩ := reportsAt_leaf_iff.1 reports
    exact reportsAt_leaf_iff.2 ⟨value, grows.eq_leaf, listed⟩

theorem Persists.wrap (persists : inner.Persists) (steps : List Step) :
    (wrap steps inner).Persists := by
  constructor
  · intro node grown grows holds
    obtain ⟨target, reaches, innerHolds⟩ := holdsAt_wrap_iff.1 holds
    obtain ⟨other, found, targetGrows⟩ := grows.reaches reaches
    exact holdsAt_wrap_iff.2 ⟨other, found, persists.holds _ _ targetGrows innerHolds⟩
  · intro node grown grows key text reports
    obtain ⟨target, reaches, innerReports⟩ := reportsAt_wrap_iff.1 reports
    obtain ⟨other, found, targetGrows⟩ := grows.reaches reaches
    have otherReports := persists.reports _ _ targetGrows key text innerReports
    exact reportsAt_wrap_iff.2 ⟨other, found, otherReports⟩

theorem persists_all (persist : ∀ child ∈ children, child.Persists) : (all children).Persists := by
  have holds (node grown : Node) (grows : node.Grows grown)
      (held : ∀ child ∈ children, child.HoldsAt node) :
      ∀ child ∈ children, child.HoldsAt grown := fun child member =>
    (persist child member).holds node grown grows (held child member)
  constructor
  · intro node grown grows held
    exact holdsAt_all_iff.2 (holds node grown grows (holdsAt_all_iff.1 held))
  · intro node grown grows key text reports
    obtain ⟨held, child, member, childReports⟩ := reportsAt_all_iff.1 reports
    have kept := (persist child member).reports node grown grows key text childReports
    exact reportsAt_all_iff.2 ⟨holds node grown grows held, child, member, kept⟩

theorem persists_any (persist : ∀ child ∈ children, child.Persists) : (any children).Persists := by
  constructor
  · intro node grown grows held
    obtain ⟨child, member, childHolds⟩ := holdsAt_any_iff.1 held
    have kept := (persist child member).holds node grown grows childHolds
    exact holdsAt_any_iff.2 ⟨child, member, kept⟩
  · intro node grown grows key text reports
    obtain ⟨child, member, childReports⟩ := reportsAt_any_iff.1 reports
    have kept := (persist child member).reports node grown grows key text childReports
    exact reportsAt_any_iff.2 ⟨child, member, kept⟩

theorem persists_always : always.Persists :=
  persists_all nofun

/-- An exclusion that excludes nothing. -/
theorem Persists.without_never (persists : inner.Persists) : (without inner never).Persists := by
  have spares (node : Node) : ¬never.HoldsAt node := by
    intro held
    obtain ⟨child, member, _⟩ := holdsAt_any_iff.1 held
    cases member
  constructor
  · intro node grown grows held
    have kept := persists.holds node grown grows (holdsAt_without_iff.1 held).1
    exact holdsAt_without_iff.2 ⟨kept, spares grown⟩
  · intro node grown grows key text reports
    have kept := persists.reports node grown grows key text (reportsAt_without_iff.1 reports).1
    exact reportsAt_without_iff.2 ⟨kept, spares grown⟩

end Predicate

/-- No exclusion anywhere in the query has anything to exclude. -/
inductive Query.ExcludesNothing : Query → Prop where
  | conjunction {children : List Query} :
      (∀ child ∈ children, ExcludesNothing child) →
      ExcludesNothing (.conjunction children)
  | disjunction {children : List Query} :
      (∀ child ∈ children, ExcludesNothing child) →
      ExcludesNothing (.disjunction children)
  | boolean {must : List Query} :
      (∀ child ∈ must, ExcludesNothing child) →
      ExcludesNothing (.boolean must [])
  | base (condition : Condition) : ExcludesNothing (.base condition)
  | empty : ExcludesNothing .empty

namespace Schema

variable {schema : Schema} {predicate : Predicate} {query : Query}

variable [PropertyTable]

theorem persists_of_compileField {field : FieldMatch}
    (compiled : schema.compileField field = .ok predicate) : predicate.Persists := by
  rcases compileField_eq_ok_iff.1 compiled with ⟨_, rfl⟩ | ⟨path, test, _, _, rfl⟩
  · exact Predicate.persists_always
  · exact (Predicate.persists_leaf test).wrap path.steps

theorem persists_of_compileResolved {resolved : List (FieldMatch × FieldPath)}
    (compiled : compileResolved resolved = .ok predicate) : predicate.Persists := by
  obtain ⟨branches, run, rfl⟩ := compileResolved_eq_ok_iff.1 compiled
  apply Predicate.Persists.wrap
  apply Predicate.persists_all
  intro inner member
  obtain ⟨⟨field, path⟩, _, branchCompiled⟩ := (Run.mem_mapM_iff run).1 member
  obtain ⟨test, _, rfl⟩ := branch_eq_ok_iff.1 branchCompiled
  exact (Predicate.persists_leaf test).wrap _

theorem persists_of_compileLinked {fields : List FieldMatch}
    (compiled : schema.compileLinked fields = .ok predicate) : predicate.Persists := by
  unfold compileLinked at compiled
  split at compiled
  · cases compiled
  · split at compiled
    · cases compiled
      exact Predicate.persists_always
    · exact persists_of_compileResolved compiled

theorem persists_of_compileCondition {condition : Condition}
    (compiled : schema.compileCondition condition = .ok predicate) : predicate.Persists := by
  cases condition with
  | field field => exact persists_of_compileField compiled
  | linked fields => exact persists_of_compileLinked compiled
  | documents identifiers => cases compiled
  | nothing =>
      cases compiled
      exact Predicate.persists_any nofun

theorem persist_of_mapM {queries : List Query} {predicates : List Predicate}
    (each : ∀ query ∈ queries, ∀ predicate, schema.compileNested query = .ok predicate →
      predicate.Persists)
    (run : queries.mapM schema.compileNested = .ok predicates) :
    ∀ predicate ∈ predicates, predicate.Persists := by
  intro predicate member
  obtain ⟨query, inQueries, compiled⟩ := (Run.mem_mapM_iff run).1 member
  exact each query inQueries predicate compiled

theorem persists_of_compileNested (nothing : query.ExcludesNothing)
    (compiled : schema.compileNested query = .ok predicate) : predicate.Persists := by
  induction query generalizing predicate with
  | conjunction children induction =>
      cases nothing with
      | conjunction each =>
          obtain ⟨predicates, run, rfl⟩ := compileNested_conjunction_eq_ok_iff.1 compiled
          apply Predicate.persists_all
          refine persist_of_mapM (fun child member _ => ?_) run
          exact induction child member (each child member)
  | disjunction children induction =>
      cases nothing with
      | disjunction each =>
          obtain ⟨predicates, run, rfl⟩ := compileNested_disjunction_eq_ok_iff.1 compiled
          apply Predicate.persists_any
          refine persist_of_mapM (fun child member _ => ?_) run
          exact induction child member (each child member)
  | boolean must mustNot induction _ =>
      cases nothing with
      | boolean each =>
          obtain ⟨required, excluded, run, excludedRun, rfl⟩ :=
            compileNested_boolean_eq_ok_iff.1 compiled
          cases excludedRun
          apply Predicate.Persists.without_never
          apply Predicate.persists_all
          refine persist_of_mapM (fun child member _ => ?_) run
          exact induction child member (each child member)
  | base condition => exact persists_of_compileCondition compiled
  | empty => cases compiled

theorem persists_of_compile (nothing : query.ExcludesNothing)
    (compiled : schema.compile query = .ok predicate) : predicate.Persists := by
  unfold compile at compiled
  split at compiled
  · cases compiled
    exact Predicate.persists_always
  · exact persists_of_compileNested nothing compiled

/-- A query without exclusions that holds for a record holds for the grown record too, and lists
there what it lists for the record, under the same keys. -/
theorem grown_record_keeps_matches {schema : Schema} {query : Query} {predicate : Predicate}
    (compiled : schema.compile query = .ok predicate) (nothing : query.ExcludesNothing)
    {node grown : Node} (grows : node.Grows grown) {result : MatchResult}
    (evaluated : predicate.evaluateNode node = some result) :
    ∃ more, predicate.evaluateNode grown = some more ∧
      ∀ key text, result.Lists key text → more.Lists key text := by
  have persists := persists_of_compile nothing compiled
  have held : predicate.HoldsAt node := by
    rw [Predicate.HoldsAt, evaluated]
    rfl
  have kept := persists.holds node grown grows held
  obtain ⟨more, found⟩ := Option.isSome_iff_exists.1 kept
  refine ⟨more, found, fun key text lists => ?_⟩
  rw [← Predicate.reportsAt_iff_lists found]
  apply persists.reports node grown grows
  exact (Predicate.reportsAt_iff_lists evaluated).2 lists

end Schema

namespace Samples

def annAndNothingOld : Query :=
  .conjunction [.matchLinked annButNoGuest, .matchField "Tag".toList "!old".toList]

def leadMember : List (Text × Node) := [
  ("name".toList, .leaf (.string "Ann".toList)),
  ("role".toList, .leaf (.string "lead".toList))]

def smallItem : Node :=
  .record [
    ("tags".toList, .list [.leaf (.string "new".toList)]),
    ("members".toList, .list [.record leadMember])]

/-- The item with a name, a second tag and another member, and with more about the first one. -/
def largeItem : Node :=
  .record ([
    ("tags".toList, .list [.leaf (.string "old".toList), .leaf (.string "new".toList)]),
    ("members".toList, .list [
      .record [("role".toList, .leaf (.string "guest".toList))],
      .record (leadMember ++ [("team".toList, .leaf (.string "search".toList))])])] ++
    [("name".toList, .leaf (.string "Kit".toList))])

theorem smallItem_grows : smallItem.Grows largeItem := by
  apply Node.grows_record_append
  apply List.Forall₂.cons
  · exact ⟨rfl, .list (.cons (.leaf _) .nil) (List.sublist_cons_self _ _)⟩
  · apply List.Forall₂.cons _ .nil
    have member : Node.Grows (.record leadMember)
        (.record (leadMember ++ [("team".toList, .leaf (.string "search".toList))])) := by
      apply Node.grows_record_append
      exact .cons ⟨rfl, .leaf _⟩ (.cons ⟨rfl, .leaf _⟩ .nil)
    exact ⟨rfl, .list (.cons member .nil) (List.sublist_cons_self _ _)⟩

theorem grown_record_keeps_matches_kit :
    ∃ predicate result more,
      Item.schema.compile annAndNothingOld = .ok predicate ∧
      predicate.evaluateNode smallItem = some result ∧
      result.Lists "members.role".toList "lead".toList ∧
      predicate.evaluateNode largeItem = some more ∧
      ∀ key text, result.Lists key text → more.Lists key text := by
  have compiled : Item.schema.compile annAndNothingOld = .ok (.all [
      .within (.field "members".toList) (.within .list (.all [
        .within (.field "name".toList)
          (.leaf ⟨"members.name".toList, [(.string, .sameText "ann".toList)]⟩),
        .within (.field "role".toList)
          (.leaf ⟨"members.role".toList, [(.string, .negation (.sameText "guest".toList))]⟩)])),
      .within (.field "tags".toList) (.within .list
        (.leaf ⟨"tags".toList, [(.string, .negation (.sameText "old".toList))]⟩))]) := rfl
  have nothing : annAndNothingOld.ExcludesNothing := by
    apply Query.ExcludesNothing.conjunction
    exact List.forall_mem_cons.2 ⟨.base _, List.forall_mem_singleton.2 (.base _)⟩
  have lists : (((MatchResult.empty.record "members.name".toList "Ann".toList).record
      "members.role".toList "lead".toList).record "tags".toList "new".toList).Lists
        "members.role".toList "lead".toList := by
    simp [MatchResult.lists_record_iff]
  obtain ⟨more, found, kept⟩ :=
    Schema.grown_record_keeps_matches compiled nothing smallItem_grows rfl
  exact ⟨_, _, more, compiled, rfl, lists, found, kept⟩

end Samples

end RecordSearch
