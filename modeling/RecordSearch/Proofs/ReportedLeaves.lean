import RecordSearch.Proofs.FieldConditions
import RecordSearch.Proofs.Groups
import RecordSearch.Proofs.RegisteredPlaces
import RecordSearch.Proofs.Registration

/-!
# What the condition on one field reports

The steps of a label lead through a record to leaves, in the order in which the record holds them.
The condition on the label reports the texts of the leaves that its literal accepts in this order,
each where it is met first, and all of them under the wire path of the label.
-/

namespace RecordSearch

namespace Node

/-- The leaves at the end of some steps in the order of the record: the items of a list in their
order, and of each entry of a map the key before the value.  A variant is looked into if its
payload, perhaps behind one indirection, is a record. -/
def leavesAlong : List Step → Node → List Value
  | [], .leaf value => [value]
  | .field name :: steps, .record fields => leavesAlong steps (fieldNamed fields name)
  | .pointer :: steps, .pointer (some target) => leavesAlong steps target
  | .list :: steps, .list items => items.flatMap fun item => leavesAlong steps item
  | .map :: steps, .map entries =>
      entries.flatMap fun entry => leavesAlong steps entry.1 ++ leavesAlong steps entry.2
  | .variant name :: steps, .variant active (some (.record fields)) =>
      if active = name then leavesAlong steps (.record fields) else []
  | .variant name :: steps, .variant active (some (.pointer (some (.record fields)))) =>
      if active = name then leavesAlong steps (.record fields) else []
  | _, _ => []

variable {step : Step} {steps : List Step} {node : Node}

theorem leavesAlong_absent : leavesAlong steps .absent = [] := by
  cases steps with
  | nil => rfl
  | cons step steps => cases step <;> rfl

theorem leavesAlong_variant {name active : Text} {payload : Node} :
    leavesAlong (.variant name :: steps) (.variant active (some payload)) =
      if active = name ∧ payload.unwrapped.isRecord then leavesAlong steps payload.unwrapped
      else [] := by
  cases payload with
  | record fields => simp [leavesAlong, unwrapped, isRecord]
  | pointer target =>
      cases target with
      | none => simp [leavesAlong, unwrapped, isRecord]
      | some inner => cases inner <;> simp [leavesAlong, unwrapped, isRecord]
  | _ => simp [leavesAlong, unwrapped, isRecord]

/-- The leaves behind one more step are those behind its children, one child after the other. -/
theorem leavesAlong_cons :
    leavesAlong (step :: steps) node = (step.children node).flatMap (leavesAlong steps) := by
  cases step with
  | field name =>
      cases node with
      | record fields =>
          rw [leavesAlong, Step.children]
          split
          case isTrue missing =>
            cases found : fieldNamed fields name with
            | absent => exact leavesAlong_absent
            | _ => simp [found, isAbsent] at missing
          case isFalse => exact (List.flatMap_singleton _ _).symm
      | _ => rfl
  | variant name =>
      cases node with
      | variant active payload =>
          cases payload with
          | none => rfl
          | some payload =>
              rw [leavesAlong_variant, Step.children]
              split
              · exact (List.flatMap_singleton _ _).symm
              · rfl
      | _ => rfl
  | pointer =>
      cases node with
      | pointer target =>
          cases target with
          | none => rfl
          | some target => exact (List.flatMap_singleton _ _).symm
      | _ => rfl
  | list => cases node <;> rfl
  | map =>
      cases node with
      | map entries =>
          rw [leavesAlong, Step.children, sides, List.flatMap_assoc]
          simp
      | _ => rfl

end Node

namespace MatchResult

def single (key : Text) (texts : List Text) : MatchResult where
  table := { entries := [(key, texts)], sorted := List.pairwise_singleton _ _ }

variable {key other : Text} {texts more others : List Text}

theorem get?_single : (single key texts).get? other = if other = key then some texts else none := by
  by_cases same : other = key
  · simp [get?, SortedTable.find?, single, same]
  · simp [get?, SortedTable.find?, single, same, Ne.symm same]

theorem eq_single {result : MatchResult} (tidy : result.Tidy) (nonempty : texts ≠ [])
    (listed : ∀ other, result.texts other = if other = key then texts else []) :
    result = single key texts := by
  have tables : result.table = (single key texts).table := by
    refine SortedTable.eq_of_find?_eq fun other => ?_
    change result.get? other = (single key texts).get? other
    rw [get?_eq_of_texts tidy, listed, get?_single]
    by_cases same : other = key <;> simp [same, nonempty]
  cases result
  exact congrArg mk tables

theorem addAll_append : addAll texts (more ++ others) = addAll (addAll texts more) others :=
  List.foldl_append

theorem nil_addAll_eq_eraseDups : addAll [] texts = texts.eraseDups := by
  induction texts using List.reverseRecOn with
  | nil => rfl
  | append_singleton texts text induction =>
      rw [addAll_concat, induction, addOnce, eraseDups_concat]
      simp only [List.mem_eraseDups]

end MatchResult

namespace Predicate

section Unions

variable {α : Type} {outcome : Option MatchResult} {outcomes : List (Option MatchResult)}
  {key : Text}

theorem union_concat : union (outcomes ++ [outcome]) = collect (union outcomes) outcome :=
  List.foldl_append

theorem union_flatMap {items : List α} {outcomesOf : α → List (Option MatchResult)} :
    union (items.flatMap outcomesOf) = union (items.map fun item => union (outcomesOf item)) := by
  induction items using List.reverseRecOn with
  | nil => rfl
  | append_singleton items item induction =>
      rw [List.flatMap_append, List.flatMap_singleton, List.map_append, List.map_singleton,
        union_append, union_concat, induction]

/-- A union lists the texts of all outcomes in their order, each where it comes first. -/
theorem texts_union :
    ((union outcomes).getD .empty).texts key =
      (outcomes.flatMap fun outcome => (outcome.getD .empty).texts key).eraseDups := by
  rw [← MatchResult.nil_addAll_eq_eraseDups]
  induction outcomes using List.reverseRecOn with
  | nil => rfl
  | append_singleton outcomes outcome induction =>
      rw [List.flatMap_append, List.flatMap_singleton, MatchResult.addAll_append, ← induction,
        union_concat]
      cases outcome with
      | none => rfl
      | some result => exact MatchResult.texts_merge

end Unions

section Leaves

variable {steps : List Step} {test : LeafTest} {node : Node}

/-- A test behind some steps is put to the leaves along them, one after the other. -/
theorem evaluateNode_wrap_leaf :
    (wrap steps (.leaf test)).evaluateNode node =
      union ((node.leavesAlong steps).map fun value => test.evaluate (.leaf value)) := by
  induction steps generalizing node with
  | nil =>
      cases node with
      | leaf value => exact (union_singleton fun _ => tidy_evaluateNode).symm
      | _ => rfl
  | cons step steps induction =>
      change union ((step.children node).map (wrap steps (.leaf test)).evaluateNode) = _
      rw [Node.leavesAlong_cons, List.map_flatMap, union_flatMap]
      exact congrArg union (List.map_congr_left fun child _ => induction)

end Leaves

end Predicate

namespace LeafTest

variable {test : LeafTest} {value : Value} {values : List Value} {key : Text}

def acceptedTexts (test : LeafTest) (values : List Value) : List Text :=
  ((values.filter test.accepts).map Value.render).eraseDups

theorem texts_evaluate :
    ((test.evaluate (.leaf value)).getD .empty).texts key =
      if key = test.key then ([value].filter test.accepts).map Value.render else [] := by
  rw [evaluate]
  cases accepted : test.accepts value with
  | true =>
      rw [List.filter_cons_of_pos accepted, if_pos rfl, Option.getD_some, MatchResult.texts_record]
      rfl
  | false =>
      rw [List.filter_cons_of_neg (Bool.eq_false_iff.1 accepted), if_neg Bool.false_ne_true]
      exact (ite_self _).symm

theorem texts_union_evaluate :
    ((Predicate.union (values.map fun value => test.evaluate (.leaf value))).getD .empty).texts
        key =
      if key = test.key then test.acceptedTexts values else [] := by
  rw [Predicate.texts_union, List.flatMap_map]
  simp only [texts_evaluate]
  by_cases same : key = test.key
  · simp only [same, if_true, ← List.map_flatMap, ← List.filter_flatMap, List.flatMap_singleton']
    rfl
  · simp only [same, if_false, List.flatMap_eq_nil_iff.2 fun _ _ => rfl, List.eraseDups_nil]

theorem acceptedTexts_ne_nil (among : value ∈ values) (accepted : test.accepts value = true) :
    test.acceptedTexts values ≠ [] := by
  have kept : value ∈ values.filter test.accepts := List.mem_filter.2 ⟨among, accepted⟩
  exact List.ne_nil_of_mem (List.mem_eraseDups.2 (List.mem_map_of_mem kept))

/-- Putting a test to some values, one after the other, lists the texts of those that it accepts
under its key, and fails if there are none. -/
theorem union_evaluate :
    Predicate.union (values.map fun value => test.evaluate (.leaf value)) =
      if test.acceptedTexts values = [] then none
      else some (.single test.key (test.acceptedTexts values)) := by
  have listed (key : Text) := @texts_union_evaluate test values key
  cases found : Predicate.union (values.map fun value => test.evaluate (.leaf value)) with
  | none =>
      have nothing := listed test.key
      rw [found, if_pos rfl] at nothing
      exact (if_pos nothing.symm).symm
  | some result =>
      obtain ⟨_, member, holds⟩ :=
        Predicate.isSome_union_iff.1 (Option.isSome_iff_exists.2 ⟨result, found⟩)
      obtain ⟨value, among, rfl⟩ := List.mem_map.1 member
      obtain ⟨_, same, accepted⟩ := Predicate.holdsAt_leaf_iff.1 holds
      cases same
      have nonempty := acceptedTexts_ne_nil among accepted
      rw [if_neg nonempty]
      refine congrArg some (MatchResult.eq_single (Predicate.tidy_union found) nonempty ?_)
      intro key
      rw [← listed, found, Option.getD_some]

end LeafTest

namespace FieldPath

variable {path : FieldPath} {literal : Text} {test : LeafTest} {value : Value}

/-- The kind of leaf as which a value is tested: the first that accepts it, or else the first. -/
def kindFor (path : FieldPath) (value : Value) : LeafKind :=
  (path.leaves.find? fun kind => kind.accepts value).getD path.leaf

theorem kindFor_mem_leaves (path : FieldPath) (value : Value) :
    path.kindFor value ∈ path.leaves := by
  unfold kindFor
  cases first : path.leaves.find? fun kind => kind.accepts value with
  | none => exact List.mem_cons_self
  | some kind => exact List.mem_of_find?_eq_some first

variable [PropertyTable]

/-- The value satisfies the literal, as it is read for the kind of the value. -/
def satisfies (path : FieldPath) (literal : Text) (value : Value) : Bool :=
  (Matcher.compile (path.kindFor value) literal).any fun matcher => matcher.accepts value

/-- The texts of the leaves along the path that satisfy a literal, in the order of the record, each
where it comes first. -/
def reportedTexts (path : FieldPath) (literal : Text) (node : Node) : List Text :=
  (((node.leavesAlong path.steps).filter (path.satisfies literal)).map Value.render).eraseDups

theorem map_fst_kindTests {kinds : List LeafKind} {matchers : List (LeafKind × Matcher)}
    (run : kinds.mapM (kindTest literal) = .ok matchers) : matchers.map (·.1) = kinds := by
  induction kinds generalizing matchers with
  | nil =>
      cases run
      rfl
  | cons kind kinds induction =>
      obtain ⟨entry, entries, compiled, rest, rfl⟩ := Run.mapM_cons_eq_ok_iff.1 run
      rw [List.map_cons, induction rest, (kindTest_eq_ok_iff.1 compiled).1]

theorem accepts_eq_satisfies (compiled : path.leafTest literal = .ok test) :
    test.accepts value = path.satisfies literal value := by
  unfold LeafTest.accepts satisfies kindFor
  congr 1
  cases first : path.leaves.find? fun kind => kind.accepts value with
  | some kind => exact matcherFor_eq_compile compiled first
  | none =>
      have run := (leafTest_eq_ok_iff.1 compiled).2
      have kinds := map_fst_kindTests run
      obtain ⟨entry, entries, entryCompiled, _, matchers⟩ := Run.mapM_cons_eq_ok_iff.1 run
      have unaccepted : test.matchers.find? (fun entry => entry.1.accepts value) = none := by
        rw [← kinds, List.find?_map, Option.map_eq_none_iff] at first
        exact first
      rw [LeafTest.matcherFor, unaccepted, ← matchers]
      exact (kindTest_eq_ok_iff.1 entryCompiled).2.symm

end FieldPath

namespace Schema

/-- The condition on a label, with a literal that compiles for every kind of leaf of the label,
fails at a node if no leaf along the path of the label satisfies the literal.  Otherwise it reports
the texts of the leaves that do, in the order of the record and without repetition, and nothing but
these, under the wire path. -/
theorem reports_satisfying_leaves_in_order [PropertyTable] {schema : Schema} {label literal : Text}
    {path : FieldPath} {highlight : Bool} (known : schema.get? label = some path)
    (compiles : ∀ kind ∈ path.leaves, ∃ matcher, Matcher.compile kind literal = some matcher) :
    ∃ predicate,
      schema.compile (.base (.field { label, value := literal, highlight })) = .ok predicate ∧
      ∀ node, (predicate.evaluateNode node).map MatchResult.toList =
        if path.reportedTexts literal node = [] then none
        else some [(path.wirePath, path.reportedTexts literal node)] := by
  obtain ⟨test, compiled⟩ := FieldPath.exists_leafTest compiles
  refine ⟨_, compile_field highlight known compiled, fun node => ?_⟩
  have key : test.key = path.wirePath := (FieldPath.leafTest_eq_ok_iff.1 compiled).1
  have texts : test.acceptedTexts (node.leavesAlong path.steps) =
      path.reportedTexts literal node := by
    have same : test.accepts = path.satisfies literal := funext fun _ =>
      FieldPath.accepts_eq_satisfies compiled
    rw [LeafTest.acceptedTexts, same]
    rfl
  rw [Predicate.evaluateNode_wrap_leaf, LeafTest.union_evaluate, texts, key]
  split <;> rfl

end Schema

namespace Samples

abbrev Aliases := Dictionary Text Text

def ringOfAliases : Tagged Aliases where
  value := ⟨[("b".toList, "a".toList), ("c".toList, "b".toList), ("a".toList, "c".toList)]⟩

/-- Keys and values are met in turn, and no name is reported twice. -/
theorem reports_satisfying_leaves_in_order_aliases :
    ∃ predicate,
      (Schema.ofShape "Tagged".toList (taggedTable Aliases) (.named "Tagged".toList)).compile
        (.matchField "value".toList "!C".toList) = .ok predicate ∧
      (predicate.evaluateNode (Inspectable.node ringOfAliases)).map MatchResult.toList =
        some [("value".toList, ["b".toList, "a".toList])] := by
  have known : (Schema.ofShape "Tagged".toList (taggedTable Aliases)
      (.named "Tagged".toList)).get? "value".toList =
        some { steps := [.field "value".toList, .map], leaf := .string } := rfl
  have literal : Matcher.compile .string "!C".toList =
      some (.negation (.sameText "c".toList)) := rfl
  obtain ⟨predicate, compiled, reports⟩ :=
    Schema.reports_satisfying_leaves_in_order known (List.forall_mem_singleton.2 ⟨_, literal⟩)
  exact ⟨predicate, compiled, (reports _).trans rfl⟩

end Samples

end RecordSearch
