import RecordSearch.MatchResult
import RecordSearch.Matcher
import RecordSearch.Node
import RecordSearch.Schema.Path

/-!
# Predicates on records

A compiled query is a predicate: tests on leaves, lifted through the steps that
lead to them and combined.  Evaluating it on a node either fails or lists the
values that matched.

A step leads from a node to some of its children, and a predicate behind the
step holds if it holds for one of them; the values found in all of them are
listed.
-/

namespace RecordSearch

namespace Step

/-- The children to which a step leads.  The payload of a variant counts if it is a record. -/
def children : Step → Node → List Node
  | .field name, .record fields =>
      let child := Node.fieldNamed fields name
      if child.isAbsent then [] else [child]
  | .pointer, .pointer (some target) => [target]
  | .list, .list items => items
  | .map, .map entries => Node.sides entries
  | .variant name, .variant active (some payload) =>
      if active = name ∧ payload.unwrapped.isRecord then [payload.unwrapped] else []
  | _, _ => []

end Step

/-- A test on the leaves of a path: one matcher for each kind of leaf. -/
structure LeafTest where
  /-- The wire path under which accepted values are listed. -/
  key : Text
  matchers : List (LeafKind × Matcher)

namespace LeafTest

/-- The matcher for a value: that of its own kind, or else the first. -/
def matcherFor (test : LeafTest) (value : Value) : Option Matcher :=
  match test.matchers.find? fun entry => entry.1.accepts value with
  | some entry => some entry.2
  | none => test.matchers.head?.map (·.2)

def accepts (test : LeafTest) (value : Value) : Bool :=
  (test.matcherFor value).any fun matcher => matcher.accepts value

def evaluate (test : LeafTest) : Node → Option MatchResult
  | .leaf value =>
      if test.accepts value then
        some (MatchResult.empty.record test.key value.render)
      else
        none
  | _ => none

end LeafTest

/-- A compiled query. -/
inductive Predicate
  | leaf (test : LeafTest)
  /-- Some child behind the step satisfies the inner predicate. -/
  | within (step : Step) (inner : Predicate)
  | all (children : List Predicate)
  | any (children : List Predicate)
  /-- The first predicate holds and the second does not. -/
  | without (must mustNot : Predicate)

namespace Predicate

/-- The predicate that holds everywhere and lists nothing. -/
def always : Predicate := .all []

/-- The predicate that holds nowhere. -/
def never : Predicate := .any []

/-- Lifts a predicate through some steps, the outermost first. -/
def wrap (steps : List Step) (inner : Predicate) : Predicate :=
  steps.foldr .within inner

/-- Adds a result to those found so far. -/
def collect (found : Option MatchResult) : Option MatchResult → Option MatchResult
  | none => found
  | some result => some ((found.getD .empty).merge result)

/-- The union of the results that there are, if there is one. -/
def union (results : List (Option MatchResult)) : Option MatchResult :=
  results.foldl collect none

mutual

/-- The values that match at a node, if the predicate holds there. -/
def evaluateNode : Predicate → Node → Option MatchResult
  | .leaf test, node => test.evaluate node
  | .within step inner, node => union ((step.children node).map inner.evaluateNode)
  | .all children, node => evaluateAll children node .empty
  | .any children, node => union (evaluateEach children node)
  | .without must mustNot, node =>
      match must.evaluateNode node with
      | none => none
      | some result =>
          match mustNot.evaluateNode node with
          | none => some result
          | some _ => none

/-- Adds the results of all predicates to one found so far; stops at the first that fails. -/
def evaluateAll : List Predicate → Node → MatchResult → Option MatchResult
  | [], _, found => some found
  | child :: children, node, found =>
      match child.evaluateNode node with
      | none => none
      | some result => evaluateAll children node (found.merge result)

def evaluateEach : List Predicate → Node → List (Option MatchResult)
  | [], _ => []
  | child :: children, node => child.evaluateNode node :: evaluateEach children node

end

@[simp]
theorem evaluateEach_eq_map (children : List Predicate) (node : Node) :
    evaluateEach children node = children.map fun child => child.evaluateNode node := by
  induction children with
  | nil => rfl
  | cons child children induction => simp [evaluateEach, induction]

section Equations

variable (node : Node) (found : MatchResult)

@[simp]
theorem evaluateNode_leaf (test : LeafTest) :
    (leaf test).evaluateNode node = test.evaluate node :=
  rfl

@[simp]
theorem evaluateNode_within (step : Step) (inner : Predicate) :
    (within step inner).evaluateNode node =
      union ((step.children node).map inner.evaluateNode) :=
  rfl

@[simp]
theorem evaluateNode_all (children : List Predicate) :
    (all children).evaluateNode node = evaluateAll children node .empty :=
  rfl

@[simp]
theorem evaluateNode_any (children : List Predicate) :
    (any children).evaluateNode node =
      union (children.map fun child => child.evaluateNode node) :=
  congrArg union (evaluateEach_eq_map children node)

@[simp]
theorem evaluateNode_without (must mustNot : Predicate) :
    (without must mustNot).evaluateNode node =
      match must.evaluateNode node with
      | none => none
      | some result =>
          match mustNot.evaluateNode node with
          | none => some result
          | some _ => none :=
  rfl

@[simp]
theorem evaluateAll_nil : evaluateAll [] node found = some found :=
  rfl

@[simp]
theorem evaluateAll_cons (child : Predicate) (children : List Predicate) :
    evaluateAll (child :: children) node found =
      match child.evaluateNode node with
      | none => none
      | some result => evaluateAll children node (found.merge result) :=
  rfl

end Equations

section Collections

variable {α : Type} [Inspectable α]

def evaluate (predicate : Predicate) (record : α) : Option MatchResult :=
  predicate.evaluateNode (Inspectable.node record)

def holds (predicate : Predicate) (record : α) : Bool :=
  (predicate.evaluate record).isSome

def filter (predicate : Predicate) (records : List α) : List α :=
  records.filter predicate.holds

def count (predicate : Predicate) (records : List α) : Nat :=
  records.countP predicate.holds

def holdsForAny (predicate : Predicate) (records : List α) : Bool :=
  records.any predicate.holds

def holdsForAll (predicate : Predicate) (records : List α) : Bool :=
  records.all predicate.holds

def find? (predicate : Predicate) (records : List α) : Option α :=
  records.find? predicate.holds

def position? (predicate : Predicate) (records : List α) : Option Nat :=
  records.findIdx? predicate.holds

def evaluateRecords (predicate : Predicate) (records : List α) : List (α × MatchResult) :=
  records.filterMap fun record =>
    (predicate.evaluate record).map fun result => (record, result)

end Collections

end Predicate

end RecordSearch
