import Mathlib.Data.List.Forall2
import RecordSearch.Proofs.Highlighting

/-!
# Queries as Boolean formulas

Whether a record matches a query depends only on which of its conditions the record matches, each
of them taken as a query of its own.  From these truth values the query is computed like a Boolean
formula: groups are conjunctions and disjunctions of any width, and an exclusion is a conjunction
with a negated disjunction.  So queries obey the laws of Boolean algebra.
-/

namespace RecordSearch

/-- The truth value of a condition if those of the conditions on fields are given. -/
def Condition.reading (truth : Condition → Bool) : Condition → Bool
  | .field single => truth (.field single)
  | .linked group => truth (.linked group)
  | .documents _ => false
  | .nothing => false

namespace Query

mutual

/-- The truth value of a query if those of the conditions on fields are given. -/
def reading (truth : Condition → Bool) : Query → Bool
  | .conjunction children => (readings truth children).all id
  | .disjunction children => (readings truth children).any id
  | .boolean must mustNot => (readings truth must).all id && !(readings truth mustNot).any id
  | .base condition => condition.reading truth
  | .empty => true

def readings (truth : Condition → Bool) : List Query → List Bool
  | [] => []
  | query :: queries => reading truth query :: readings truth queries

end

/-- Two queries have the same form, and the conditions at each place of it are alike. -/
inductive SameForm (Alike : Condition → Condition → Prop) : Query → Query → Prop where
  | conjunction {lefts rights : List Query} :
      List.Forall₂ (SameForm Alike) lefts rights →
      SameForm Alike (.conjunction lefts) (.conjunction rights)
  | disjunction {lefts rights : List Query} :
      List.Forall₂ (SameForm Alike) lefts rights →
      SameForm Alike (.disjunction lefts) (.disjunction rights)
  | boolean {leftMust rightMust leftMustNot rightMustNot : List Query} :
      List.Forall₂ (SameForm Alike) leftMust rightMust →
      List.Forall₂ (SameForm Alike) leftMustNot rightMustNot →
      SameForm Alike (.boolean leftMust leftMustNot) (.boolean rightMust rightMustNot)
  | base {left right : Condition} :
      Alike left right →
      SameForm Alike (.base left) (.base right)
  | empty : SameForm Alike .empty .empty

/-- The laws of Boolean algebra for the truth values of queries whose operands are admissible. -/
structure BooleanLaws (Admissible : Query → Prop) (value : Query → Bool) : Prop where
  negate_negate : ∀ query, Admissible query →
    value (.negate (.negate query)) = value query
  negate_conjunction : ∀ children, (∀ child ∈ children, Admissible child) →
    value (.negate (.conjunction children)) = value (.disjunction (children.map .negate))
  negate_disjunction : ∀ children, (∀ child ∈ children, Admissible child) →
    value (.negate (.disjunction children)) = value (.conjunction (children.map .negate))
  conjunction_distributes : ∀ query children, Admissible query →
    (∀ child ∈ children, Admissible child) →
    value (.conjunction [query, .disjunction children]) =
      value (.disjunction (children.map fun child => .conjunction [query, child]))
  disjunction_distributes : ∀ query children, Admissible query →
    (∀ child ∈ children, Admissible child) →
    value (.disjunction [query, .conjunction children]) =
      value (.conjunction (children.map fun child => .disjunction [query, child]))

section Readings

variable {truth : Condition → Bool} {query : Query} {children must mustNot : List Query}

theorem readings_eq_map : readings truth children = children.map (reading truth) := by
  induction children with
  | nil => rfl
  | cons child children induction => rw [readings, induction, List.map_cons]

@[simp]
theorem reading_conjunction :
    reading truth (.conjunction children) = children.all (reading truth) := by
  rw [reading, readings_eq_map, List.all_map, Function.id_comp]

@[simp]
theorem reading_disjunction :
    reading truth (.disjunction children) = children.any (reading truth) := by
  rw [reading, readings_eq_map, List.any_map, Function.id_comp]

@[simp]
theorem reading_boolean :
    reading truth (.boolean must mustNot) =
      (must.all (reading truth) && !mustNot.any (reading truth)) := by
  rw [reading, readings_eq_map, readings_eq_map, List.all_map, List.any_map, Function.id_comp]

@[simp]
theorem reading_negate : reading truth (.negate query) = !reading truth query := by
  simp [negate]

theorem booleanLaws_reading (truth : Condition → Bool) :
    BooleanLaws (fun _ => True) (reading truth) where
  negate_negate := by simp
  negate_conjunction children _ := by
    simp [List.any_map, Function.comp_def, List.not_all_eq_any_not]
  negate_disjunction children _ := by
    simp [List.all_map, Function.comp_def, List.not_any_eq_all_not]
  conjunction_distributes query children _ _ := by
    cases held : reading truth query <;>
      simp [List.any_map, Function.comp_def, held]
  disjunction_distributes query children _ _ := by
    cases held : reading truth query <;>
      simp [List.all_map, Function.comp_def, held]

/-- Lists of queries of the same form, member by member, have the same truth values. -/
theorem readings_eq_of_forall₂ {Alike : Condition → Condition → Prop} {lefts rights : List Query}
    (each : ∀ left ∈ lefts, ∀ right, SameForm Alike left right →
      reading truth left = reading truth right)
    (same : List.Forall₂ (SameForm Alike) lefts rights) :
    readings truth lefts = readings truth rights := by
  induction same with
  | nil => rfl
  | cons headSame tailSame induction =>
      obtain ⟨headEach, tailEach⟩ := List.forall_mem_cons.1 each
      have heads := headEach _ headSame
      have tails := induction tailEach
      rw [readings, readings, heads, tails]

/-- Queries of the same form have the same truth value if corresponding conditions have. -/
theorem SameForm.reading_eq {left right : Query}
    (same : SameForm (fun left right => left.reading truth = right.reading truth) left right) :
    reading truth left = reading truth right := by
  induction left generalizing right with
  | conjunction lefts induction =>
      cases same with
      | conjunction members =>
          have values := readings_eq_of_forall₂ (fun _ member _ => induction _ member) members
          rw [reading, reading, values]
  | disjunction lefts induction =>
      cases same with
      | disjunction members =>
          have values := readings_eq_of_forall₂ (fun _ member _ => induction _ member) members
          rw [reading, reading, values]
  | boolean must mustNot mustInduction mustNotInduction =>
      cases same with
      | boolean mustMembers mustNotMembers =>
          have required :=
            readings_eq_of_forall₂ (fun _ member _ => mustInduction _ member) mustMembers
          have excluded :=
            readings_eq_of_forall₂ (fun _ member _ => mustNotInduction _ member) mustNotMembers
          rw [reading, reading, required, excluded]
  | base condition =>
      cases same with
      | base alike => exact alike
  | empty =>
      cases same
      rfl

end Readings

end Query

namespace Schema

variable {α : Type} [Inspectable α] {schema : Schema} {record : α} {query : Query}

variable [PropertyTable]

def accepts (schema : Schema) (record : α) (query : Query) : Bool :=
  match schema.compile query with
  | .ok predicate => predicate.holds record
  | .error _ => false

/-- Whether the record matches the condition as a query of its own. -/
def acceptsAlone (schema : Schema) (record : α) (condition : Condition) : Bool :=
  schema.accepts record (.base condition)

/-- The record matches both conditions or neither of them, each as a query of its own. -/
def AgreeOn (schema : Schema) (record : α) (one other : Condition) : Prop :=
  schema.acceptsAlone record one = schema.acceptsAlone record other

theorem accepts_iff_matches :
    schema.accepts record query = true ↔ schema.Matches (Inspectable.node record) query := by
  unfold accepts Matches
  cases schema.compile query with
  | ok predicate => simp [Predicate.holds, Predicate.evaluate, Predicate.HoldsAt]
  | error error => simp

theorem holds_eq_accepts {predicate : Predicate}
    (compiled : schema.compile query = .ok predicate) :
    predicate.holds record = schema.accepts record query := by
  rw [accepts, compiled]

/-- What is true of a condition alone is what its reading makes of it: only conditions on fields
can hold. -/
theorem reading_acceptsAlone (condition : Condition) :
    condition.reading (schema.acceptsAlone record) = schema.acceptsAlone record condition := by
  cases condition with
  | field field => rfl
  | linked fields => rfl
  | documents identifiers => rfl
  | nothing => rfl

theorem matchesInside_base_iff {condition : Condition} :
    schema.MatchesInside (Inspectable.node record) (.base condition) ↔
      condition.reading (schema.acceptsAlone record) = true := by
  rw [reading_acceptsAlone, acceptsAlone, accepts_iff_matches, matches_iff_inside rfl]

theorem matchesInside_iff_reading (compiles : schema.CompilesInside query) :
    schema.MatchesInside (Inspectable.node record) query ↔
      query.reading (schema.acceptsAlone record) = true := by
  induction query with
  | conjunction children induction =>
      rw [compilesInside_conjunction_iff] at compiles
      rw [matchesInside_conjunction_iff, Query.reading_conjunction, List.all_eq_true]
      exact forall₂_congr fun child member => induction child member (compiles child member)
  | disjunction children induction =>
      rw [compilesInside_disjunction_iff] at compiles
      rw [matchesInside_disjunction_iff, and_iff_right compiles, Query.reading_disjunction,
        List.any_eq_true]
      refine exists_congr fun child => and_congr_right fun member => ?_
      exact induction child member (compiles child member)
  | boolean must mustNot mustInduction mustNotInduction =>
      rw [compilesInside_boolean_iff] at compiles
      obtain ⟨mustCompile, mustNotCompile⟩ := compiles
      have required : (∀ child ∈ must, schema.MatchesInside (Inspectable.node record) child) ↔
          must.all (Query.reading (schema.acceptsAlone record)) = true := by
        rw [List.all_eq_true]
        exact forall₂_congr fun child member =>
          mustInduction child member (mustCompile child member)
      have excluded :
          (∃ child ∈ mustNot, schema.MatchesInside (Inspectable.node record) child) ↔
            mustNot.any (Query.reading (schema.acceptsAlone record)) = true := by
        rw [List.any_eq_true]
        refine exists_congr fun child => and_congr_right fun member => ?_
        exact mustNotInduction child member (mustNotCompile child member)
      rw [matchesInside_boolean_iff, and_iff_right mustNotCompile, required, excluded,
        Query.reading_boolean, Bool.and_eq_true, Bool.not_eq_true', Bool.not_eq_true]
  | base condition => exact matchesInside_base_iff
  | empty => exact absurd compiles not_compilesInside_empty

theorem accepts_eq_reading (compiles : schema.Compiles query) :
    schema.accepts record query = query.reading (schema.acceptsAlone record) := by
  by_cases empty : query = .empty
  · subst empty
    rfl
  · have compilesInside : schema.CompilesInside query := compilesInside_iff.2 ⟨compiles, empty⟩
    have nonempty : query.isEmpty = false := Query.isEmpty_eq_false_iff.2 empty
    rw [Bool.eq_iff_iff, accepts_iff_matches, matches_iff_inside nonempty,
      matchesInside_iff_reading compilesInside]

theorem accepts_eq_of_reading_eq {left right : Query} (leftCompiles : schema.CompilesInside left)
    (rightCompiles : schema.CompilesInside right)
    (equal : ∀ truth, left.reading truth = right.reading truth) :
    schema.accepts record left = schema.accepts record right := by
  obtain ⟨leftCompiles, _⟩ := compilesInside_iff.1 leftCompiles
  obtain ⟨rightCompiles, _⟩ := compilesInside_iff.1 rightCompiles
  rw [accepts_eq_reading leftCompiles, accepts_eq_reading rightCompiles, equal]

theorem compilesInside_negate_iff :
    schema.CompilesInside (.negate query) ↔ schema.CompilesInside query := by
  simp [Query.negate]

theorem compilesInside_pair_iff {left right : Query} :
    (∀ child ∈ [left, right], schema.CompilesInside child) ↔
      schema.CompilesInside left ∧ schema.CompilesInside right := by
  simp

/-- Matching obeys the laws of Boolean algebra for all queries that compile inside others. -/
theorem booleanLaws_accepts (schema : Schema) (record : α) :
    Query.BooleanLaws schema.CompilesInside (schema.accepts record) where
  negate_negate query compiles := by
    have negated : schema.CompilesInside (.negate (.negate query)) := by
      rwa [compilesInside_negate_iff, compilesInside_negate_iff]
    exact accepts_eq_of_reading_eq negated compiles fun truth =>
      (Query.booleanLaws_reading truth).negate_negate query trivial
  negate_conjunction children compile := by
    have left : schema.CompilesInside (.negate (.conjunction children)) := by
      rwa [compilesInside_negate_iff, compilesInside_conjunction_iff]
    have right : schema.CompilesInside (.disjunction (children.map .negate)) := by
      rw [compilesInside_disjunction_iff, List.forall_mem_map]
      exact fun child member => compilesInside_negate_iff.2 (compile child member)
    exact accepts_eq_of_reading_eq left right fun truth =>
      (Query.booleanLaws_reading truth).negate_conjunction children fun _ _ => trivial
  negate_disjunction children compile := by
    have left : schema.CompilesInside (.negate (.disjunction children)) := by
      rwa [compilesInside_negate_iff, compilesInside_disjunction_iff]
    have right : schema.CompilesInside (.conjunction (children.map .negate)) := by
      rw [compilesInside_conjunction_iff, List.forall_mem_map]
      exact fun child member => compilesInside_negate_iff.2 (compile child member)
    exact accepts_eq_of_reading_eq left right fun truth =>
      (Query.booleanLaws_reading truth).negate_disjunction children fun _ _ => trivial
  conjunction_distributes query children compiles compile := by
    have left : schema.CompilesInside (.conjunction [query, .disjunction children]) := by
      rw [compilesInside_conjunction_iff, compilesInside_pair_iff, compilesInside_disjunction_iff]
      exact ⟨compiles, compile⟩
    have right : schema.CompilesInside
        (.disjunction (children.map fun child => .conjunction [query, child])) := by
      rw [compilesInside_disjunction_iff, List.forall_mem_map]
      intro child member
      rw [compilesInside_conjunction_iff, compilesInside_pair_iff]
      exact ⟨compiles, compile child member⟩
    exact accepts_eq_of_reading_eq left right fun truth =>
      (Query.booleanLaws_reading truth).conjunction_distributes query children trivial
        fun _ _ => trivial
  disjunction_distributes query children compiles compile := by
    have left : schema.CompilesInside (.disjunction [query, .conjunction children]) := by
      rw [compilesInside_disjunction_iff, compilesInside_pair_iff, compilesInside_conjunction_iff]
      exact ⟨compiles, compile⟩
    have right : schema.CompilesInside
        (.conjunction (children.map fun child => .disjunction [query, child])) := by
      rw [compilesInside_conjunction_iff, List.forall_mem_map]
      intro child member
      rw [compilesInside_disjunction_iff, compilesInside_pair_iff]
      exact ⟨compiles, compile child member⟩
    exact accepts_eq_of_reading_eq left right fun truth =>
      (Query.booleanLaws_reading truth).disjunction_distributes query children trivial
        fun _ _ => trivial

/-- A record matches a query that compiles exactly if the query is true as a Boolean formula over
its conditions on fields, each of which is true if the record matches it as a query of its own.
So the record matches both or neither of two queries of the same form whose conditions agree at
each place, and matching obeys the laws of Boolean algebra. -/
theorem holds_eq_reading {α : Type} [Inspectable α] (schema : Schema) (record : α) :
    (∀ query predicate, schema.compile query = .ok predicate →
      predicate.holds record = query.reading (schema.acceptsAlone record)) ∧
    (∀ left right, schema.Compiles left → schema.Compiles right →
      left.SameForm (schema.AgreeOn record) right →
      schema.accepts record left = schema.accepts record right) ∧
    Query.BooleanLaws (fun query => schema.Compiles query ∧ query ≠ .empty)
      (schema.accepts record) := by
  refine ⟨fun query predicate compiled => ?_, fun left right leftCompiles rightCompiles same => ?_,
    ?_⟩
  · rw [holds_eq_accepts compiled]
    exact accepts_eq_reading ⟨predicate, compiled⟩
  · rw [accepts_eq_reading leftCompiles, accepts_eq_reading rightCompiles]
    apply Query.SameForm.reading_eq
    simp only [reading_acceptsAlone]
    exact same
  · have admissible : (fun query => schema.Compiles query ∧ query ≠ .empty) =
        schema.CompilesInside :=
      funext fun query => propext compilesInside_iff.symm
    rw [admissible]
    exact booleanLaws_accepts schema record

end Schema

namespace Samples

/-- Everyone called Bob, and everyone who is not of the staff. -/
def bobOrOutsider : Query :=
  .disjunction [.matchField "Name".toList "bob".toList,
    .negate (.matchField "Tag".toList "staff".toList)]

/-- A query of the same form, with a condition that holds nowhere in the place of one that the
guest does not meet. -/
def anyoneOrOutsider : Query :=
  .disjunction [.matchField "Name".toList "*".toList, .negate (.base .nothing)]

/-- The guest of the name Bob, as the record type knows him. -/
def guestRecord : Person where
  name := "Bob".toList
  tags := ["guest".toList]

theorem holds_eq_reading_guest :
    (∃ predicate, Person.schema.compile guestQuery = .ok predicate ∧
      predicate.holds guestRecord =
        guestQuery.reading (Person.schema.acceptsAlone guestRecord)) ∧
    Person.schema.accepts guestRecord bobOrOutsider =
      Person.schema.accepts guestRecord anyoneOrOutsider ∧
    Person.schema.accepts guestRecord (.negate (.negate guestQuery)) =
      Person.schema.accepts guestRecord guestQuery := by
  obtain ⟨reading, sameForm, laws⟩ := Schema.holds_eq_reading Person.schema guestRecord
  refine ⟨⟨_, rfl, reading guestQuery _ rfl⟩, ?_, ?_⟩
  · apply sameForm bobOrOutsider anyoneOrOutsider ⟨_, rfl⟩ ⟨_, rfl⟩
    have outsiders : Query.SameForm (Person.schema.AgreeOn guestRecord)
        (.negate (.matchField "Tag".toList "staff".toList)) (.negate (.base .nothing)) :=
      .boolean .nil (.cons (.base rfl) .nil)
    exact .disjunction (.cons (.base rfl) (.cons outsiders .nil))
  · have compiles : Person.schema.Compiles guestQuery := ⟨_, rfl⟩
    exact laws.negate_negate guestQuery ⟨compiles, nofun⟩

end Samples

end RecordSearch
