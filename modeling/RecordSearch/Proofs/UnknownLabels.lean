import RecordSearch.Proofs.QueryMeaning
import RecordSearch.Samples.People
import RecordSearch.Samples.Properties

/-!
# Conditions on unknown labels

A condition on a label that the schema does not know holds everywhere.  Where
it has to hold together with others it makes no difference, and as one of
several alternatives it lets more records through.  Behind an exclusion it is
the other way round: a query that excludes such a condition holds nowhere.
-/

namespace RecordSearch

namespace Schema

/-- The query is a condition on one field whose label the schema does not know. -/
def isUnknownField (schema : Schema) : Query → Bool
  | .base (.field field) => (schema.get? field.label).isNone
  | _ => false

mutual

/-- The query without the conditions on unknown labels in its lists. -/
def forgetInside (schema : Schema) : Query → Query
  | .conjunction children => .conjunction (forgetMembers schema children)
  | .disjunction children => .disjunction (forgetMembers schema children)
  | .boolean must mustNot => .boolean (forgetMembers schema must) (forgetMembers schema mustNot)
  | .base condition => .base condition
  | .empty => .empty

/-- The members of a list that are no conditions on unknown labels, without those inside them. -/
def forgetMembers (schema : Schema) : List Query → List Query
  | [] => []
  | query :: queries =>
      if schema.isUnknownField query then
        forgetMembers schema queries
      else
        forgetInside schema query :: forgetMembers schema queries

end

/-- The query without its conditions on unknown labels; one that is nothing else becomes empty. -/
def forgetUnknown (schema : Schema) (query : Query) : Query :=
  if schema.isUnknownField query then .empty else schema.forgetInside query

/-- Some condition on an unknown label stands where it can hide records: as an alternative within
an exclusion, or as an exclusion that is not itself within one.  The query itself is `excluded` if
it stands under an odd number of exclusions. -/
inductive UnknownHides (schema : Schema) : (excluded : Bool) → Query → Prop where
  | alternative {children : List Query} {child : Query} :
      child ∈ children →
      schema.isUnknownField child = true →
      UnknownHides schema true (.disjunction children)
  | exclusion {must mustNot : List Query} {child : Query} :
      child ∈ mustNot →
      schema.isUnknownField child = true →
      UnknownHides schema false (.boolean must mustNot)
  | conjunction {excluded : Bool} {children : List Query} {child : Query} :
      child ∈ children →
      UnknownHides schema excluded child →
      UnknownHides schema excluded (.conjunction children)
  | disjunction {excluded : Bool} {children : List Query} {child : Query} :
      child ∈ children →
      UnknownHides schema excluded child →
      UnknownHides schema excluded (.disjunction children)
  | must {excluded : Bool} {must mustNot : List Query} {child : Query} :
      child ∈ must →
      UnknownHides schema excluded child →
      UnknownHides schema excluded (.boolean must mustNot)
  | mustNot {excluded : Bool} {must mustNot : List Query} {child : Query} :
      child ∈ mustNot →
      UnknownHides schema (!excluded) child →
      UnknownHides schema excluded (.boolean must mustNot)

variable {schema : Schema} {node : Node} {query : Query} {children must mustNot : List Query}

theorem forgetMembers_eq_map :
    schema.forgetMembers children =
      (children.filter fun child => !schema.isUnknownField child).map schema.forgetInside := by
  induction children with
  | nil => rfl
  | cons child children induction =>
      by_cases unknown : schema.isUnknownField child = true <;>
        simp [forgetMembers, unknown, induction]

theorem forall_forgetMembers_iff {Property : Query → Prop} :
    (∀ member ∈ schema.forgetMembers children, Property member) ↔
      ∀ child ∈ children, schema.isUnknownField child = false →
        Property (schema.forgetInside child) := by
  rw [forgetMembers_eq_map, List.forall_mem_map]
  simp

theorem exists_forgetMembers_iff {Property : Query → Prop} :
    (∃ member ∈ schema.forgetMembers children, Property member) ↔
      ∃ child ∈ children, schema.isUnknownField child = false ∧
        Property (schema.forgetInside child) := by
  constructor
  · intro found
    obtain ⟨_, member, property⟩ := found
    rw [forgetMembers_eq_map, List.mem_map] at member
    obtain ⟨child, among, rfl⟩ := member
    obtain ⟨childMember, known⟩ := List.mem_filter.1 among
    exact ⟨child, childMember, by simpa using known, property⟩
  · intro found
    obtain ⟨child, member, known, property⟩ := found
    refine ⟨_, ?_, property⟩
    rw [forgetMembers_eq_map]
    exact List.mem_map_of_mem (List.mem_filter.2 ⟨member, by simp [known]⟩)

/-- A condition on an unknown label holds everywhere. -/
theorem matchesInside_of_unknown [PropertyTable] (unknown : schema.isUnknownField query = true) :
    schema.MatchesInside node query := by
  cases query with
  | base condition =>
      cases condition with
      | field field =>
          have missing : schema.get? field.label = none := Option.isNone_iff_eq_none.1 unknown
          refine ⟨.always, ?_, by simp [Predicate.always]⟩
          simp [compileNested, compileCondition, compileField, missing]
      | _ => simp [isUnknownField] at unknown
  | _ => simp [isUnknownField] at unknown

/-- A query that excludes a condition on an unknown label holds nowhere. -/
theorem not_matchesInside_of_unknown_excluded [PropertyTable] {child : Query}
    (member : child ∈ mustNot)
    (unknown : schema.isUnknownField child = true) :
    ¬schema.MatchesInside node (.boolean must mustNot) := by
  rw [matchesInside_boolean_iff]
  intro matched
  exact matched.2.2 ⟨child, member, matchesInside_of_unknown unknown⟩

/-- Members that have to hold together hold as soon as those do that are no conditions on unknown
labels. -/
theorem forall_matchesInside_of_known [PropertyTable]
    (each : ∀ child ∈ children, schema.MatchesInside node (schema.forgetInside child) →
      schema.MatchesInside node child)
    (matched : ∀ child ∈ children, schema.isUnknownField child = false →
      schema.MatchesInside node (schema.forgetInside child)) :
    ∀ child ∈ children, schema.MatchesInside node child := by
  intro child member
  cases unknown : schema.isUnknownField child with
  | true => exact matchesInside_of_unknown unknown
  | false => exact each child member (matched child member unknown)

theorem compilesInside_forgetInside [PropertyTable] (compiles : schema.CompilesInside query) :
    schema.CompilesInside (schema.forgetInside query) := by
  induction query with
  | conjunction children induction =>
      rw [compilesInside_conjunction_iff] at compiles
      rw [forgetInside, compilesInside_conjunction_iff, forall_forgetMembers_iff]
      exact fun child member _ => induction child member (compiles child member)
  | disjunction children induction =>
      rw [compilesInside_disjunction_iff] at compiles
      rw [forgetInside, compilesInside_disjunction_iff, forall_forgetMembers_iff]
      exact fun child member _ => induction child member (compiles child member)
  | boolean must mustNot mustInduction mustNotInduction =>
      rw [compilesInside_boolean_iff] at compiles
      rw [forgetInside, compilesInside_boolean_iff, forall_forgetMembers_iff,
        forall_forgetMembers_iff]
      exact ⟨fun child member _ => mustInduction child member (compiles.1 child member),
        fun child member _ => mustNotInduction child member (compiles.2 child member)⟩
  | base condition => rwa [forgetInside]
  | empty => rwa [forgetInside]

/-- Forgetting the conditions on unknown labels adds no record to those of a query, unless some of
them hide records; and it takes none away, unless some do so in the exclusion of the query. -/
theorem matchesInside_forgetInside [PropertyTable] (compiles : schema.CompilesInside query) :
    (¬schema.UnknownHides false query →
        schema.MatchesInside node (schema.forgetInside query) →
        schema.MatchesInside node query) ∧
      (¬schema.UnknownHides true query →
        schema.MatchesInside node query →
        schema.MatchesInside node (schema.forgetInside query)) := by
  induction query with
  | conjunction children induction =>
      rw [compilesInside_conjunction_iff] at compiles
      rw [forgetInside, matchesInside_conjunction_iff, matchesInside_conjunction_iff,
        forall_forgetMembers_iff]
      constructor
      · intro shown
        refine forall_matchesInside_of_known fun child member => ?_
        exact (induction child member (compiles child member)).1
          fun hides => shown (.conjunction member hides)
      · intro shown matched child member _
        exact (induction child member (compiles child member)).2
          (fun hides => shown (.conjunction member hides)) (matched child member)
  | disjunction children induction =>
      have compilesWithout := compilesInside_forgetInside compiles
      rw [forgetInside, compilesInside_disjunction_iff] at compilesWithout
      rw [compilesInside_disjunction_iff] at compiles
      rw [forgetInside, matchesInside_disjunction_iff, matchesInside_disjunction_iff,
        exists_forgetMembers_iff]
      constructor
      · intro shown matched
        obtain ⟨_, child, member, _, holds⟩ := matched
        exact ⟨compiles, child, member, (induction child member (compiles child member)).1
          (fun hides => shown (.disjunction member hides)) holds⟩
      · intro shown matched
        obtain ⟨_, child, member, holds⟩ := matched
        have known : schema.isUnknownField child = false :=
          Bool.eq_false_iff.2 fun unknown => shown (.alternative member unknown)
        exact ⟨compilesWithout, child, member, known,
          (induction child member (compiles child member)).2
            (fun hides => shown (.disjunction member hides)) holds⟩
  | boolean must mustNot mustInduction mustNotInduction =>
      have compilesWithout := compilesInside_forgetInside compiles
      rw [forgetInside, compilesInside_boolean_iff] at compilesWithout
      rw [compilesInside_boolean_iff] at compiles
      rw [forgetInside, matchesInside_boolean_iff, matchesInside_boolean_iff,
        forall_forgetMembers_iff, exists_forgetMembers_iff]
      constructor
      · intro shown matched
        obtain ⟨holds, _, none⟩ := matched
        refine ⟨forall_matchesInside_of_known (fun child member => ?_) holds, compiles.2,
          fun found => ?_⟩
        · exact (mustInduction child member (compiles.1 child member)).1
            fun hides => shown (.must member hides)
        · obtain ⟨child, member, childHolds⟩ := found
          have known : schema.isUnknownField child = false :=
            Bool.eq_false_iff.2 fun unknown => shown (.exclusion member unknown)
          exact none ⟨child, member, known,
            (mustNotInduction child member (compiles.2 child member)).2
              (fun hides => shown (.mustNot member hides)) childHolds⟩
      · intro shown matched
        obtain ⟨holds, _, none⟩ := matched
        refine ⟨fun child member _ => ?_, compilesWithout.2, fun found => ?_⟩
        · exact (mustInduction child member (compiles.1 child member)).2
            (fun hides => shown (.must member hides)) (holds child member)
        · obtain ⟨child, member, _, childHolds⟩ := found
          exact none ⟨child, member,
            (mustNotInduction child member (compiles.2 child member)).1
              (fun hides => shown (.mustNot member hides)) childHolds⟩
  | base condition => exact ⟨fun _ => id, fun _ => id⟩
  | empty => exact ⟨fun _ => id, fun _ => id⟩

theorem isEmpty_forgetInside (query : Query) :
    (schema.forgetInside query).isEmpty = query.isEmpty := by
  cases query <;> simp [forgetInside, Query.isEmpty]

/-- A record that matches a query without its conditions on unknown labels matches the query as
well, unless one of these conditions stands where it can hide records. -/
theorem matches_of_matches_forgetUnknown [PropertyTable] {schema : Schema} {query : Query}
    {node : Node}
    (compiles : schema.Compiles query) (shown : ¬schema.UnknownHides false query)
    (matched : schema.Matches node (schema.forgetUnknown query)) :
    schema.Matches node query := by
  unfold forgetUnknown at matched
  by_cases empty : query.isEmpty = true
  · cases query with
    | empty => exact matched
    | _ => cases empty
  · have nonempty : query.isEmpty = false := Bool.eq_false_iff.2 empty
    rw [matches_iff_inside nonempty]
    by_cases unknown : schema.isUnknownField query = true
    · exact matchesInside_of_unknown unknown
    · rw [if_neg unknown, matches_iff_inside (by rw [isEmpty_forgetInside, nonempty])] at matched
      have compilesInside : schema.CompilesInside query := by
        rwa [Compiles, compile_eq_compileNested nonempty] at compiles
      exact (matchesInside_forgetInside compilesInside).1 shown matched

end Schema

namespace Samples

def nicknamed : Query := .matchField "Nickname".toList "zed".toList

/-- Everyone called Bob who is a guest; the type has no nicknames. -/
def nicknameQuery : Query :=
  .boolean
    [.disjunction [nicknamed, .matchField "Name".toList "bob".toList], nicknamed]
    [.boolean [] [nicknamed, .matchField "Tag".toList "guest".toList]]

def bob : Node :=
  Inspectable.node ({ name := "Bob".toList, tags := ["guest".toList] } : Person)

theorem matches_of_matches_forgetUnknown_bob :
    Person.schema.Compiles nicknameQuery ∧ ¬Person.schema.UnknownHides false nicknameQuery ∧
      Person.schema.Matches bob (Person.schema.forgetUnknown nicknameQuery) ∧
      Person.schema.Matches bob nicknameQuery := by
  have compiles : Person.schema.Compiles nicknameQuery := ⟨_, rfl⟩
  have plain {excluded : Bool} {label value : Text} (child : Query)
      (member : child ∈ [nicknamed, .matchField label value]) :
      ¬Person.schema.UnknownHides excluded child := by
    simp only [List.mem_cons, List.not_mem_nil, or_false] at member
    rcases member with rfl | rfl <;> nofun
  have shown : ¬Person.schema.UnknownHides false nicknameQuery := by
    intro hides
    cases hides with
    | exclusion member unknown =>
        rw [List.mem_singleton.1 member] at unknown
        cases unknown
    | must member hides =>
        simp only [List.mem_cons, List.not_mem_nil, or_false] at member
        rcases member with rfl | rfl
        · cases hides with
          | disjunction member hides => exact plain _ member hides
        · cases hides
    | mustNot member hides =>
        obtain rfl := List.mem_singleton.1 member
        cases hides with
        | must member => cases member
        | mustNot member hides => exact plain _ member hides
  have matched : Person.schema.Matches bob (Person.schema.forgetUnknown nicknameQuery) :=
    ⟨_, rfl, rfl⟩
  exact ⟨compiles, shown, matched,
    Schema.matches_of_matches_forgetUnknown compiles shown matched⟩

def bobWithoutNickname : Query :=
  .boolean [.matchField "Name".toList "bob".toList] [nicknamed]

def neitherNicknamedNorAnn : Query :=
  .boolean [] [.disjunction [nicknamed, .matchField "Name".toList "ann".toList]]

/-- An unknown label hides records as an exclusion, and as an alternative within one. -/
theorem unknown_exclusion_hides_bob :
    (Person.schema.Compiles bobWithoutNickname ∧
      Person.schema.Matches bob (Person.schema.forgetUnknown bobWithoutNickname) ∧
      ¬Person.schema.Matches bob bobWithoutNickname) ∧
    Person.schema.Compiles neitherNicknamedNorAnn ∧
      Person.schema.Matches bob (Person.schema.forgetUnknown neitherNicknamedNorAnn) ∧
      ¬Person.schema.Matches bob neitherNicknamedNorAnn := by
  refine ⟨⟨⟨_, rfl⟩, ⟨_, rfl, rfl⟩, ?_⟩, ⟨_, rfl⟩, ⟨_, rfl, rfl⟩, ?_⟩
  · rw [Schema.matches_iff_inside rfl]
    exact Schema.not_matchesInside_of_unknown_excluded (List.mem_singleton_self _) rfl
  · intro matched
    obtain ⟨_, compiled, holds⟩ := matched
    cases compiled
    cases holds

end Samples

end RecordSearch
