import RecordSearch.Proofs.BooleanReading
import RecordSearch.Proofs.JoinedQueries
import RecordSearch.Proofs.ReportedLeaves
import RecordSearch.Proofs.StarredLiterals
import RecordSearch.Samples.People

/-!
# Completing a query

While a text is being typed, a star is put behind the last value of its last pair.  The query of the
completed text has the conditions of the finished one but for this last value.  So a record that
matches stays, unless only this value finds leaves and with the star it finds none.
-/

namespace RecordSearch

namespace RawQuery

variable {options other : Options} {raw label value : Text} {values : List Text}
  {completing : Bool} {pair : Pair} {kept : List Pair}

theorem pairs_congr (same : options.allowEmptyValues = other.allowEmptyValues) (raw : Text) :
    pairs options raw = pairs other raw := by
  simp only [pairs, readPair, same]

theorem pairQueries_concat :
    pairQueries completing (kept ++ [pair]) =
      kept.map (pairQuery false) ++ [pairQuery completing pair] := by
  induction kept with
  | nil => rfl
  | cons first kept induction =>
      cases kept with
      | nil => rfl
      | cons next kept =>
          rw [List.cons_append, List.cons_append, pairQueries_cons_cons, ← List.cons_append,
            induction]
          rfl

theorem fieldMatches_concat :
    fieldMatches completing label (values ++ [value]) =
      values.map (finishedMatch label) ++
        [if completing then completingMatch label value else finishedMatch label value] := by
  induction values with
  | nil => rfl
  | cons first values induction =>
      cases values with
      | nil => rfl
      | cons next values =>
          rw [List.cons_append, List.cons_append, fieldMatches_cons_cons, ← List.cons_append,
            induction]
          rfl

/-- The last value in the text, which is being typed, behind its label and its other values. -/
def typed? (raw : Text) : Option (Text × List Text × Text) := do
  let pair ← (pairs Options.completing raw).getLast?
  let value ← pair.values.getLast?
  return (pair.label, pair.values.dropLast, value)

theorem readCompleting_eq_some_iff {query : Query} :
    readCompleting raw = some (query, label) ↔
      (pairs Options.completing raw).getLast?.map (·.label) = some label ∧
        (read Options.completing raw).query = query := by
  simp only [readCompleting]
  by_cases noText : raw = []
  · subst noText
    simp [pairs_nil]
  · rw [if_neg noText, Option.map_eq_some_iff]
    simp only [Prod.mk.injEq]
    constructor
    · rintro ⟨_, found, rfl, rfl⟩
      exact ⟨found, rfl⟩
    · rintro ⟨found, rfl⟩
      exact ⟨label, found, rfl, rfl⟩

end RawQuery

namespace Schema

open RawQuery

variable {schema : Schema} {node : Node} {label literal : Text} {values : List Text}
  {pair : Pair}

def FindsLeaf (node : Node) (path : FieldPath) (test : LeafTest) (value : Value) : Prop :=
  node.Reaches path.steps (.leaf value) ∧ test.accepts value = true

variable [PropertyTable]

/-- If the literal finds a leaf under the label, it still finds one with a star at its end. -/
def KeepsTyped (schema : Schema) (node : Node) (label literal : Text) : Prop :=
  literal = [] ∨
    ∀ path test, schema.get? label = some path → path.leafTest literal = .ok test →
      (∃ value, FindsLeaf node path test value) →
      ∃ value, node.Reaches path.steps (.leaf value) ∧
        Matcher.Keeps literal (test.accepts value = true) (path.kindFor value) value

/-- With a star a test accepts the values that the literal keeps. -/
theorem accepts_completed_iff {path : FieldPath} {test completed : LeafTest} {value : Value}
    (trimmed : Text.trim literal = literal) (tested : path.leafTest literal = .ok test)
    (completedTest : path.leafTest (literal ++ Matcher.wildcard) = .ok completed) :
    completed.accepts value = true ↔
      Matcher.Keeps literal (test.accepts value = true) (path.kindFor value) value := by
  obtain ⟨matcher, compiled⟩ := FieldPath.exists_compile tested (path.kindFor_mem_leaves value)
  obtain ⟨starred, starredCompiled⟩ :=
    FieldPath.exists_compile completedTest (path.kindFor_mem_leaves value)
  rw [FieldPath.accepts_eq_satisfies tested, FieldPath.accepts_eq_satisfies completedTest,
    FieldPath.satisfies, FieldPath.satisfies, compiled, starredCompiled]
  exact (Matcher.keeps_iff trimmed compiled starredCompiled).symm

/-- The condition for a completed value finds leaves only if the value keeps one. -/
theorem keepsTyped_of_matchesInside (trimmed : Text.trim literal = literal)
    (matched : schema.MatchesInside node (.base (.field (completingMatch label literal)))) :
    schema.KeepsTyped node label literal := by
  by_cases empty : literal = []
  · exact .inl empty
  refine .inr fun path test known tested _ => ?_
  obtain ⟨predicate, compiled, holds⟩ := matched
  rcases compileField_eq_ok_iff.1 compiled with
    ⟨unknown, _⟩ | ⟨other, completed, otherKnown, completedTest, rfl⟩
  · cases known.symm.trans unknown
  obtain rfl := Option.some.inj (known.symm.trans otherKnown)
  obtain ⟨value, reaches, accepted⟩ := Predicate.holdsAt_wrap_leaf_iff.1 holds
  exact ⟨value, reaches, (accepts_completed_iff trimmed tested completedTest).1 accepted⟩

/-- The condition for a value that keeps a leaf finds one when it is completed. -/
theorem matchesInside_completingMatch (trimmed : Text.trim literal = literal)
    (keeps : schema.KeepsTyped node label literal)
    (compiles : schema.CompilesInside (.base (.field (completingMatch label literal))))
    (matched : schema.MatchesInside node (.base (.field (finishedMatch label literal)))) :
    schema.MatchesInside node (.base (.field (completingMatch label literal))) := by
  by_cases empty : literal = []
  · subst empty
    exact matched
  obtain ⟨predicate, compiled, holds⟩ := matched
  obtain ⟨wide, wideCompiled⟩ := compiles
  refine ⟨wide, wideCompiled, ?_⟩
  rw [finishedMatch, if_neg empty] at compiled
  rcases compileField_eq_ok_iff.1 compiled with ⟨unknown, rfl⟩ | ⟨path, test, known, tested, rfl⟩
  · rcases compileField_eq_ok_iff.1 wideCompiled with ⟨_, rfl⟩ | ⟨path, _, known, _⟩
    · exact holds
    · cases unknown.symm.trans known
  · rcases compileField_eq_ok_iff.1 wideCompiled with
      ⟨unknown, _⟩ | ⟨_, completed, wideKnown, completedTest, rfl⟩
    · cases unknown.symm.trans known
    obtain rfl := Option.some.inj (known.symm.trans wideKnown)
    obtain ⟨value, reaches, kept⟩ :=
      keeps.resolve_left empty path test known tested (Predicate.holdsAt_wrap_leaf_iff.1 holds)
    exact Predicate.holdsAt_wrap_leaf_iff.2
      ⟨value, reaches, (accepts_completed_iff trimmed tested completedTest).2 kept⟩

/-- A pair that holds goes on to hold when its last value is completed, exactly if another of its
values holds or this one keeps a leaf. -/
theorem matchesInside_completed_pair_iff (trimmed : Text.trim literal = literal)
    (last : pair.values = values ++ [literal])
    (compiles : schema.CompilesInside (pairQuery true pair))
    (matched : schema.MatchesInside node (pairQuery false pair)) :
    schema.MatchesInside node (pairQuery true pair) ↔
      (∃ value ∈ values, schema.Matches node (.base (.field (finishedMatch pair.label value)))) ∨
        schema.KeepsTyped node pair.label literal := by
  simp only [pairQuery, last, fieldMatches_concat, List.map_append, List.map_singleton,
    if_pos, Bool.false_eq_true, if_false] at compiles matched ⊢
  rw [compilesInside_anyOf_iff] at compiles
  rw [matchesInside_anyOf_iff] at matched ⊢
  rw [and_iff_right compiles.2]
  constructor
  · intro holds
    obtain ⟨query, member, holds⟩ := holds
    rcases List.mem_append.1 member with before | typed
    · obtain ⟨_, given, rfl⟩ := List.mem_map.1 before
      obtain ⟨value, among, rfl⟩ := List.mem_map.1 given
      exact .inl ⟨value, among, (matches_iff_inside rfl).2 holds⟩
    · obtain rfl := List.mem_singleton.1 typed
      exact .inr (keepsTyped_of_matchesInside trimmed holds)
  · rintro (⟨value, among, holds⟩ | keeps)
    · refine ⟨_, List.mem_append_left _ (List.mem_map_of_mem (List.mem_map_of_mem among)), ?_⟩
      exact (matches_iff_inside rfl).1 holds
    obtain ⟨query, member, holds⟩ := matched.2
    rcases List.mem_append.1 member with before | typed
    · exact ⟨query, List.mem_append_left _ before, holds⟩
    · obtain rfl := List.mem_singleton.1 typed
      exact ⟨_, List.mem_append_right _ List.mem_cons_self,
        matchesInside_completingMatch trimmed keeps
          (compiles.2 _ (List.mem_append_right _ List.mem_cons_self)) holds⟩

/-- A record that matches a text matches it still when the text is completed, unless only the last
value finds leaves under the last label, and with the star behind it it finds none. -/
theorem completed_keeps_matches {schema : Schema} {node : Node} {raw label : Text}
    {finished completed : Query}
    (read : readStrict (({} : Options).setAllowEmptyValues true) raw = some finished)
    (typing : readCompleting raw = some (completed, label))
    (compiles : schema.Compiles completed)
    (matched : schema.Matches node finished) :
    schema.Matches node completed ↔
      ∀ others literal, typed? raw = some (label, others, literal) →
        (∃ value ∈ others, schema.Matches node (.base (.field (finishedMatch label value)))) ∨
          schema.KeepsTyped node label literal := by
  obtain ⟨nonempty, rfl⟩ := readStrict_eq_some_iff.1 read
  obtain ⟨lastLabel, rfl⟩ := readCompleting_eq_some_iff.1 typing
  have same : pairs (({} : Options).setAllowEmptyValues true) raw = pairs Options.completing raw :=
    pairs_congr rfl raw
  rw [RawQuery.read, matches_allOf_choices_iff fun _ => isChoice_of_mem_read] at matched ⊢
  rw [RawQuery.read, compiles_allOf_choices_iff fun _ => isChoice_of_mem_read] at compiles
  rw [same] at nonempty matched
  obtain ⟨front, pair, parts⟩ := (List.eq_nil_or_concat' _).resolve_left nonempty
  have wellFormed : pair.WellFormed := wellFormed_of_mem_pairs (parts ▸ List.mem_concat_self)
  obtain ⟨values, literal, last⟩ := (List.eq_nil_or_concat' _).resolve_left wellFormed.nonempty
  rw [parts, List.getLast?_concat] at lastLabel
  obtain rfl : pair.label = label := Option.some.inj lastLabel
  have typed : typed? raw = some (pair.label, values, literal) := by
    simp [typed?, parts, last]
  have trimmed : Text.trim literal = literal :=
    wellFormed.trimmed literal (last ▸ List.mem_concat_self)
  -- The two queries have all choices in common but the last.
  have queries (options : Options) : pairQueries options.autocomplete (front ++ [pair]) =
      front.map (pairQuery false) ++ [pairQuery options.autocomplete pair] :=
    pairQueries_concat
  rw [parts, queries, List.forall_mem_append, List.forall_mem_singleton] at matched compiles ⊢
  have lastHolds := matchesInside_completed_pair_iff trimmed last compiles.2 matched.2
  rw [and_iff_right matched.1]
  refine lastHolds.trans ⟨fun keeps others other same => ?_, fun keeps => keeps _ _ typed⟩
  obtain ⟨-, parts⟩ := Prod.mk.inj (Option.some.inj (typed.symm.trans same))
  obtain ⟨rfl, rfl⟩ := Prod.mk.inj parts
  exact keeps

end Schema

namespace Samples

open RawQuery

def initialText : Text := "Tag:guest+Name:bob,A".toList

def initialGuest : Person where
  name := "a".toList
  tags := ["guest".toList]

def ada : Person where
  name := "Ada".toList

theorem normal_initial : Text.Ranges.normal [(0x41, 0x41), (0x61, 0x61), (0x41, 0x41)] =
    [(0x41, 0x41), (0x61, 0x61)] := by
  have sorted : [(0x41, 0x41), (0x61, 0x61), (0x41, 0x41)].mergeSort
      (fun (left right : Nat × Nat) => left.1 ≤ right.1) =
        [(0x41, 0x41), (0x41, 0x41), (0x61, 0x61)] := by
    simp [List.mergeSort]
  rw [Text.Ranges.normal, sorted]
  rfl

theorem spans_anyCase_A : (CharSet.single 'A').anyCase.spans = [(0x41, 0x41), (0x61, 0x61)] := by
  have closure : Text.foldClosure [(0x41, 0x41)] =
      Text.Ranges.normal [(0x41, 0x41), (0x61, 0x61), (0x41, 0x41)] :=
    congrArg Text.Ranges.normal (by decide +kernel)
  exact closure.trans normal_initial

theorem readGlob_initial : Regex.readGlob "A*".toList ≠ none := by
  have shape : Regex.ofGlob "A*".toList =
      .sequence (.edge .textStart) (.sequence (.set (CharSet.single 'A').anyCase)
        (.sequence (.repeated (.set CharSet.all) 0 none)
          (.sequence .nothing (.edge .textEnd)))) := rfl
  have small (direction : Direction) :
      (Regex.ofGlob "A*".toList).automaton direction ≤ Memory.limit := by
    rw [shape]
    simp only [Regex.automaton, Regex.memory, Regex.memoryAlone, spans_anyCase_A]
    cases direction <;> decide +kernel
  rw [Regex.readGlob, Regex.fit, if_pos ⟨small .forward, small .backward⟩]
  exact Option.some_ne_none _

/-- The initial with a star is a proper literal, also behind marks. -/
theorem not_malformed_initial {literal : Text} (initial : Matcher.bare literal = "A*".toList) :
    ¬Matcher.Malformed literal := by
  intro malformed
  cases malformed with
  | expression marked _ =>
      rw [initial] at marked
      cases marked
  | glob _ _ _ _ refused =>
      rw [initial] at refused
      exact readGlob_initial refused

theorem compilesInside_initial {literal : Text} (initial : Matcher.bare literal = "A*".toList) :
    Person.schema.CompilesInside (.base (.field ⟨"Name".toList, literal, true⟩)) := by
  rw [Schema.CompilesInside, Run.isOk_iff_forall_ne_error]
  intro error failed
  have failedField :
      Person.schema.compileField ⟨"Name".toList, literal, true⟩ = .error error := failed
  obtain ⟨⟨_, _, _, malformed⟩, _⟩ := Schema.compileField_eq_error_iff.1 failedField
  exact not_malformed_initial initial malformed

theorem get?_name : Person.schema.get? "Name".toList =
    some { steps := [.field "name".toList], leaf := .string } := rfl

theorem reaches_name {person : Person} {value : Value}
    (reaches : Node.Reaches [.field "name".toList] (Inspectable.node person) (.leaf value)) :
    value = .string person.name := by
  obtain ⟨name, field, here⟩ := Node.reaches_cons_iff.1 reaches
  obtain rfl := List.mem_singleton.1 (Step.mem_children_iff.2 field)
  exact Node.leaf.inj (Node.reaches_nil_iff.1 here)

def finishedInitial : Query :=
  .conjunction [
    .matchField "Tag".toList "guest".toList,
    .matchAny "Name".toList ["bob".toList, "A".toList]]

def completedInitial : Query :=
  .conjunction [
    .matchField "Tag".toList "guest".toList,
    .disjunction [
      .matchField "Name".toList "bob".toList,
      .base (.field ⟨"Name".toList, "A*".toList, true⟩)]]

theorem compiles_completedInitial : Person.schema.Compiles completedInitial := by
  have initial : Person.schema.CompilesInside
      (.base (.field ⟨"Name".toList, "A*".toList, true⟩)) := compilesInside_initial rfl
  have tag : Person.schema.CompilesInside (.matchField "Tag".toList "guest".toList) := ⟨_, rfl⟩
  have name : Person.schema.CompilesInside (.matchField "Name".toList "bob".toList) := ⟨_, rfl⟩
  rw [Schema.compiles_iff_empty_or_inside, completedInitial]
  right
  rw [Schema.compilesInside_conjunction_iff, List.forall_mem_cons, List.forall_mem_singleton,
    Schema.compilesInside_disjunction_iff, List.forall_mem_cons, List.forall_mem_singleton]
  exact ⟨tag, name, initial⟩

theorem completed_keeps_matches_initial :
    readStrict (({} : Options).setAllowEmptyValues true) initialText = some finishedInitial ∧
      readCompleting initialText = some (completedInitial, "Name".toList) ∧
      Person.schema.Compiles completedInitial ∧
      Person.schema.Matches (Inspectable.node initialGuest) finishedInitial ∧
      Person.schema.Matches (Inspectable.node initialGuest) completedInitial := by
  have read : readStrict (({} : Options).setAllowEmptyValues true) initialText =
      some finishedInitial := rfl
  have typing : readCompleting initialText = some (completedInitial, "Name".toList) := rfl
  have typed : typed? initialText = some ("Name".toList, ["bob".toList], "A".toList) := rfl
  have matched : Person.schema.Matches (Inspectable.node initialGuest) finishedInitial :=
    Schema.accepts_iff_matches.1 (by decide +kernel)
  refine ⟨read, typing, compiles_completedInitial, matched, ?_⟩
  refine (Schema.completed_keeps_matches read typing compiles_completedInitial matched).2 ?_
  intro others literal same
  obtain ⟨-, parts⟩ := Prod.mk.inj (Option.some.inj (typed.symm.trans same))
  obtain ⟨-, rfl⟩ := Prod.mk.inj parts
  refine .inr (.inr fun path test known _ found => ?_)
  obtain rfl := Option.some.inj (get?_name.symm.trans known)
  obtain ⟨value, reaches, accepted⟩ := found
  obtain rfl := reaches_name reaches
  have ascii : ∀ character ∈ "A".toList, character.toNat < 128 :=
    List.forall_mem_singleton.2 (by decide)
  exact ⟨_, reaches, .text accepted (.plain (by decide) rfl (Text.caseAgrees_of_ascii ascii))⟩

/-- A person is hidden by the completion of an excluded initial. -/
theorem completion_hides_ada :
    ∃ finished completed,
      readStrict (({} : Options).setAllowEmptyValues true) "Name:!A".toList = some finished ∧
      readCompleting "Name:!A".toList = some (completed, "Name".toList) ∧
      Person.schema.Compiles completed ∧
      Person.schema.Matches (Inspectable.node ada) finished ∧
      ¬Person.schema.Matches (Inspectable.node ada) completed := by
  refine ⟨.matchField "Name".toList "!A".toList,
    .base (.field ⟨"Name".toList, "!A*".toList, true⟩), rfl, rfl, ?_, ?_, ?_⟩
  · exact (Schema.compilesInside_iff.1 (compilesInside_initial rfl)).1
  · exact Schema.accepts_iff_matches.1 (by decide +kernel)
  · intro matched
    obtain ⟨predicate, compiled, holds⟩ := matched
    rw [Schema.compile_eq_compileNested rfl, Schema.compileNested,
      Schema.compileCondition] at compiled
    rcases Schema.compileField_eq_ok_iff.1 compiled with
      ⟨unknown, _⟩ | ⟨path, test, known, tested, rfl⟩
    · cases get?_name.symm.trans unknown
    obtain rfl := Option.some.inj (get?_name.symm.trans known)
    obtain ⟨value, reaches, accepted⟩ := Predicate.holdsAt_wrap_leaf_iff.1 holds
    obtain rfl := reaches_name reaches
    obtain ⟨matcher, starred, accepted⟩ := (FieldPath.accepts_iff tested rfl).1 accepted
    have trimmed : Text.trim "!A".toList = "!A".toList := rfl
    have begins : Regex.Describes "A*".toList ada.name :=
      .letter (by decide) (by decide +kernel) (Regex.describes_anything _)
    have unmarked : Matcher.Unmarked (Matcher.bare "!A".toList) := by
      intro body equal
      cases equal
    have refused := Matcher.refuses_negated trimmed (by decide) unmarked begins starred
    rw [refused] at accepted
    cases accepted

end Samples

end RecordSearch
