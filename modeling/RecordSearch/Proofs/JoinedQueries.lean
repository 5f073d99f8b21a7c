import RecordSearch.Proofs.Conjunctions
import RecordSearch.Proofs.Highlighting
import RecordSearch.Proofs.WrittenPairs

/-!
# Joined raw queries

Two raw queries joined with `+` ask for both, if the first one closes its quotations.  The joined
text has the pairs of both, and its query conjoins the choices of both, whatever collapsed form
they have for themselves.  So its matches are the merged matches of both.
-/

namespace RecordSearch

namespace Predicate

variable {front back : List Predicate}

/-- A predicate that holds where two others do, and lists there what the first one lists and then
what the second one lists. -/
structure Joins (joint first second : Predicate) : Prop where
  holds : ∀ node, joint.HoldsAt node ↔ first.HoldsAt node ∧ second.HoldsAt node
  merges : ∀ node found others, first.evaluateNode node = some found →
    second.evaluateNode node = some others → joint.evaluateNode node = some (found.merge others)

theorem joins_all_append : (all (front ++ back)).Joins (all front) (all back) := by
  constructor
  · intro node
    simp only [holdsAt_all_iff, List.forall_mem_append]
  · intro node found others first second
    rw [evaluateNode_all_append, first, second]
    rfl

theorem Joins.congr {joint first second joint' first' second' : Predicate}
    (joins : joint.Joins first second) (joints : joint'.evaluateNode = joint.evaluateNode)
    (firsts : first'.evaluateNode = first.evaluateNode)
    (seconds : second'.evaluateNode = second.evaluateNode) : joint'.Joins first' second' := by
  constructor
  · unfold HoldsAt
    rw [joints, firsts, seconds]
    exact joins.holds
  · rw [joints, firsts, seconds]
    exact joins.merges

end Predicate

namespace Schema

variable {schema : Schema} {node : Node} {queries front back : List Query} {predicate : Predicate}

variable [PropertyTable]

theorem exists_members_of_allOf (choices : ∀ query ∈ queries, query.IsChoice)
    (compiled : schema.compile (.allOf queries) = .ok predicate) :
    ∃ members, queries.mapM schema.compileNested = .ok members ∧
      predicate.evaluateNode = (Predicate.all members).evaluateNode := by
  unfold Query.allOf at compiled
  induction queries using Query.collapse_cases .conjunction with
  | none =>
      cases compiled
      exact ⟨[], rfl, rfl⟩
  | single query =>
      have nonempty := (choices query (List.mem_singleton_self query)).isEmpty
      rw [compile_eq_compileNested nonempty] at compiled
      refine ⟨[predicate], ?_, (Predicate.evaluateNode_all_singleton predicate).symm⟩
      exact Run.mapM_cons_eq_ok_iff.2 ⟨predicate, [], compiled, rfl, rfl⟩
  | several queries several =>
      rw [compile_eq_compileNested rfl] at compiled
      obtain ⟨members, run, rfl⟩ := compileNested_conjunction_eq_ok_iff.1 compiled
      exact ⟨members, run, rfl⟩

theorem compiles_allOf_choices_iff (choices : ∀ query ∈ queries, query.IsChoice) :
    schema.Compiles (.allOf queries) ↔ ∀ query ∈ queries, schema.CompilesInside query := by
  rw [compiles_allOf_iff, or_iff_right]
  rintro rfl
  cases choices .empty (List.mem_singleton_self _)

theorem matches_allOf_choices_iff (choices : ∀ query ∈ queries, query.IsChoice) :
    schema.Matches node (.allOf queries) ↔ ∀ query ∈ queries, schema.MatchesInside node query := by
  rw [matches_allOf_iff, or_iff_right]
  rintro rfl
  cases choices .empty (List.mem_singleton_self _)

theorem joins_allOf_append {joint first second : Predicate}
    (choices : ∀ query ∈ front ++ back, query.IsChoice)
    (jointCompiled : schema.compile (.allOf (front ++ back)) = .ok joint)
    (firstCompiled : schema.compile (.allOf front) = .ok first)
    (secondCompiled : schema.compile (.allOf back) = .ok second) : joint.Joins first second := by
  obtain ⟨frontChoices, backChoices⟩ := List.forall_mem_append.1 choices
  obtain ⟨members, run, jointAll⟩ := exists_members_of_allOf choices jointCompiled
  obtain ⟨frontMembers, frontRun, firstAll⟩ := exists_members_of_allOf frontChoices firstCompiled
  obtain ⟨backMembers, backRun, secondAll⟩ := exists_members_of_allOf backChoices secondCompiled
  rw [List.mapM_append, frontRun, backRun] at run
  cases run
  exact Predicate.joins_all_append.congr jointAll firstAll secondAll

end Schema

namespace RawQuery

variable {options : Options} {left right : Text}

section Joined

theorem fragments_joined (closed : Text.Closed left) :
    fragments (left ++ pairSeparator :: right) = fragments left ++ fragments right :=
  Text.splitUnquoted_append pairSeparator_ne_quote closed

theorem pairs_joined (closed : Text.Closed left) :
    pairs options (left ++ pairSeparator :: right) = pairs options left ++ pairs options right := by
  rw [pairs, fragments_joined closed, List.filterMap_append]
  rfl

theorem skipped_joined (closed : Text.Closed left) :
    (read options (left ++ pairSeparator :: right)).skipped =
      (read options left).skipped ++ (read options right).skipped := by
  simp only [read, skippedPairs, fragments_joined closed, List.filterMap_append]

theorem lastLabel_joined (closed : Text.Closed left) :
    (read options (left ++ pairSeparator :: right)).lastLabel =
      (read options right).lastLabel.or (read options left).lastLabel := by
  simp only [read, pairs_joined closed, List.getLast?_append]
  exact Option.map_or

/-- The choices that a text is read as, if nothing in it is still being typed. -/
def choices (options : Options) (raw : Text) : List Query :=
  (pairs options raw).map (pairQuery false)

theorem isChoice_of_mem_choices {query : Query} {raw : Text}
    (member : query ∈ choices options raw) : query.IsChoice := by
  obtain ⟨pair, inText, rfl⟩ := List.mem_map.1 member
  exact isChoice_pairQuery (wellFormed_of_mem_pairs inText)

theorem query_eq_allOf_choices (finished : options.autocomplete = false) (raw : Text) :
    (read options raw).query = .allOf (choices options raw) := by
  simp only [read, finished, pairQueries_false, choices]

theorem query_joined (finished : options.autocomplete = false) (closed : Text.Closed left) :
    (read options (left ++ pairSeparator :: right)).query =
      .allOf (choices options left ++ choices options right) := by
  rw [query_eq_allOf_choices finished, choices, pairs_joined closed, List.map_append]
  rfl

variable [PropertyTable]

theorem compiles_query_iff (finished : options.autocomplete = false) (schema : Schema)
    (raw : Text) :
    schema.Compiles (read options raw).query ↔
      ∀ choice ∈ choices options raw, schema.CompilesInside choice := by
  rw [query_eq_allOf_choices finished]
  exact Schema.compiles_allOf_choices_iff fun _ => isChoice_of_mem_choices

theorem compile_of_isEmpty (schema : Schema) {raw : Text}
    (none : (read options raw).isEmpty = true) :
    schema.compile (read options raw).query = .ok .always := by
  rw [Outcome.isEmpty, Option.isNone_iff_eq_none, read_lastLabel_eq_none_iff,
    ← read_query_eq_empty_iff] at none
  rw [none]
  rfl

/-- The joined text drops what its parts drop, and its query compiles exactly if the queries of both
parts do.  Then it matches the records that both parts match, and lists what the left part lists and
then what the right part lists.  A part without any pair matches everything and lists nothing. -/
theorem joined_conjoins {options : Options} (finished : options.autocomplete = false) {left : Text}
    (closed : Text.Closed left) (right : Text) (schema : Schema) :
    (read options (left ++ pairSeparator :: right)).skipped =
        (read options left).skipped ++ (read options right).skipped ∧
      (read options (left ++ pairSeparator :: right)).lastLabel =
        (read options right).lastLabel.or (read options left).lastLabel ∧
      (schema.Compiles (read options (left ++ pairSeparator :: right)).query ↔
        schema.Compiles (read options left).query ∧ schema.Compiles (read options right).query) ∧
      (∀ joint first second,
        schema.compile (read options (left ++ pairSeparator :: right)).query = .ok joint →
        schema.compile (read options left).query = .ok first →
        schema.compile (read options right).query = .ok second → joint.Joins first second) ∧
      ∀ part, (read options part).isEmpty = true → ∃ predicate,
        schema.compile (read options part).query = .ok predicate ∧
          ∀ node, predicate.evaluateNode node = some .empty := by
  have each : ∀ choice ∈ choices options left ++ choices options right, choice.IsChoice :=
    List.forall_mem_append.2
      ⟨fun _ => isChoice_of_mem_choices, fun _ => isChoice_of_mem_choices⟩
  refine ⟨skipped_joined closed, lastLabel_joined closed, ?_, ?_, ?_⟩
  · rw [query_joined finished closed, Schema.compiles_allOf_choices_iff each,
      compiles_query_iff finished, compiles_query_iff finished, List.forall_mem_append]
  · intro joint first second jointCompiled firstCompiled secondCompiled
    rw [query_joined finished closed] at jointCompiled
    rw [query_eq_allOf_choices finished] at firstCompiled secondCompiled
    exact Schema.joins_allOf_append each jointCompiled firstCompiled secondCompiled
  · intro part none
    exact ⟨.always, compile_of_isEmpty schema none, fun _ => rfl⟩

end Joined

end RawQuery

namespace Samples

open RawQuery

/-- A text with a separator in quotes and a fragment that is no pair. -/
def guestOrJoinedText : Text := "Tag:guest,\"a+b\"+anyone".toList

def bobText : Text := "Name:bob,\"c+Age:1".toList

theorem joined_conjoins_guest :
    (read {} (guestOrJoinedText ++ '+' :: bobText)).skipped =
        [{ fragment := "anyone".toList, reason := .missingColon }] ∧
      (read {} (guestOrJoinedText ++ '+' :: bobText)).lastLabel = some "Name".toList ∧
      ∃ joint, Person.schema.compile (read {} (guestOrJoinedText ++ '+' :: bobText)).query =
          .ok joint ∧
        joint.evaluateNode guest = some
          ((MatchResult.empty.record "tags".toList "guest".toList).merge
            (MatchResult.empty.record "name".toList "Bob".toList)) := by
  have left : (read {} guestOrJoinedText).query = .disjunction
      [.matchField "Tag".toList "guest".toList, .matchField "Tag".toList "\"a+b\"".toList] := rfl
  have right : (read {} bobText).query = .disjunction
      [.matchField "Name".toList "bob".toList,
        .matchField "Name".toList "\"c+Age:1".toList] := rfl
  have leftCompiled : Person.schema.compile (read {} guestOrJoinedText).query = .ok (.any [
      .within (.field "tags".toList) (.within .list
        (.leaf ⟨"tags".toList, [(.string, .sameText "guest".toList)]⟩)),
      .within (.field "tags".toList) (.within .list
        (.leaf ⟨"tags".toList, [(.string, .exactText "a+b".toList)]⟩))]) := by
    rw [left]
    rfl
  have rightCompiled : Person.schema.compile (read {} bobText).query = .ok (.any [
      .within (.field "name".toList)
        (.leaf ⟨"name".toList, [(.string, .sameText "bob".toList)]⟩),
      .within (.field "name".toList)
        (.leaf ⟨"name".toList, [(.string, .sameText "\"c+age:1".toList)]⟩)]) := by
    rw [right]
    rfl
  have finished : ({} : Options).autocomplete = false := rfl
  have closed : Text.Closed guestOrJoinedText := by decide
  obtain ⟨skipped, last, compiles, joins, _⟩ :=
    joined_conjoins finished closed bobText Person.schema
  obtain ⟨joint, compiled⟩ := compiles.2 ⟨⟨_, leftCompiled⟩, _, rightCompiled⟩
  have joined := joins joint _ _ compiled leftCompiled rightCompiled
  exact ⟨skipped, last, joint, compiled, joined.merges guest _ _ rfl rfl⟩

end Samples

end RecordSearch
