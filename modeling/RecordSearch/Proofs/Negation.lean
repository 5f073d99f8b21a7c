import RecordSearch.Proofs.BooleanReading

/-!
# Negated queries

The negation of a query is an exclusion of it alone.  It holds where the query does not and lists
nothing.  Since a negation holds its query as a part, the empty query has none: it compiles as a
whole query only.
-/

namespace RecordSearch

namespace Predicate

/-- The predicate that holds where another does not. -/
def negation (predicate : Predicate) : Predicate :=
  .without .always (.any [predicate])

variable {predicate : Predicate} {node : Node} {result : MatchResult}

@[simp]
theorem holdsAt_negation_iff : predicate.negation.HoldsAt node ↔ ¬predicate.HoldsAt node := by
  simp [negation, always]

/-- A negation records nothing, since what its query finds stands behind an exclusion. -/
theorem eq_empty_of_evaluateNode_negation
    (evaluated : predicate.negation.evaluateNode node = some result) : result = .empty := by
  have nothing : always.evaluateNode node = some .empty := rfl
  rw [negation, evaluateNode_without, nothing] at evaluated
  cases excluded : (any [predicate]).evaluateNode node with
  | none =>
      rw [excluded] at evaluated
      cases evaluated
      rfl
  | some _ =>
      rw [excluded] at evaluated
      cases evaluated

end Predicate

namespace Schema

variable {schema : Schema} {query : Query} {predicate : Predicate}

variable [PropertyTable]

theorem compileNested_negate (compiled : schema.compileNested query = .ok predicate) :
    schema.compileNested (.negate query) = .ok predicate.negation := by
  refine compileNested_boolean_eq_ok_iff.2 ⟨[], [predicate], rfl, ?_, rfl⟩
  exact Run.mapM_cons_eq_ok_iff.2 ⟨predicate, [], compiled, rfl, rfl⟩

theorem compiles_negate_iff :
    schema.Compiles (.negate query) ↔ schema.Compiles query ∧ query ≠ .empty := by
  rw [← compilesInside_iff, ← compilesInside_negate_iff, compilesInside_iff]
  exact (and_iff_left nofun).symm

/-- Negating inverts every query that compiles except for the empty one, whose negation does not
compile.  The negation matches exactly where the query does not, and lists nothing there, and the
negated negation matches exactly where the query does. -/
theorem negate_inverts (schema : Schema) (query : Query) :
    (schema.Compiles (.negate query) ↔ schema.Compiles query ∧ query ≠ .empty) ∧
    ∀ predicate, schema.compile query = .ok predicate → query ≠ .empty →
      ∃ negation double,
        schema.compile (.negate query) = .ok negation ∧
        schema.compile (.negate (.negate query)) = .ok double ∧
        ∀ node,
          (negation.HoldsAt node ↔ ¬predicate.HoldsAt node) ∧
          (∀ result, negation.evaluateNode node = some result → result = .empty) ∧
          (double.HoldsAt node ↔ predicate.HoldsAt node) := by
  refine ⟨compiles_negate_iff, fun predicate compiled nonempty => ?_⟩
  rw [compile_eq_compileNested (Query.isEmpty_eq_false_iff.2 nonempty)] at compiled
  have negated := compileNested_negate compiled
  refine ⟨predicate.negation, predicate.negation.negation, ?_, ?_, fun node => ⟨?_, ?_, ?_⟩⟩
  · rw [compile_eq_compileNested rfl, negated]
  · rw [compile_eq_compileNested rfl, compileNested_negate negated]
  · exact Predicate.holdsAt_negation_iff
  · intro result evaluated
    exact Predicate.eq_empty_of_evaluateNode_negation evaluated
  · rw [Predicate.holdsAt_negation_iff, Predicate.holdsAt_negation_iff, not_not]

end Schema

namespace Samples

theorem negate_inverts_guest :
    guestQuery ≠ .empty ∧
      ∃ predicate negation double,
        Person.schema.compile guestQuery = .ok predicate ∧
        Person.schema.compile (.negate guestQuery) = .ok negation ∧
        Person.schema.compile (.negate (.negate guestQuery)) = .ok double ∧
        predicate.HoldsAt guest ∧ ¬negation.HoldsAt guest ∧ double.HoldsAt guest := by
  have nonempty : guestQuery ≠ .empty := nofun
  have compiled : Person.schema.compile guestQuery = .ok (.without
      (.all [.any [
        .within (.field "name".toList)
          (.leaf ⟨"name".toList, [(.string, .sameText "ann".toList)]⟩),
        .within (.field "tags".toList) (.within .list
          (.leaf ⟨"tags".toList, [(.string, .sameText "guest".toList)]⟩))]])
      (.any [.within (.field "tags".toList) (.within .list
        (.leaf ⟨"tags".toList, [(.string, .sameText "staff".toList)]⟩))])) := rfl
  obtain ⟨_, inverted⟩ := Schema.negate_inverts Person.schema guestQuery
  obtain ⟨negation, double, negated, doubled, inverts⟩ := inverted _ compiled nonempty
  obtain ⟨opposite, _, same⟩ := inverts guest
  refine ⟨nonempty, _, negation, double, compiled, negated, doubled, rfl, ?_, same.2 rfl⟩
  rw [opposite, not_not]
  rfl

/-- The empty query compiles and matches everything, but its negation does not compile. -/
theorem empty_not_negated :
    Person.schema.compile .empty = .ok .always ∧ Predicate.always.HoldsAt guest ∧
      Person.schema.compile (.negate .empty) = .error .nestedEmpty :=
  ⟨rfl, rfl, rfl⟩

end Samples

end RecordSearch
