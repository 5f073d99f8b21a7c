import RecordSearch.Proofs.MeaninglessLiterals

/-!
# Values of another kind

A schema can be wrong about a record, and then a test for leaves of one kind meets a value of
another.  Whatever a literal without negation marks is compiled to, only the star accepts such a
value.  But a mark does not ask for the kind: it turns a refusal for the wrong kind into acceptance
like every other refusal, unless the literal is one that no mark turns around.
-/

namespace RecordSearch.Matcher

variable {kind : LeafKind} {core literal : Text} {matcher : Matcher} {value : Value}

/-- A test that can accept values of one kind only. -/
inductive IsFor : LeafKind → Matcher → Prop where
  | never {kind : LeafKind} : IsFor kind .never
  | sameText {lowered : Text} : IsFor .string (.sameText lowered)
  | exactText {text : Text} : IsFor .string (.exactText text)
  | pattern {expression : Regex} : IsFor .string (.pattern expression)
  | compared {comparison : Comparison} {bound : Number} :
      IsFor .number (.compared comparison bound)
  | truth {expected : Bool} : IsFor .bool (.truth expected)
  | named {table : List (Text × Int)} {lowered : Text} : IsFor (.choice table) (.named lowered)
  | ranked {table : List (Text × Int)} {comparison : Comparison} {rank : Int} :
      IsFor (.choice table) (.ranked comparison rank)

/-- A literal without negation marks is more than a test that accepts nothing: it has a meaning for
the kind, or is taken for a name. -/
def HasTest : LeafKind → Text → Prop
  | .choice table, core =>
      (Comparison.split core).2 ≠ [] ∧
        ((Comparison.split core).1 = .equal ∨ Means (.choice table) core)
  | kind, core => Means kind core

section Kinds

theorem IsFor.refuses (test : IsFor kind matcher) (foreign : kind.accepts value = false) :
    matcher.accepts value = false := by
  cases test with
  | never => rfl
  | sameText | exactText | pattern =>
      cases value with
      | string text => cases foreign
      | _ => rfl
  | compared =>
      cases value with
      | number amount => cases foreign
      | _ => rfl
  | truth =>
      cases value with
      | bool truth => cases foreign
      | _ => rfl
  | named | ranked =>
      cases value with
      | choice name rank => cases foreign
      | _ => rfl

theorem isFor_ofString [PropertyTable] (compiled : ofString core = some matcher) :
    IsFor .string matcher := by
  unfold ofString at compiled
  split at compiled
  · obtain ⟨expression, -, rfl⟩ := Option.map_eq_some_iff.1 compiled
    exact .pattern
  · split at compiled
    · cases compiled
      exact .exactText
    · split at compiled
      · obtain ⟨expression, -, rfl⟩ := Option.map_eq_some_iff.1 compiled
        exact .pattern
      · cases compiled
        exact .sameText

theorem isFor_ofBool (literal : Text) : IsFor .bool (ofBool literal) := by
  simp only [ofBool]
  split
  · exact .truth
  · split
    · exact .truth
    · exact .never

theorem isFor_ofNumber (literal : Text) : IsFor .number (ofNumber literal) := by
  rw [ofNumber_eq]
  cases Number.read (Comparison.split literal).2 with
  | none => exact .never
  | some bound => exact .compared

theorem isFor_ofChoice (table : List (Text × Int)) (literal : Text) :
    IsFor (.choice table) (ofChoice table literal) := by
  rw [ofChoice_eq]
  split
  · exact .never
  · split
    · exact .named
    · cases table.find? fun entry =>
          Text.lowerAscii entry.1 == Text.lowerAscii (Comparison.split literal).2 with
      | none => exact .never
      | some entry => exact .ranked

/-- Without marks, every literal but the star is a test for the kind that it is compiled for. -/
theorem isFor_of_compilePlain [PropertyTable] (several : core ≠ wildcard)
    (compiled : compilePlain kind core = some matcher) : IsFor kind matcher := by
  unfold compilePlain at compiled
  rw [if_neg several] at compiled
  cases kind with
  | string => exact isFor_ofString compiled
  | bool =>
      cases compiled
      exact isFor_ofBool core
  | number =>
      cases compiled
      exact isFor_ofNumber core
  | choice table =>
      cases compiled
      exact isFor_ofChoice table core

end Kinds

section Meanings

theorem ofChoice_ne_never_iff {table : List (Text × Int)} :
    ofChoice table core ≠ .never ↔ HasTest (.choice table) core := by
  rw [ofChoice_eq, HasTest]
  by_cases unnamed : (Comparison.split core).2 = []
  · simp [unnamed]
  · by_cases equal : (Comparison.split core).1 = .equal
    · simp [unnamed, equal]
    · rw [if_neg unnamed, if_neg equal, and_iff_right unnamed, or_iff_right equal]
      cases found : table.find? fun entry =>
          Text.lowerAscii entry.1 == Text.lowerAscii (Comparison.split core).2 with
      | none =>
          refine iff_of_false (not_not.2 rfl) fun means => ?_
          cases means with
          | name _ same _ => exact equal same
          | rank listed _ same =>
              exact List.find?_eq_none.1 found _ listed (beq_iff_eq.2 same)
      | some entry =>
          have same := List.find?_some found
          exact iff_of_true nofun
            (.rank (List.mem_of_find?_eq_some found) equal (beq_iff_eq.1 same))

theorem ne_never_iff_hasTest [PropertyTable] (several : core ≠ wildcard)
    (compiled : compilePlain kind core = some matcher) :
    matcher ≠ .never ↔ HasTest kind core := by
  cases kind with
  | string => exact iff_of_true (ne_never_of_compilePlain compiled) .text
  | bool =>
      rw [compilePlain, if_neg several] at compiled
      cases compiled
      refine ⟨not_imp_comm.1 ofBool_eq_never, fun means => ?_⟩
      cases means with
      | yes word => simp [ofBool, word]
      | no word => simp [ofBool, word]
  | number =>
      rw [compilePlain, if_neg several] at compiled
      cases compiled
      refine ⟨not_imp_comm.1 ofNumber_eq_never, fun means => ?_⟩
      cases means with
      | number read =>
          rw [ofNumber_eq, read]
          intro equal
          cases equal
  | choice table =>
      rw [compilePlain, if_neg several] at compiled
      cases compiled
      exact ofChoice_ne_never_iff

end Meanings

/-- A literal that is compiled for one kind of leaf accepts a value of another kind in two cases
only: it is the star behind an even number of negation marks, or something else that has a test for
the kind behind an odd number of them. -/
theorem foreign_accepted_iff [PropertyTable] (compiled : compile kind literal = some matcher)
    (foreign : kind.accepts value = false) :
    matcher.accepts value = true ↔
      (bare literal = wildcard ∧ Even (marks literal)) ∨
        (bare literal ≠ wildcard ∧ HasTest kind (bare literal) ∧ Odd (marks literal)) := by
  rw [compile_eq_map, Option.map_eq_some_iff] at compiled
  obtain ⟨plain, compiledPlain, rfl⟩ := compiled
  change (negateBy (marks literal) plain).accepts value = true ↔ _
  by_cases everything : bare literal = wildcard
  · unfold compilePlain at compiledPlain
    rw [if_pos everything] at compiledPlain
    cases compiledPlain
    have meaningful : anything ≠ .never := nofun
    rw [accepts_negateBy_iff meaningful]
    simp [everything, accepts]
  · have refused : plain.accepts value = false :=
      (isFor_of_compilePlain everything compiledPlain).refuses foreign
    rw [← ne_never_iff_hasTest everything compiledPlain, or_iff_right fun star => everything star.1,
      and_iff_right everything]
    by_cases meaningful : plain = .never
    · subst meaningful
      rw [negateBy_never]
      exact iff_of_false Bool.false_ne_true fun odd => odd.1 rfl
    · rw [accepts_negateBy_iff meaningful, refused, and_iff_right meaningful,
        ← Nat.not_even_iff_odd]
      exact iff_false_right Bool.false_ne_true

end RecordSearch.Matcher

namespace RecordSearch.Samples

open Matcher

/-- A number that is to be different from a number accepts a text. -/
theorem foreign_accepted_iff_five :
    ∃ matcher, compile .number " ! 5".toList = some matcher ∧
      LeafKind.number.accepts (.string "five".toList) = false ∧
      matcher.accepts (.string "five".toList) = true := by
  have compiled : compile .number " ! 5".toList =
      some (.negation (.compared .equal (.signed 5))) := rfl
  have five : Number.read (Comparison.split (bare " ! 5".toList)).2 = some (.signed 5) := rfl
  have hasTest : HasTest .number (bare " ! 5".toList) := Means.number five
  refine ⟨_, compiled, rfl, ?_⟩
  exact (foreign_accepted_iff compiled rfl).2 (.inr ⟨nofun, hasTest, odd_one⟩)

/-- A literal for numbers, which is not the star, accepts a text. -/
theorem text_passes_negated_number :
    "!5".toList ≠ wildcard ∧ LeafKind.number.accepts (.string "five".toList) = false ∧
      (compile .number "!5".toList).any (·.accepts (.string "five".toList)) = true := by
  decide

end RecordSearch.Samples
