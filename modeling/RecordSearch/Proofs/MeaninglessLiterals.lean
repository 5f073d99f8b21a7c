import RecordSearch.Proofs.Operators

/-!
# Literals without a meaning

A literal may stand for nothing that a leaf of the kind can hold.  For truth values and numbers, and
behind an operator for choices too, its test accepts nothing, and no negation mark changes that.
But a name that is not in the table of the kind becomes a test like every other name.  So an odd
number of marks turns it into a test that accepts every choice of the table.
-/

namespace RecordSearch.Matcher

variable {kind : LeafKind} {core run written : Text} {count : Nat}

/-- A literal without negation marks stands for something that leaves of the kind can hold. -/
inductive Means : LeafKind → Text → Prop where
  | text {core : Text} : Means .string core
  | yes {core : Text} : Text.lowerAscii core = "true".toList → Means .bool core
  | no {core : Text} : Text.lowerAscii core = "false".toList → Means .bool core
  | number {core : Text} {amount : Number} :
      Number.read (Comparison.split core).2 = some amount →
      Means .number core
  | name {table : List (Text × Int)} {core : Text} {entry : Text × Int} :
      entry ∈ table →
      (Comparison.split core).1 = .equal →
      Text.lowerEach entry.1 = Text.lower (Comparison.split core).2 →
      Means (.choice table) core
  | rank {table : List (Text × Int)} {core : Text} {entry : Text × Int} :
      entry ∈ table →
      (Comparison.split core).1 ≠ .equal →
      Text.lowerAscii entry.1 = Text.lowerAscii (Comparison.split core).2 →
      Means (.choice table) core

/-- A literal without negation marks asks for choices of one name. -/
def AsksForName : LeafKind → Text → Prop
  | .choice _, core => (Comparison.split core).1 = .equal ∧ (Comparison.split core).2 ≠ []
  | _, _ => False

theorem ofBool_eq_never (nothing : ¬Means .bool core) : ofBool core = .never := by
  simp only [ofBool]
  rw [if_neg fun word => nothing (.yes word), if_neg fun word => nothing (.no word)]

theorem ofNumber_eq_never (nothing : ¬Means .number core) : ofNumber core = .never := by
  have unread : Number.read (Comparison.split core).2 = none :=
    Option.eq_none_iff_forall_ne_some.2 fun amount stands => nothing (.number stands)
  rw [ofNumber_eq, unread]
  rfl

/-- Behind an operator a name is looked up when the literal is compiled, but not without one. -/
theorem ofChoice_of_not_means {table : List (Text × Int)} (nothing : ¬Means (.choice table) core) :
    (AsksForName (.choice table) core →
        ofChoice table core = .named (Text.lower (Comparison.split core).2)) ∧
      (¬AsksForName (.choice table) core → ofChoice table core = .never) := by
  rw [ofChoice_eq]
  constructor
  · intro asks
    rw [if_neg asks.2, if_pos asks.1]
  · intro asksNot
    by_cases empty : (Comparison.split core).2 = []
    · rw [if_pos empty]
    · have ordered : (Comparison.split core).1 ≠ .equal := fun equal => asksNot ⟨equal, empty⟩
      have unlisted : (table.find? fun entry =>
          Text.lowerAscii entry.1 == Text.lowerAscii (Comparison.split core).2) = none :=
        List.find?_eq_none.2 fun entry listed same =>
          nothing (.rank listed ordered (eq_of_beq same))
      rw [if_neg empty, if_neg ordered, unlisted]
      rfl

variable [PropertyTable]

/-- Without a meaning a literal is a test that accepts nothing, or a test on names. -/
theorem compilePlain_of_not_means (several : core ≠ wildcard) (nothing : ¬Means kind core) :
    ∃ matcher, compilePlain kind core = some matcher ∧
      (¬AsksForName kind core → matcher = .never) ∧
      (AsksForName kind core → matcher = .named (Text.lower (Comparison.split core).2)) := by
  unfold compilePlain
  rw [if_neg several]
  cases kind with
  | string => exact absurd .text nothing
  | bool => exact ⟨_, rfl, fun _ => ofBool_eq_never nothing, False.elim⟩
  | number => exact ⟨_, rfl, fun _ => ofNumber_eq_never nothing, False.elim⟩
  | choice table =>
      obtain ⟨named, never⟩ := ofChoice_of_not_means nothing
      exact ⟨_, rfl, never, named⟩

/-- Behind any number of marks, a literal without a meaning for the kind accepts nothing unless it
asks for a name.  The name is then not in the table, and the literal accepts the choices of the
table exactly if the number of its marks is odd. -/
theorem meaningless_accepts_iff (marked : MarkRun count run) (padded : Text.Padded core written)
    (trimmed : Text.trim core = core) (unnegated : core.head? ≠ some negationMark)
    (several : core ≠ wildcard) (nothing : ¬Means kind core) :
    ∃ matcher, compile kind (run ++ written) = some matcher ∧
      (¬AsksForName kind core → ∀ value, matcher.accepts value = false) ∧
      (AsksForName kind core →
        (∀ name rank, matcher.accepts (.choice name rank) = true ↔
          (Even count ↔ Text.lowerEach name = Text.lower (Comparison.split core).2)) ∧
        ∀ table name rank, kind = .choice table → (name, rank) ∈ table →
          (matcher.accepts (.choice name rank) = true ↔ Odd count)) := by
  obtain ⟨matcher, compiled, never, named⟩ := compilePlain_of_not_means several nothing
  have behind : compile kind (run ++ written) = some (negateBy count matcher) := by
    rw [marked.compile_append, compile_padded padded, compile_eq_compilePlain trimmed unnegated,
      compiled, Option.map_some]
  refine ⟨_, behind, fun asksNot value => ?_, fun asks => ?_⟩
  · rw [never asksNot, negateBy_never]
    rfl
  · obtain rfl := named asks
    have meaningful : Matcher.named (Text.lower (Comparison.split core).2) ≠ .never := nofun
    have accepts (name : Text) (rank : Int) :
        (negateBy count (.named (Text.lower (Comparison.split core).2))).accepts
            (.choice name rank) = true ↔
          (Even count ↔ Text.lowerEach name = Text.lower (Comparison.split core).2) := by
      rw [accepts_negateBy_iff meaningful]
      exact iff_congr Iff.rfl beq_iff_eq
    refine ⟨accepts, ?_⟩
    rintro table name rank rfl listed
    have unlike : Text.lowerEach name ≠ Text.lower (Comparison.split core).2 := fun same =>
      nothing (.name listed asks.1 same)
    rw [accepts, ← Nat.not_even_iff_odd]
    exact ⟨fun parity even => unlike (parity.1 even), fun odd => iff_of_false odd unlike⟩

end RecordSearch.Matcher

namespace RecordSearch.Samples

open Matcher

theorem split_unknown : Comparison.split "unknown".toList = (.equal, "unknown".toList) := by
  decide

theorem asksForName_unknown :
    AsksForName (.choice (Alternatives.table Severity)) "unknown".toList := by
  rw [AsksForName, split_unknown]
  exact ⟨rfl, nofun⟩

theorem not_means_unknown :
    ¬Means (.choice (Alternatives.table Severity)) "unknown".toList := by
  have unlisted : (Alternatives.table Severity).all (fun entry =>
      Text.lowerEach entry.1 != Text.lower "unknown".toList) = true := by
    decide +kernel
  intro means
  cases means with
  | name listed equal same =>
      rw [split_unknown] at same
      exact bne_iff_ne.1 (List.all_eq_true.1 unlisted _ listed) same
  | rank listed ordered same =>
      rw [split_unknown] at ordered
      exact ordered rfl

/-- Behind a mark a name of no severity accepts a severity. -/
theorem meaningless_accepts_iff_unknown :
    MarkRun 1 "! ".toList ∧ Text.Padded "unknown".toList "unknown ".toList ∧
      Text.trim "unknown".toList = "unknown".toList ∧
      "unknown".toList.head? ≠ some negationMark ∧ "unknown".toList ≠ wildcard ∧
      ¬Means (.choice (Alternatives.table Severity)) "unknown".toList ∧
      ∃ matcher, compile (.choice (Alternatives.table Severity)) "! unknown ".toList =
          some matcher ∧
        matcher.accepts (.choice "CRITICAL".toList 3) = true := by
  have marked : MarkRun 1 "! ".toList := .mark (.blank (by decide) .nil)
  have padded : Text.Padded "unknown".toList "unknown ".toList :=
    ⟨[], [' '], by decide, List.forall_mem_nil _, List.forall_mem_singleton.2 (by decide)⟩
  have trimmed : Text.trim "unknown".toList = "unknown".toList := by decide
  have listed : ("CRITICAL".toList, 3) ∈ Alternatives.table Severity := by decide
  obtain ⟨matcher, compiled, -, named⟩ :=
    meaningless_accepts_iff marked padded trimmed nofun nofun not_means_unknown
  have accepts := (named asksForName_unknown).2 _ _ _ rfl listed
  exact ⟨marked, padded, trimmed, nofun, nofun, not_means_unknown, matcher, compiled,
    accepts.2 odd_one⟩

/-- A literal that no severity is meant by accepts one of them. -/
theorem unknown_name_accepts_negated :
    ¬Means (.choice (Alternatives.table Severity)) "unknown".toList ∧
      (compile (.choice (Alternatives.table Severity)) "!unknown".toList).any
        (·.accepts (.choice "CRITICAL".toList 3)) = true :=
  ⟨not_means_unknown, by decide +kernel⟩

end RecordSearch.Samples
