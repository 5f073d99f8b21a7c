import Mathlib.Algebra.Ring.Parity
import RecordSearch.Proofs.CompletedLiterals
import RecordSearch.Samples.Deployments
import RecordSearch.Samples.Properties

/-!
# Runs of negation marks

The marks at the start of a literal are taken off one after the other, and each of them turns the
test of the rest around.  So behind a run of marks a test stays as it is if their number is even,
and is turned around if it is odd.  A test that accepts nothing is left alone by every mark, and no
mark decides whether a literal compiles.
-/

namespace RecordSearch.Matcher

variable {kind : LeafKind} {literal run : Text} {character : Char} {matcher : Matcher} {count : Nat}

/-- A number of negation marks with blanks before, between and behind them. -/
inductive MarkRun : Nat → Text → Prop where
  | nil : MarkRun 0 []
  | blank {count : Nat} {run : Text} {character : Char} :
      Text.isBlank character = true →
      MarkRun count run →
      MarkRun count (character :: run)
  | mark {count : Nat} {run : Text} :
      MarkRun count run →
      MarkRun (count + 1) (negationMark :: run)

section Steps

theorem takeNegations_mark (literal : Text) :
    takeNegations (negationMark :: literal) =
      ((takeNegations literal).1 + 1, (takeNegations literal).2) :=
  rfl

theorem takeNegations_blank (blank : Text.isBlank character = true) (literal : Text) :
    takeNegations (character :: literal) = takeNegations literal := by
  have notMark : character ≠ negationMark := by
    rintro rfl
    revert blank
    decide
  rw [takeNegations, if_neg notMark, if_pos blank]

theorem compile_mark [PropertyTable] (kind : LeafKind) (literal : Text) :
    compile kind (negationMark :: literal) = (compile kind literal).map negate := by
  rw [compile_eq_map, compile_eq_map, bare, takeNegations_mark, Option.map_map]
  rfl

theorem compile_blank [PropertyTable] (blank : Text.isBlank character = true) (kind : LeafKind)
    (literal : Text) :
    compile kind (character :: literal) = compile kind literal := by
  rw [compile_eq_map, compile_eq_map, bare, bare, takeNegations_blank blank]

/-- What is left behind the marks ends with the blanks behind the literal, if anything is left. -/
theorem takeNegations_append_blanks {back : Text}
    (blank : ∀ character ∈ back, Text.isBlank character = true) (literal : Text) :
    (takeNegations (literal ++ back)).1 = (takeNegations literal).1 ∧
      Text.Padded (takeNegations literal).2 (takeNegations (literal ++ back)).2 := by
  induction literal with
  | nil =>
      have nothing : takeNegations back = (0, []) := by
        induction back with
        | nil => rfl
        | cons first rest induction =>
            obtain ⟨here, behind⟩ := List.forall_mem_cons.1 blank
            rw [takeNegations_blank here, induction behind]
      rw [List.nil_append, nothing]
      exact ⟨rfl, Text.padded_self []⟩
  | cons first rest induction =>
      rw [List.cons_append, takeNegations, takeNegations]
      split
      · exact ⟨congrArg (· + 1) induction.1, induction.2⟩
      · split
        · exact induction
        · exact ⟨rfl, [], back, rfl, List.forall_mem_nil _, blank⟩

theorem bare_eq_trim (literal : Text) : bare literal = Text.trim (takeNegations literal).2 := by
  have started : Text.trimStart (takeNegations literal).2 = (takeNegations literal).2 := by
    have visible := (takeNegations_rest literal).2
    generalize (takeNegations literal).2 = rest at visible
    cases rest with
    | nil => rfl
    | cons first rest => exact List.dropWhile_cons_of_neg (Bool.eq_false_iff.1 (visible nofun))
  rw [bare, Text.trim, started]

theorem compile_padded [PropertyTable] {text written : Text} (padded : Text.Padded text written)
    (kind : LeafKind) :
    compile kind written = compile kind text := by
  obtain ⟨front, back, rfl, frontBlank, backBlank⟩ := padded
  obtain ⟨sameCount, sameRest⟩ := takeNegations_append_blanks backBlank text
  have behind : compile kind (text ++ back) = compile kind text := by
    rw [compile_eq_map, compile_eq_map, sameCount, bare_eq_trim, bare_eq_trim, sameRest.trim_eq]
  rw [List.append_assoc]
  induction front with
  | nil => exact behind
  | cons first front induction =>
      obtain ⟨here, others⟩ := List.forall_mem_cons.1 frontBlank
      rw [List.cons_append, compile_blank here, induction others]

end Steps

section Runs

/-- A run of marks negates the test of the literal behind it as often as there are marks. -/
theorem MarkRun.compile_append [PropertyTable] (marked : MarkRun count run) (kind : LeafKind)
    (literal : Text) :
    compile kind (run ++ literal) = (compile kind literal).map (negateBy count) := by
  induction marked with
  | nil => exact Option.map_id'.symm
  | blank blank marked induction => rw [List.cons_append, compile_blank blank, induction]
  | mark marked induction =>
      rw [List.cons_append, compile_mark, induction, Option.map_map]
      rfl

theorem accepts_negateBy_of_even {value : Value} (meaningful : matcher ≠ .never)
    (even : Even count) : (negateBy count matcher).accepts value = matcher.accepts value := by
  rw [Bool.eq_iff_iff, accepts_negateBy_iff meaningful]
  exact ⟨fun parity => parity.1 even, fun accepted => iff_of_true even accepted⟩

theorem accepts_negateBy_of_odd {value : Value} (meaningful : matcher ≠ .never)
    (odd : Odd count) : (negateBy count matcher).accepts value = !matcher.accepts value := by
  have uneven : ¬Even count := Nat.not_even_iff_odd.2 odd
  rw [Bool.eq_iff_iff, accepts_negateBy_iff meaningful, Bool.not_eq_true', ← Bool.not_eq_true]
  exact ⟨fun parity accepted => uneven (parity.2 accepted),
    fun refused => iff_of_false uneven refused⟩

/-- Behind a run of marks a literal compiles as it does without them, and what its test accepts
depends on whether the number of marks is even or odd, unless the test accepts nothing. -/
theorem marks_negate_by_parity [PropertyTable] (marked : MarkRun count run) (kind : LeafKind)
    (literal : Text) :
    (compile kind (run ++ literal)).isSome = (compile kind literal).isSome ∧
      ∀ matcher, compile kind literal = some matcher →
        ∃ negated, compile kind (run ++ literal) = some negated ∧
          (matcher = .never → ∀ value, negated.accepts value = false) ∧
          (matcher ≠ .never → ∀ value,
            (Even count → negated.accepts value = matcher.accepts value) ∧
            (Odd count → negated.accepts value = !matcher.accepts value)) := by
  have behind := marked.compile_append kind literal
  refine ⟨by rw [behind, Option.isSome_map], fun matcher compiled => ?_⟩
  rw [compiled, Option.map_some] at behind
  refine ⟨negateBy count matcher, behind, ?_, fun meaningful value => ?_⟩
  · rintro rfl value
    rw [negateBy_never]
    rfl
  · exact ⟨accepts_negateBy_of_even meaningful, accepts_negateBy_of_odd meaningful⟩

end Runs

end RecordSearch.Matcher

namespace RecordSearch.Samples

open Matcher

/-- Three marks with blanks of two kinds among them turn a comparison of severities around. -/
theorem marks_negate_by_parity_severity :
    MarkRun 3 "! !\u3000! ".toList ∧
      ∃ negated, compile (.choice (Alternatives.table Severity)) "! !\u3000! >low".toList =
          some negated ∧
        negated.accepts (.choice "CRITICAL".toList 3) = false ∧
        negated.accepts (.choice "Low".toList 1) = true := by
  have marked : MarkRun 3 "! !\u3000! ".toList :=
    .mark (.blank (by decide) (.mark (.blank (by decide) (.mark (.blank (by decide) .nil)))))
  have compiled : compile (.choice (Alternatives.table Severity)) ">low".toList =
      some (.ranked .greater 1) :=
    rfl
  obtain ⟨negated, behind, -, turned⟩ :=
    (marks_negate_by_parity marked (.choice (Alternatives.table Severity)) ">low".toList).2 _
      compiled
  have opposite (value : Value) := (turned nofun value).2 (by decide)
  exact ⟨marked, negated, behind, by rw [opposite]; decide, by rw [opposite]; decide⟩

end RecordSearch.Samples
