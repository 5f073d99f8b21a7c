import Mathlib.Data.List.Nodup
import RecordSearch.Proofs.LoweredTexts
import RecordSearch.Proofs.Numerals
import RecordSearch.Samples.Deployments

/-!
# Names of choices

A literal without an operator names the choices that are spelled like it, with any letter in either
case.  Behind an operator it names an entry of the table, and compares with the rank of this entry;
but there only the case of ASCII letters is ignored.
-/

namespace RecordSearch

namespace Comparison

variable {text : Text}

/-- A text begins with an operator exactly if it begins with the first character of one. -/
theorem bare_iff :
    (∀ comparison : Comparison, ¬comparison.symbol <+: text) ↔
      ∀ mark ∈ ['<', '>', '='], text.head? ≠ some mark := by
  constructor
  · intro bare mark member first
    obtain ⟨rest, rfl⟩ := List.head?_eq_some_iff.1 first
    simp only [List.mem_cons, List.not_mem_nil, or_false] at member
    rcases member with rfl | rfl | rfl
    · exact bare .less ⟨rest, rfl⟩
    · exact bare .greater ⟨rest, rfl⟩
    · exact bare .equal ⟨rest, rfl⟩
  · intro plain comparison begins
    obtain ⟨rest, rfl⟩ := begins
    cases comparison <;> exact plain _ (by decide) rfl

end Comparison

namespace Matcher

open Comparison (IsOperand)

variable {table : List (Text × Int)} {name spelling mark : Text} {rank : Int}
  {comparison : Comparison}

theorem IsName.isOperand (isName : IsName name) : IsOperand name where
  trimmed := isName.trimmed
  unnegated := isName.unnegated
  bare := isName.bare

/-- A text of the same lowercase as a name can stand for a name, too. -/
theorem IsName.of_lower_eq (isName : IsName name)
    (spelled : Text.lower spelling = Text.lower name) : IsName spelling := by
  have same := Text.sameEnds_of_lower_eq spelled
  refine ⟨same.trim_eq_self isName.trimmed, ?_, ?_, ?_⟩
  · exact mt (same.head?_eq_iff (by decide)).1 isName.unnegated
  · rintro rfl
    exact isName.several (Text.eq_of_lower_eq_sign (by decide) spelled.symm)
  · rw [Comparison.bare_iff]
    intro mark member
    have signs : ['<', '>', '='].all Text.isSign = true := by decide
    have sign := List.all_eq_true.1 signs mark member
    exact mt (same.head?_eq_iff sign).1 (Comparison.bare_iff.1 isName.bare mark member)

section Tables

/-- In a table whose names differ in more than case a name has one entry. -/
theorem entry_eq_of_lower_eq (apart : (table.map fun entry => Text.lower entry.1).Nodup)
    (member : (name, rank) ∈ table) {entry : Text × Int} (listed : entry ∈ table)
    (same : Text.lower entry.1 = Text.lower name) : entry = (name, rank) :=
  List.inj_on_of_nodup_map apart listed member same

/-- Behind an operator, a spelling of a name finds the entry of the name exactly if the two differ
in ASCII letters alone. -/
theorem find?_spelling (apart : (table.map fun entry => Text.lower entry.1).Nodup)
    (member : (name, rank) ∈ table) (spelled : Text.lower spelling = Text.lower name) :
    (table.find? fun entry => Text.lowerAscii entry.1 == Text.lowerAscii spelling) =
      if Text.lowerAscii spelling = Text.lowerAscii name then some (name, rank) else none := by
  have entryOf {entry : Text × Int} (listed : entry ∈ table)
      (same : (Text.lowerAscii entry.1 == Text.lowerAscii spelling) = true) :
      entry = (name, rank) :=
    entry_eq_of_lower_eq apart member listed
      ((Text.lower_eq_of_lowerAscii_eq (eq_of_beq same)).trans spelled)
  cases found : table.find? fun entry => Text.lowerAscii entry.1 == Text.lowerAscii spelling with
  | none =>
      have unlike := List.find?_eq_none.1 found _ member
      rw [if_neg]
      exact fun same => unlike (beq_iff_eq.2 same.symm)
  | some entry =>
      have same := List.find?_some found
      obtain rfl := entryOf (List.mem_of_find?_eq_some found) same
      rw [if_pos (eq_of_beq same).symm]

/-- A spelling of a name finds the values of this name, unless they have a final sigma, and behind
an operator it compares with the rank of the name, as long as it differs from it in ASCII letters
alone.  Otherwise it compares with nothing. -/
theorem spelling_finds_entry [PropertyTable]
    (apart : (table.map fun entry => Text.lower entry.1).Nodup)
    (isName : IsName name) (nonempty : name ≠ []) (member : (name, rank) ∈ table)
    (spelled : Text.lower spelling = Text.lower name) (written : comparison.WrittenAs mark) :
    ∃ matcher, compile (.choice table) (mark ++ spelling) = some matcher ∧
      (comparison = .equal →
        (∀ other otherRank, (other, otherRank) ∈ table →
          (matcher.accepts (.choice other otherRank) = true ↔
            Text.lowerEach other = Text.lower name) ∧
          (¬other.HasFinalSigma →
            (matcher.accepts (.choice other otherRank) = true ↔
              (other, otherRank) = (name, rank)))) ∧
        (name.HasFinalSigma → matcher.accepts (.choice name rank) = false)) ∧
      (comparison ≠ .equal → ∀ other otherRank,
        matcher.accepts (.choice other otherRank) = true ↔
          Text.lowerAscii spelling = Text.lowerAscii name ∧ comparison.Relates otherRank rank) := by
  have spellingIsName := isName.of_lower_eq spelled
  have spellingNonempty : spelling ≠ [] := by
    rintro rfl
    exact nonempty (Text.lowerAfter_eq_nil_iff.1 spelled.symm)
  refine ⟨_, compile_named spellingIsName.isOperand spellingIsName.several spellingNonempty written
    table, ?_, ?_⟩
  · rintro rfl
    rw [if_pos rfl, spelled]
    have equal (other : Text) (otherRank : Int) :
        (named (Text.lower name)).accepts (.choice other otherRank) = true ↔
          Text.lowerEach other = Text.lower name :=
      beq_iff_eq
    refine ⟨fun other otherRank listed => ⟨equal other otherRank, fun plain => ?_⟩, fun final => ?_⟩
    · rw [equal, ← Text.lower_eq_lowerEach_iff.2 plain]
      exact ⟨entry_eq_of_lower_eq apart member listed,
        congrArg fun entry : Text × Int => Text.lower entry.1⟩
    · rw [← Bool.not_eq_true, equal]
      exact fun same => Text.lower_eq_lowerEach_iff.1 same.symm final
  · intro ordered other otherRank
    rw [if_neg ordered, find?_spelling apart member spelled]
    split
    case isTrue same =>
      rw [← Comparison.accepts_compare_iff]
      exact (and_iff_right same).symm
    case isFalse different => exact iff_of_false nofun fun both => different both.1

end Tables

end Matcher

namespace Samples

open Matcher

/-- The table of the severities is asked for what comes before the last one, spelled in small
letters. -/
theorem spelling_finds_entry_critical :
    ((Alternatives.table Severity).map fun entry => Text.lower entry.1).Nodup ∧
      IsName "CRITICAL".toList ∧ "CRITICAL".toList ≠ [] ∧
      ("CRITICAL".toList, 3) ∈ Alternatives.table Severity ∧
      Text.lower "critical".toList = Text.lower "CRITICAL".toList ∧
      Comparison.less.WrittenAs ['<'] ∧
      ∃ matcher, compile (.choice (Alternatives.table Severity)) "<critical".toList = some matcher ∧
        matcher.accepts (.choice "Medium".toList 2) = true := by
  have apart : ((Alternatives.table Severity).map fun entry => Text.lower entry.1).Nodup := by
    decide +kernel
  have isName : IsName "CRITICAL".toList :=
    ⟨by decide, by decide, by decide, fun comparison => by cases comparison <;> decide⟩
  have member : ("CRITICAL".toList, 3) ∈ Alternatives.table Severity := by decide
  have spelled : Text.lower "critical".toList = Text.lower "CRITICAL".toList := by decide +kernel
  have written : Comparison.less.WrittenAs ['<'] := Comparison.writtenAs_of_mem (by decide)
  obtain ⟨matcher, compiled, -, ranks⟩ :=
    spelling_finds_entry apart isName nofun member spelled written
  exact ⟨apart, isName, nofun, member, spelled, written, matcher, compiled,
    (ranks nofun _ 2).2 ⟨by decide, by decide⟩⟩

/-- Two ranks, the first one with a name in a capital letter beyond ASCII. -/
def accentedTable : List (Text × Int) :=
  [("É".toList, 1), ("Z".toList, 2)]

/-- The name is found in small letters, but nothing is above it when it is so spelled. -/
theorem accented_name_not_ranked :
    (accentedTable.map fun entry => Text.lower entry.1).Nodup ∧ IsName "É".toList ∧
      Text.lower "é".toList = Text.lower "É".toList ∧
      (compile (.choice accentedTable) "é".toList).any (·.accepts (.choice "É".toList 1)) = true ∧
      Comparison.greater.Relates 2 1 ∧
      (compile (.choice accentedTable) ">é".toList).any (·.accepts (.choice "Z".toList 2)) =
        false := by
  have isName : IsName "É".toList :=
    ⟨by decide, by decide, by decide, fun comparison => by cases comparison <;> decide⟩
  refine ⟨?_, isName, ?_, ?_, ?_, ?_⟩ <;> decide +kernel

end Samples

end RecordSearch
