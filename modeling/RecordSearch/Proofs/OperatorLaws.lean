import RecordSearch.Proofs.Numerals

/-!
# The operators on numbers

In front of one numeral the operators stand for the relations in which a value can be to a number.
A value that is a number is below it, equal to it or above it, and for exactly one of these, and the
two operators that include equality accept what their parts accept.  A value that is not a number is
in no relation to any, so each operator refuses it and is negated to a test that accepts it.
-/

namespace RecordSearch

variable {comparison : Comparison} {numeral mark : Text} {amount bound : Number} {order : Ordering}

namespace Comparison

theorem existsUnique_accepts (order : Ordering) :
    ∃! comparison, comparison ∈ [less, equal, greater] ∧ comparison.accepts order = true := by
  cases order with
  | lt => exact ⟨less, by decide, fun other => by cases other <;> decide⟩
  | eq => exact ⟨equal, by decide, fun other => by cases other <;> decide⟩
  | gt => exact ⟨greater, by decide, fun other => by cases other <;> decide⟩

theorem accepts_lessOrEqual (order : Ordering) :
    lessOrEqual.accepts order = (less.accepts order || equal.accepts order) := by
  cases order <;> rfl

theorem accepts_greaterOrEqual (order : Ordering) :
    greaterOrEqual.accepts order = (greater.accepts order || equal.accepts order) := by
  cases order <;> rfl

end Comparison

namespace Number

theorem ne_nan_of_read (stands : Number.read numeral = some bound) : bound ≠ .float .nan := by
  rintro rfl
  rw [Number.read] at stands
  split at stands
  next kept =>
    obtain rfl := Option.some.inj stands
    obtain ⟨integer, -, whole⟩ := Option.bind_eq_some_iff.1 kept
    exact Option.some_ne_none _ (integer?_ofInteger? whole).symm
  next =>
    split at stands
    · cases stands
    · cases stands
    next value known _ =>
      obtain rfl := float.inj (Option.some.inj stands)
      exact known rfl

end Number

namespace Matcher

open Comparison (IsOperand)

variable [PropertyTable]

theorem read_of_compile (operand : IsOperand numeral)
    (compiled : compile .number numeral = some (.compared comparison bound)) :
    numeral ≠ wildcard ∧ Number.read numeral = some bound := by
  have several : numeral ≠ wildcard := by
    rintro rfl
    cases compiled
  have alone : Comparison.equal.WrittenAs [] := Comparison.writtenAs_of_mem (by decide)
  have read := (compile_operated operand several alone).symm.trans compiled
  refine ⟨several, ?_⟩
  cases stands : Number.read numeral with
  | none =>
      rw [stands] at read
      cases read
  | some other =>
      rw [stands] at read
      cases read
      rfl

/-- For a number, exactly one of the strict operators and equality accepts it, and the other two
accept what one of their parts accepts; blanks around the operator make no difference.  A value that
is not a number is refused by all five and accepted by their negations. -/
theorem operators_part_numbers (operand : IsOperand numeral)
    (compiled : compile .number numeral = some (.compared comparison bound)) :
    ∃ test : Comparison → Matcher,
      (∀ comparison mark, comparison.WrittenAs mark →
        compile .number (mark ++ numeral) = some (test comparison) ∧
          compile .number (negationMark :: (mark ++ numeral)) = some (test comparison).negate) ∧
      (∀ amount, amount ≠ .float .nan →
        (∃! comparison, comparison ∈ [.less, .equal, .greater] ∧
          (test comparison).accepts (.number amount) = true) ∧
        (test .lessOrEqual).accepts (.number amount) =
          ((test .less).accepts (.number amount) || (test .equal).accepts (.number amount)) ∧
        (test .greaterOrEqual).accepts (.number amount) =
          ((test .greater).accepts (.number amount) || (test .equal).accepts (.number amount))) ∧
      ∀ comparison, (test comparison).accepts (.number (.float .nan)) = false ∧
        (test comparison).negate.accepts (.number (.float .nan)) = true := by
  obtain ⟨several, stands⟩ := read_of_compile operand compiled
  refine ⟨fun comparison => .compared comparison bound, fun comparison mark written => ?_,
    fun amount known => ?_, fun comparison => ?_⟩
  · have read := compile_operated operand several written
    rw [stands, Option.elim_some] at read
    exact ⟨read, by rw [compile_mark, read, Option.map_some]⟩
  · have numbers : ¬(amount = .float .nan ∨ bound = .float .nan) :=
      not_or.2 ⟨known, Number.ne_nan_of_read stands⟩
    rw [← Number.compare_eq_none_iff] at numbers
    obtain ⟨order, compared⟩ := Option.ne_none_iff_exists'.1 numbers
    simp only [accepts_compared compared]
    exact ⟨Comparison.existsUnique_accepts order, Comparison.accepts_lessOrEqual order,
      Comparison.accepts_greaterOrEqual order⟩
  · have unknown : Number.compare (.float .nan) bound = none :=
      Number.compare_eq_none_iff.2 (.inl rfl)
    have refused : (Matcher.compared comparison bound).accepts (.number (.float .nan)) = false := by
      rw [accepts, unknown]
      rfl
    exact ⟨refused, congrArg Bool.not refused⟩

end Matcher

namespace Samples

/-- A value above the numeral, found behind a tab and a blank, is not below it. -/
theorem operators_part_numbers_power :
    Comparison.IsOperand "1e19".toList ∧
      (∃ bound, Matcher.compile .number "1e19".toList = some (.compared .equal bound)) ∧
      Comparison.greater.WrittenAs "\t> ".toList ∧
      ∃ above below, Matcher.compile .number "\t> 1e19".toList = some above ∧
        Matcher.compile .number "<1e19".toList = some below ∧
        above.accepts (.number (.unsigned 18446744073709551615)) = true ∧
        below.accepts (.number (.unsigned 18446744073709551615)) = false := by
  have clear : Comparison.Clear "1e19".toList := by decide
  have alone : [] ∈ Comparison.equal.spellings := by decide
  have written : Comparison.greater.WrittenAs "\t> ".toList :=
    ⟨['>'], by decide, ['\t'], [' '], by decide, List.forall_mem_singleton.2 (by decide),
      List.forall_mem_singleton.2 (by decide)⟩
  have less : Comparison.less.WrittenAs ['<'] := Comparison.writtenAs_of_mem (by decide)
  have stands : Number.read "1e19".toList = some (.float (.ofInt 10000000000000000000)) := by
    decide +kernel
  have compiled := Matcher.compile_number alone clear stands
  obtain ⟨test, tests, parts, -⟩ := Matcher.operators_part_numbers clear.isOperand compiled
  have above := (tests _ _ written).1
  have read := Matcher.compile_operated clear.isOperand nofun written
  have accepted :
      (test .greater).accepts (.number (.unsigned 18446744073709551615)) = true := by
    rw [Option.some.inj (above.symm.trans read), stands]
    decide +kernel
  refine ⟨clear.isOperand, ⟨_, compiled⟩, written, _, _, above, (tests _ _ less).1, accepted, ?_⟩
  refine Bool.eq_false_iff.2 fun below => ?_
  have known : Number.unsigned 18446744073709551615 ≠ .float .nan := by decide
  have same : Comparison.greater = Comparison.less :=
    (parts _ known).1.unique ⟨by decide, accepted⟩ ⟨by decide, below⟩
  cases same

end Samples

end RecordSearch
