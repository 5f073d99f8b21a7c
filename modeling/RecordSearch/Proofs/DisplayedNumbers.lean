import RecordSearch.Proofs.Numerals
import RecordSearch.Proofs.ShortestDecimals

/-!
# Displayed numbers

A number is displayed as an integer numeral or with digits behind a point.  Read again, this text
gives a number that compares as equal to the displayed one, though it may be kept in another way, so
that a displayed number is a literal that finds it.
-/

namespace RecordSearch

namespace Numeral

variable {digits : Text} {count : Nat}

theorem onlyDigits_toDigits (amount : Nat) : OnlyDigits (Nat.toDigits 10 amount) :=
  fun _ member => Nat.isDigit_of_mem_toDigits (by decide) (by decide) member

theorem onlyDigits_zeros (count : Nat) : OnlyDigits (List.replicate count '0') := by
  intro character member
  rw [List.eq_of_mem_replicate member]
  rfl

theorem OnlyDigits.append {more : Text} (front : OnlyDigits digits) (back : OnlyDigits more) :
    OnlyDigits (digits ++ more) :=
  fun character member => (List.mem_append.1 member).elim (front character) (back character)

theorem digitsValue_toDigits (amount : Nat) : digitsValue (Nat.toDigits 10 amount) = amount :=
  Nat.ofDigitChars_toDigits (by decide) (by decide)

theorem digitsValue_append_zeros :
    digitsValue (digits ++ List.replicate count '0') = digitsValue digits * 10 ^ count := by
  rw [digitsValue, Nat.ofDigitChars_append, Nat.ofDigitChars_replicate_zero, Nat.mul_comm,
    digitsValue]

theorem digitsValue_zeros_append :
    digitsValue (List.replicate count '0' ++ digits) = digitsValue digits := by
  rw [digitsValue, Nat.ofDigitChars_append, Nat.ofDigitChars_replicate_zero, Nat.mul_zero,
    digitsValue]

/-- A text ends in the zeros that are taken off its end. -/
theorem exists_append_zeros (text : Text) :
    ∃ count, text = (text.reverse.dropWhile (· == '0')).reverse ++ List.replicate count '0' := by
  have zeros : text.reverse.takeWhile (· == '0') =
      List.replicate (text.reverse.takeWhile (· == '0')).length '0' :=
    List.eq_replicate_of_mem fun _ member =>
      beq_iff_eq.1 (List.mem_takeWhile_imp (p := (· == '0')) member)
  refine ⟨(text.reverse.takeWhile (· == '0')).length, ?_⟩
  rw [← List.reverse_replicate, ← zeros, ← List.reverse_append, List.takeWhile_append_dropWhile,
    List.reverse_reverse]

end Numeral

namespace Decimal

open Numeral

variable {decimal : Decimal} {whole fraction : Text}

/-- The decimal for which digits before and behind a point stand. -/
def ofDigits (whole fraction : Text) : Decimal :=
  ⟨digitsValue (whole ++ fraction), -(fraction.length : Int)⟩

/-- Digits before and behind a point that stand for a decimal. -/
structure Written (decimal : Decimal) (whole fraction : Text) : Prop where
  nonempty : whole ≠ []
  wholeDigits : OnlyDigits whole
  fractionDigits : OnlyDigits fraction
  same : decimal.SameValue (ofDigits whole fraction)

theorem sameValue_ofDigits_iff :
    decimal.SameValue (ofDigits whole fraction) ↔
      decimal.numerator * 10 ^ fraction.length =
        digitsValue (whole ++ fraction) * decimal.denominator := by
  have none : (-(fraction.length : Int)).toNat = 0 := by omega
  have all : (- -(fraction.length : Int)).toNat = fraction.length := by omega
  have numerator : (ofDigits whole fraction).numerator = digitsValue (whole ++ fraction) := by
    rw [Decimal.numerator, ofDigits, none, Nat.pow_zero, Nat.mul_one]
  have denominator : (ofDigits whole fraction).denominator = 10 ^ fraction.length := by
    rw [Decimal.denominator, ofDigits, all]
  rw [SameValue, numerator, denominator]

theorem written_places (decimal : Decimal) :
    decimal.Written decimal.places.1 decimal.places.2 := by
  obtain ⟨coefficient, exponent⟩ := decimal
  have digits : OnlyDigits (Nat.toDigits 10 coefficient) := onlyDigits_toDigits coefficient
  cases exponent with
  | ofNat zeros =>
      refine ⟨?_, digits.append (onlyDigits_zeros zeros), by simp [OnlyDigits, places],
        sameValue_ofDigits_iff.2 ?_⟩
      · exact List.append_ne_nil_of_left_ne_nil Nat.toDigits_ne_nil _
      · simp [places, numerator, denominator, digitsValue_append_zeros, digitsValue_toDigits]
  | negSucc count =>
      let padded := List.replicate (count + 1 + 1 - (Nat.toDigits 10 coefficient).length) '0' ++
        Nat.toDigits 10 coefficient
      have decimalPadded : OnlyDigits padded := (onlyDigits_zeros _).append digits
      have long : count + 1 < padded.length := by
        simp only [padded, List.length_append, List.length_replicate]
        omega
      have behind : (padded.drop (padded.length - (count + 1))).length = count + 1 := by
        rw [List.length_drop]
        omega
      have nonempty : padded.take (padded.length - (count + 1)) ≠ [] := by
        rw [← List.length_pos_iff, List.length_take]
        omega
      refine ⟨nonempty, fun _ member => decimalPadded _ (List.mem_of_mem_take member),
        fun _ member => decimalPadded _ (List.mem_of_mem_drop member),
        sameValue_ofDigits_iff.2 ?_⟩
      change _ * 10 ^ (padded.drop (padded.length - (count + 1))).length =
        digitsValue (padded.take (padded.length - (count + 1)) ++
          padded.drop (padded.length - (count + 1))) * _
      rw [behind, List.take_append_drop, digitsValue_zeros_append, digitsValue_toDigits]
      exact congrArg (· * 10 ^ (count + 1)) (Nat.mul_one coefficient)

/-- Zeros at the end of a fraction do not count. -/
theorem Written.strip (written : decimal.Written whole fraction) :
    decimal.Written whole (fraction.reverse.dropWhile (· == '0')).reverse := by
  obtain ⟨count, parts⟩ := exists_append_zeros fraction
  have digits := written.fractionDigits
  have same := sameValue_ofDigits_iff.1 written.same
  generalize (fraction.reverse.dropWhile (· == '0')).reverse = stripped at parts
  subst parts
  have cancelled : decimal.numerator * 10 ^ stripped.length * 10 ^ count =
      digitsValue (whole ++ stripped) * decimal.denominator * 10 ^ count := by
    rw [Nat.mul_assoc, ← Nat.pow_add, Nat.mul_right_comm, ← digitsValue_append_zeros,
      List.append_assoc, ← same, List.length_append, List.length_replicate]
  exact ⟨written.nonempty, written.wholeDigits,
    fun character member => digits character (List.mem_append_left _ member),
    sameValue_ofDigits_iff.2 (Nat.eq_of_mul_eq_mul_right (Nat.pow_pos (Nat.succ_pos 9)) cancelled)⟩

/-- A decimal is displayed without a point if nothing stands behind it. -/
theorem exists_written_render (decimal : Decimal) :
    ∃ whole fraction, decimal.Written whole fraction ∧
      decimal.render = if fraction = [] then whole else whole ++ '.' :: fraction := by
  refine ⟨_, _, (written_places decimal).strip, ?_⟩
  rw [render]
  simp only [List.append_assoc, List.singleton_append]

end Decimal

namespace Number

open Numeral

variable {amount : Number} {decimal : Decimal} {sign whole fraction : Text} {negative : Bool}

/-- Digits that stand for a decimal are read as a number that is as near to it as a floating-point
value can be. -/
theorem exists_read_of_written (signed : Sign sign negative)
    (written : decimal.Written whole fraction) :
    ∃ bound,
      Number.read (sign ++ if fraction = [] then whole else whole ++ '.' :: fraction) = some bound ∧
        bound.toBinary.units? = (decimal.toBinary negative : Binary64).units? := by
  obtain ⟨first, others, rfl⟩ := List.exists_cons_of_ne_nil written.nonempty
  rw [Decimal.toBinary_congr written.same]
  split
  case isTrue none =>
    subst none
    obtain ⟨bound, stands, units, -⟩ := exists_read_of_denotes
      (.intro signed written.nonempty written.wholeDigits)
    refine ⟨bound, stands, ?_⟩
    rw [units, Decimal.toBinary_eq_ofQuotient, Binary.units?_ofQuotient]
    simp [Decimal.numerator, Decimal.denominator, Decimal.ofDigits, digitsValue]
  case isFalse =>
    refine ⟨.float _, read_of_readBinary ?_ ?_ (Decimal.toBinary_ne_nan negative _), rfl⟩
    · rw [List.cons_append,
        readInteger_eq_none signed (written.wholeDigits first List.mem_cons_self)]
      · rfl
      · intro decimal
        have point := decimal '.' (by simp)
        cases point
    · rw [List.cons_append, readBinary_append signed (written.wholeDigits first List.mem_cons_self),
        ← List.cons_append,
        readDecimal_point written.nonempty written.wholeDigits written.fractionDigits]
      rfl

theorem sign_signText (negative : Bool) : Sign (Binary.signText negative) negative := by
  cases negative
  · exact .none
  · exact .minus

theorem denotes_integerText (integer : Int) : Denotes (integerText integer) integer := by
  have value : Binary.signed (integer < 0) (digitsValue (Nat.toDigits 10 integer.natAbs)) =
      integer := by
    rw [digitsValue_toDigits, Binary.signed]
    simp only [decide_eq_true_eq]
    split <;> omega
  have denotes : Denotes (integerText integer) (Binary.signed (integer < 0) _) :=
    .intro (sign_signText _) Nat.toDigits_ne_nil (onlyDigits_toDigits integer.natAbs)
  rwa [← digitsValue, value] at denotes

theorem render_of_integer {integer : Int} (whole : amount.integer? = some integer) :
    amount.render = integerText integer := by
  cases amount with
  | signed kept => exact congrArg integerText (Option.some.inj whole)
  | unsigned kept => exact congrArg integerText (Option.some.inj whole)
  | float value => cases whole

/-- A displayed integer is read as this integer, in whichever way it was kept. -/
theorem exists_read_integer {integer : Int} (whole : amount.integer? = some integer) :
    ∃ bound, Number.read amount.render = some bound ∧ amount.compare bound = some .eq := by
  rw [render_of_integer whole]
  obtain ⟨bound, stands, -, exact | ⟨-, outside⟩⟩ :=
    exists_read_of_denotes (denotes_integerText integer)
  · refine ⟨bound, stands, ?_⟩
    rw [compare_of_integers whole exact, Int.compare_eq_eq.2 rfl]
  · have within := integer_bounds whole
    omega

/-- A finite value is displayed as the digits of a decimal that is read as this value. -/
theorem exists_written_value (negative : Bool) (magnitude : Magnitude Format.binary64) :
    ∃ (decimal : Decimal) (whole fraction : Text), decimal.Written whole fraction ∧
      (decimal.toBinary negative : Binary64) = .finite negative magnitude ∧
      (Binary.finite negative magnitude).render =
        Binary.signText negative ++ if fraction = [] then whole else whole ++ '.' :: fraction := by
  rw [Binary.render]
  split
  case isTrue zero =>
    have least : magnitude = Magnitude.zero := by
      refine Magnitude.eq_of_units_eq ?_
      rw [Magnitude.units, zero, Nat.zero_mul]
      rfl
    refine ⟨⟨0, 0⟩, ['0'], [], ⟨by decide, onlyDigits_toDigits 0, onlyDigits_zeros 0, ?_⟩, ?_, rfl⟩
    · exact Decimal.sameValue_ofDigits_iff.2 (by decide)
    · rw [least]
      rfl
  case isFalse nonzero =>
    obtain ⟨whole, fraction, written, shown⟩ :=
      Decimal.exists_written_render magnitude.shortest
    refine ⟨magnitude.shortest, whole, fraction, written, ?_, by rw [shown]⟩
    exact Magnitude.toBinary_shortest negative nonzero (by decide)

theorem exists_read_float {value : Binary64} (known : value ≠ .nan) :
    ∃ bound, Number.read value.render = some bound ∧
      bound.toBinary.units? = value.units? := by
  cases value with
  | nan => exact absurd rfl known
  | infinity negative =>
      refine ⟨.float (.infinity negative), ?_, rfl⟩
      cases negative <;> rfl
  | finite negative magnitude =>
      obtain ⟨decimal, whole, fraction, written, near, shown⟩ :=
        exists_written_value negative magnitude
      rw [shown, ← near]
      exact exists_read_of_written (sign_signText negative) written

/-- A displayed number is read as a number that compares as equal to it. -/
theorem exists_read_render (known : amount ≠ .float .nan) :
    ∃ bound, Number.read amount.render = some bound ∧ amount.compare bound = some .eq := by
  cases amount with
  | signed integer => exact exists_read_integer rfl
  | unsigned integer => exact exists_read_integer rfl
  | float value =>
      have finite : value ≠ .nan := fun unknown => known (congrArg _ unknown)
      obtain ⟨units, has⟩ := Option.ne_none_iff_exists'.1 (mt Binary.units?_eq_none_iff.1 finite)
      obtain ⟨bound, stands, near⟩ := exists_read_float finite
      refine ⟨bound, stands, ?_⟩
      rw [compare_of_not_isInteger rfl, ← Int.compare_eq_eq.2 (rfl : units = units)]
      exact Binary.compare_of_units has (near.trans has)

theorem clear_of_written (written : decimal.Written whole fraction) :
    Comparison.Clear (if fraction = [] then whole else whole ++ '.' :: fraction) := by
  have front := Comparison.clear_of_onlyDigits written.wholeDigits
  split
  · exact front
  · have point : Comparison.Clear ['.'] := by decide
    exact front.append (point.append (Comparison.clear_of_onlyDigits written.fractionDigits))

/-- A displayed number has no blank, and no mark with a meaning in a literal. -/
theorem clear_render (amount : Number) : Comparison.Clear amount.render := by
  cases amount with
  | signed integer => exact Comparison.clear_of_denotes (denotes_integerText _)
  | unsigned integer => exact Comparison.clear_of_denotes (denotes_integerText _)
  | float value =>
      have sign (negative : Bool) : Comparison.Clear (Binary.signText negative) :=
        Comparison.clear_of_sign (sign_signText negative)
      have word : Comparison.Clear "inf".toList ∧ Comparison.Clear "NaN".toList := by decide
      cases value with
      | nan => exact word.2
      | infinity negative => exact (sign negative).append word.1
      | finite negative magnitude =>
          obtain ⟨decimal, whole, fraction, written, -, shown⟩ :=
            exists_written_value negative magnitude
          change Comparison.Clear (Binary.finite negative magnitude).render
          rw [shown]
          exact (sign negative).append (clear_of_written written)

end Number

namespace Matcher

variable {comparison : Comparison} {mark : Text} {amount : Number}

/-- The text under which a number is reported is a literal that finds it, alone and behind every
operator that includes equality, and behind no other one. -/
theorem rendered_number_finds_itself [PropertyTable] (known : amount ≠ .float .nan)
    (written : mark ∈ comparison.spellings) :
    ∃ matcher, compile .number (mark ++ (Value.number amount).render) = some matcher ∧
      (matcher.accepts (.number amount) = true ↔ comparison ≠ .less ∧ comparison ≠ .greater) := by
  obtain ⟨bound, stands, equal⟩ := Number.exists_read_render known
  refine ⟨.compared comparison bound,
    compile_number written (Number.clear_render amount) stands, ?_⟩
  rw [accepts_compared equal]
  cases comparison <;> decide

end Matcher

namespace Samples

/-- The shortest digits of a power of two denote a greater integer, which is kept as an unsigned one
and finds the power all the same. -/
theorem rendered_number_finds_itself_turn :
    Number.float (.ofInt 9223372036854775808) ≠ .float .nan ∧
      ['>', '='] ∈ Comparison.greaterOrEqual.spellings ∧
      (Value.number (.float (.ofInt 9223372036854775808))).render = "9223372036854776000".toList ∧
      ∃ matcher, Matcher.compile .number ">=9223372036854776000".toList = some matcher ∧
        matcher.accepts (.number (.float (.ofInt 9223372036854775808))) = true := by
  have known : Number.float (.ofInt 9223372036854775808) ≠ .float .nan := by decide +kernel
  have written : ['>', '='] ∈ Comparison.greaterOrEqual.spellings := by decide
  have shown : (Value.number (.float (.ofInt 9223372036854775808))).render =
      "9223372036854776000".toList := by
    decide +kernel
  obtain ⟨matcher, compiled, law⟩ := Matcher.rendered_number_finds_itself known written
  rw [shown] at compiled
  exact ⟨known, written, shown, matcher, compiled, law.2 (by decide)⟩

end Samples

end RecordSearch
