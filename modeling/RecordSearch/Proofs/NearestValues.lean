import Mathlib.Order.Compare
import RecordSearch.Number.Decimal
import RecordSearch.Proofs.Rounding

/-!
# Nearest values

The nearest value to a signed quotient, read off in finest units: an infinity stands where the
first magnitude out of reach would stand.  Nearest values keep the order of the quotients, finite
values are their own nearest ones, and a decimal is read as the nearest value to its quotient.
-/

namespace RecordSearch

variable {format : Format}

namespace Binary

variable {left right : Binary format} {leftUnits rightUnits : Int}

theorem signed_false (amount : Nat) : signed false amount = amount :=
  rfl

theorem signed_true (amount : Nat) : signed true amount = -(amount : Int) :=
  rfl

theorem units?_eq_none_iff : left.units? = none ↔ left = .nan := by
  cases left <;> simp [units?]

theorem compare_of_units (leftHas : left.units? = some leftUnits)
    (rightHas : right.units? = some rightUnits) :
    left.compare right = some (Ord.compare leftUnits rightUnits) := by
  rw [compare, leftHas, rightHas]
  rfl

theorem compare_eq_none_iff : left.compare right = none ↔ left = .nan ∨ right = .nan := by
  rw [← units?_eq_none_iff, ← units?_eq_none_iff, compare]
  cases left.units? <;> cases right.units? <;> simp

theorem compare_swap (left right : Binary format) :
    right.compare left = (left.compare right).map Ordering.swap := by
  cases leftHas : left.units? with
  | none =>
      rw [units?_eq_none_iff] at leftHas
      rw [compare_eq_none_iff.2 (.inl leftHas), compare_eq_none_iff.2 (.inr leftHas)]
      rfl
  | some leftUnits =>
      cases rightHas : right.units? with
      | none =>
          rw [units?_eq_none_iff] at rightHas
          rw [compare_eq_none_iff.2 (.inl rightHas), compare_eq_none_iff.2 (.inr rightHas)]
          rfl
      | some rightUnits =>
          rw [compare_of_units leftHas rightHas, compare_of_units rightHas leftHas]
          exact congrArg some Std.OrientedCmp.eq_swap

end Binary

namespace Format

variable {numerator otherNumerator : Int} {denominator otherDenominator : Nat}

/-- The signed number of units of the nearest value, with the limit where an infinity stands. -/
def roundedUnits (format : Format) (numerator : Int) (denominator : Nat) : Int :=
  Binary.signed (numerator < 0)
    (min (format.nearestUnits numerator.natAbs denominator) format.limit : Nat)

theorem roundedUnits_of_nonneg (nonneg : 0 ≤ numerator) :
    format.roundedUnits numerator denominator =
      (min (format.nearestUnits numerator.natAbs denominator) format.limit : Nat) := by
  rw [roundedUnits, decide_eq_false (Int.not_lt.2 nonneg)]
  rfl

theorem roundedUnits_of_neg (negative : numerator < 0) :
    format.roundedUnits numerator denominator =
      -(min (format.nearestUnits numerator.natAbs denominator) format.limit : Nat) := by
  rw [roundedUnits, decide_eq_true negative]
  rfl

theorem roundedUnits_mono (positive : 0 < denominator) (otherPositive : 0 < otherDenominator)
    (ordered : numerator * otherDenominator ≤ otherNumerator * denominator) :
    format.roundedUnits numerator denominator ≤
      format.roundedUnits otherNumerator otherDenominator := by
  have mono {small large : Int} {below above : Nat} (one : 0 < below) (two : 0 < above)
      (magnitudes : (small.natAbs : Int) * above ≤ (large.natAbs : Int) * below) :
      min (format.nearestUnits small.natAbs below) format.limit ≤
        min (format.nearestUnits large.natAbs above) format.limit :=
    min_le_min_right _ (nearestUnits_mono one two (by exact_mod_cast magnitudes))
  rcases lt_or_ge numerator 0 with negative | nonneg
  · rw [roundedUnits_of_neg negative]
    rcases lt_or_ge otherNumerator 0 with otherNegative | otherNonneg
    · rw [roundedUnits_of_neg otherNegative]
      refine Int.neg_le_neg (Int.ofNat_le.2 (mono otherPositive positive ?_))
      rw [Int.ofNat_natAbs_of_nonpos otherNegative.le, Int.ofNat_natAbs_of_nonpos negative.le]
      linarith
    · rw [roundedUnits_of_nonneg otherNonneg]
      omega
  · have otherNonneg : 0 ≤ otherNumerator := by
      have product := Int.mul_nonneg nonneg (Int.natCast_nonneg otherDenominator)
      exact nonneg_of_mul_nonneg_left (product.trans ordered) (by exact_mod_cast positive)
    rw [roundedUnits_of_nonneg nonneg, roundedUnits_of_nonneg otherNonneg]
    refine Int.ofNat_le.2 (mono positive otherPositive ?_)
    rwa [Int.natAbs_of_nonneg nonneg, Int.natAbs_of_nonneg otherNonneg]

theorem nearestUnits_eq_zero {amount : Nat}
    (small : 2 * (amount * 2 ^ format.depth) < denominator) :
    format.nearestUnits amount denominator = 0 := by
  have nearest : NearestInteger (amount * 2 ^ format.depth) (denominator * 2 ^ 0) 0 := by
    constructor <;> omega
  unfold nearestUnits
  dsimp only
  have least : format.exponentFor 0 ≤ 0 := exponentFor_le (Nat.two_pow_pos _)
  rw [Nat.div_eq_of_lt (by omega), Nat.le_zero.1 least, roundHalfEven_eq (by omega) nearest,
    Nat.zero_mul]

/-- What is not less than the first magnitude out of reach is out of reach. -/
theorem limit_le_nearestUnits {amount : Nat} (positive : 0 < denominator)
    (great : format.limit * denominator ≤ amount) :
    format.limit ≤ format.nearestUnits amount denominator := by
  have precise := format.precise
  have power : format.nearestUnits format.limit 1 = format.limit * 2 ^ format.depth := by
    rw [limit, ← Nat.pow_add]
    refine nearestUnits_of_dvd (format.precision + format.span + format.depth) Nat.one_pos ?_ ?_
      (Nat.dvd_refl _)
    · rw [Nat.mul_one, ← Nat.pow_add]
    · exact Nat.pow_lt_pow_right (by decide) (by omega)
  calc
    format.limit ≤ format.limit * 2 ^ format.depth :=
      Nat.le_mul_of_pos_right _ (Nat.two_pow_pos _)
    _ = format.nearestUnits format.limit 1 := power.symm
    _ ≤ format.nearestUnits amount denominator :=
      nearestUnits_mono Nat.one_pos positive (by rwa [Nat.mul_one])

theorem nearestUnits_zero (denominator : Nat) : format.nearestUnits 0 denominator = 0 := by
  unfold nearestUnits
  simp only [Nat.zero_mul, roundHalfEven_zero]

theorem roundedUnits_signed (negative : Bool) (amount denominator : Nat) :
    format.roundedUnits (Binary.signed negative amount) denominator =
      Binary.signed negative
        (min (format.nearestUnits amount denominator) format.limit : Nat) := by
  rcases Nat.eq_zero_or_pos amount with rfl | positive
  · cases negative <;> simp [roundedUnits, Binary.signed, nearestUnits_zero]
  · cases negative with
    | false => exact roundedUnits_of_nonneg (Int.natCast_nonneg amount)
    | true =>
        have below : Binary.signed true amount < 0 := by
          rw [Binary.signed_true]
          omega
        rw [roundedUnits_of_neg below, Binary.signed_true, Binary.signed_true, Int.natAbs_neg,
          Int.natAbs_natCast]

/-- Every value of the format is its own nearest one. -/
theorem roundedUnits_units (negative : Bool) (magnitude : Magnitude format) :
    format.roundedUnits (Binary.signed negative magnitude.units) (2 ^ format.depth) =
      Binary.signed negative magnitude.units := by
  rw [roundedUnits_signed, nearestUnits_units, Nat.min_eq_left magnitude.units_lt_limit.le]

end Format

namespace Binary

variable {negative : Bool} {numerator denominator otherNumerator otherDenominator : Nat}

theorem units?_ofQuotient :
    (ofQuotient negative numerator denominator : Binary format).units? =
      some (format.roundedUnits (signed negative numerator) denominator) := by
  rw [Format.roundedUnits_signed, ofQuotient]
  cases rounded : format.round numerator denominator with
  | none =>
      rw [Nat.min_eq_right (Format.round_eq_none_iff.1 rounded)]
      rfl
  | some magnitude =>
      rw [Format.round_eq_some_iff.1 rounded, Nat.min_eq_left magnitude.units_lt_limit.le]
      rfl

theorem units?_ofInt (integer : Int) :
    (ofInt integer : Binary format).units? = some (format.roundedUnits integer 1) := by
  rw [ofInt, units?_ofQuotient, Format.roundedUnits_signed]
  rfl

theorem ofQuotient_eq_finite_iff {magnitude : Magnitude format} :
    (ofQuotient negative numerator denominator : Binary format) = .finite negative magnitude ↔
      format.nearestUnits numerator denominator = magnitude.units := by
  rw [← Format.round_eq_some_iff, ofQuotient]
  cases format.round numerator denominator <;> simp

theorem ofQuotient_congr (positive : 0 < denominator) (otherPositive : 0 < otherDenominator)
    (same : numerator * otherDenominator = otherNumerator * denominator) :
    (ofQuotient negative numerator denominator : Binary format) =
      ofQuotient negative otherNumerator otherDenominator := by
  have near : format.nearestUnits numerator denominator =
      format.nearestUnits otherNumerator otherDenominator :=
    Format.nearestUnits_congr positive otherPositive same
  rw [ofQuotient]
  cases rounded : format.round numerator denominator with
  | none =>
      rw [Format.round_eq_none_iff, near, ← Format.round_eq_none_iff] at rounded
      rw [ofQuotient, rounded]
  | some magnitude =>
      rw [Format.round_eq_some_iff, near, ← Format.round_eq_some_iff] at rounded
      rw [ofQuotient, rounded]

end Binary

namespace Decimal

variable {decimal other : Decimal}

/-- The integer over `denominator` that is the value of a decimal. -/
def numerator (decimal : Decimal) : Nat :=
  decimal.coefficient * 10 ^ decimal.exponent.toNat

def denominator (decimal : Decimal) : Nat :=
  10 ^ (-decimal.exponent).toNat

theorem denominator_pos (decimal : Decimal) : 0 < decimal.denominator :=
  Nat.pow_pos (by decide)

def SameValue (decimal other : Decimal) : Prop :=
  decimal.numerator * other.denominator = other.numerator * decimal.denominator

theorem coefficient_lt (decimal : Decimal) : decimal.coefficient < 10 ^ decimal.width :=
  (Nat.length_toDigits_le_iff (by decide) Nat.length_toDigits_pos).1 (Nat.le_refl _)

theorem le_coefficient (nonzero : decimal.coefficient ≠ 0) :
    10 ^ (decimal.width - 1) ≤ decimal.coefficient := by
  by_contra less
  have positive : 0 < decimal.width - 1 := by
    by_contra single
    have zero : decimal.width - 1 = 0 := by omega
    rw [zero] at less
    omega
  have shorter := (Nat.length_toDigits_le_iff (b := 10) (by decide) positive).2 (Nat.not_le.1 less)
  have width : (Nat.toDigits 10 decimal.coefficient).length = decimal.width := rfl
  omega

/-- The first digit stands below the depth of the format. -/
theorem nearestUnits_eq_zero_of_lead
    (small : decimal.exponent + decimal.width < -(format.depth : Int)) :
    format.nearestUnits decimal.numerator decimal.denominator = 0 := by
  refine Format.nearestUnits_eq_zero ?_
  have power : decimal.width + decimal.exponent.toNat + (format.depth + 1) ≤
      (-decimal.exponent).toNat := by
    omega
  have ten : 10 ^ decimal.width * 10 ^ decimal.exponent.toNat * 2 ^ (format.depth + 1) ≤
      decimal.denominator := by
    calc
      10 ^ decimal.width * 10 ^ decimal.exponent.toNat * 2 ^ (format.depth + 1)
        ≤ 10 ^ decimal.width * 10 ^ decimal.exponent.toNat * 10 ^ (format.depth + 1) :=
          Nat.mul_le_mul_left _ (Nat.pow_le_pow_left (by decide) _)
      _ = 10 ^ (decimal.width + decimal.exponent.toNat + (format.depth + 1)) := by
          rw [← Nat.pow_add, ← Nat.pow_add]
      _ ≤ decimal.denominator := Nat.pow_le_pow_right (by decide) power
  refine Nat.lt_of_lt_of_le ?_ ten
  calc
    2 * (decimal.numerator * 2 ^ format.depth)
      = decimal.coefficient * (10 ^ decimal.exponent.toNat * 2 ^ (format.depth + 1)) := by
        rw [numerator, Nat.pow_succ]
        ring
    _ < 10 ^ decimal.width * (10 ^ decimal.exponent.toNat * 2 ^ (format.depth + 1)) :=
        Nat.mul_lt_mul_of_pos_right decimal.coefficient_lt (by positivity)
    _ = _ := (Nat.mul_assoc ..).symm

/-- The first digit stands beyond the span of the format. -/
theorem limit_le_nearestUnits_of_lead (nonzero : decimal.coefficient ≠ 0)
    (great : (format.precision + format.span : Nat) < decimal.exponent + decimal.width) :
    format.limit ≤ format.nearestUnits decimal.numerator decimal.denominator := by
  refine Format.limit_le_nearestUnits decimal.denominator_pos ?_
  have power : format.precision + format.span + (-decimal.exponent).toNat ≤
      decimal.width - 1 + decimal.exponent.toNat := by
    omega
  calc
    format.limit * decimal.denominator
      ≤ 10 ^ (format.precision + format.span) * 10 ^ (-decimal.exponent).toNat :=
        Nat.mul_le_mul_right _ (Nat.pow_le_pow_left (by decide) _)
    _ = 10 ^ (format.precision + format.span + (-decimal.exponent).toNat) := (Nat.pow_add ..).symm
    _ ≤ 10 ^ (decimal.width - 1 + decimal.exponent.toNat) := Nat.pow_le_pow_right (by decide) power
    _ = 10 ^ (decimal.width - 1) * 10 ^ decimal.exponent.toNat := Nat.pow_add ..
    _ ≤ decimal.numerator := Nat.mul_le_mul_right _ (le_coefficient nonzero)

/-- A decimal is read as the nearest value to its quotient, also where its first digit alone
settles the matter. -/
theorem toBinary_eq_ofQuotient (negative : Bool) (decimal : Decimal) :
    (decimal.toBinary negative : Binary format) =
      Binary.ofQuotient negative decimal.numerator decimal.denominator := by
  unfold toBinary
  dsimp only
  split
  case isTrue least =>
    refine (Binary.ofQuotient_eq_finite_iff.2 ?_).symm
    have zero : (Magnitude.zero : Magnitude format).units = 0 := Nat.zero_mul _
    rw [zero]
    rcases least with nothing | small
    · rw [numerator, nothing, Nat.zero_mul, Format.nearestUnits_zero]
    · exact nearestUnits_eq_zero_of_lead small
  case isFalse some =>
    rw [not_or] at some
    split
    case isTrue great =>
      have beyond : format.limit ≤ format.nearestUnits decimal.numerator decimal.denominator :=
        limit_le_nearestUnits_of_lead some.1 great
      rw [Binary.ofQuotient, Format.round_eq_none_iff.2 beyond]
    case isFalse =>
      unfold numerator denominator
      split
      case isTrue whole =>
        have none : (-decimal.exponent).toNat = 0 := by omega
        rw [none]
      case isFalse broken =>
        have none : decimal.exponent.toNat = 0 := by omega
        rw [none, Nat.pow_zero, Nat.mul_one]

theorem toBinary_ne_nan (negative : Bool) (decimal : Decimal) :
    (decimal.toBinary negative : Binary format) ≠ .nan := by
  rw [toBinary_eq_ofQuotient, Ne, ← Binary.units?_eq_none_iff, Binary.units?_ofQuotient]
  exact Option.some_ne_none _

theorem toBinary_congr {negative : Bool} (same : decimal.SameValue other) :
    (decimal.toBinary negative : Binary format) = other.toBinary negative := by
  rw [toBinary_eq_ofQuotient, toBinary_eq_ofQuotient]
  exact Binary.ofQuotient_congr decimal.denominator_pos other.denominator_pos same

end Decimal

end RecordSearch
