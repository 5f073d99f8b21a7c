import Mathlib.Tactic.Linarith
import Mathlib.Tactic.Ring
import RecordSearch.Number.Shortest

/-!
# Rounding to the nearest magnitude

A quotient is taken to the nearest magnitude in finest units.  Rounding depends on the quotient
alone, never inverts an order, leaves every magnitude where it is, and takes each quotient in the
interval of a magnitude to this magnitude.
-/

namespace RecordSearch

variable {numerator denominator otherNumerator otherDenominator : Nat}

/-- An integer is a nearest one to a quotient, and an even one where another is as near. -/
structure NearestInteger (numerator denominator integer : Nat) : Prop where
  above : 2 * (integer * denominator) ≤ 2 * numerator + denominator
  below : 2 * numerator ≤ 2 * (integer * denominator) + denominator
  even_above : 2 * (integer * denominator) = 2 * numerator + denominator → integer % 2 = 0
  even_below : 2 * numerator = 2 * (integer * denominator) + denominator → integer % 2 = 0

theorem nearestInteger_roundHalfEven (positive : 0 < denominator) :
    NearestInteger numerator denominator (roundHalfEven numerator denominator) := by
  have parts := Nat.div_add_mod' numerator denominator
  have remains := Nat.mod_lt numerator positive
  have next : (numerator / denominator + 1) * denominator =
      numerator / denominator * denominator + denominator :=
    Nat.succ_mul ..
  unfold roundHalfEven
  dsimp only
  split
  · constructor <;> omega
  · split
    · constructor <;> omega
    · split
      · constructor <;> omega
      · constructor <;> omega

theorem NearestInteger.mono {integer other : Nat}
    (nearest : NearestInteger numerator denominator integer)
    (otherNearest : NearestInteger otherNumerator otherDenominator other)
    (positive : 0 < denominator) (otherPositive : 0 < otherDenominator)
    (ordered : numerator * otherDenominator ≤ otherNumerator * denominator) :
    integer ≤ other := by
  by_contra greater
  have apart : other + 1 ≤ integer := by omega
  -- Only a common tie between two neighbours is left, and of these one is odd.
  have above := Nat.mul_le_mul_right otherDenominator nearest.above
  have below := Nat.mul_le_mul_right denominator otherNearest.below
  have step := Nat.mul_le_mul_right (denominator * otherDenominator) apart
  have tieAbove : 2 * (integer * denominator) * otherDenominator =
      (2 * numerator + denominator) * otherDenominator := by
    nlinarith
  have tieBelow : 2 * otherNumerator * denominator =
      (2 * (other * otherDenominator) + otherDenominator) * denominator := by
    nlinarith
  have even := nearest.even_above (Nat.eq_of_mul_eq_mul_right otherPositive tieAbove)
  have otherEven := otherNearest.even_below (Nat.eq_of_mul_eq_mul_right positive tieBelow)
  have same : (other + 1) * (denominator * otherDenominator) =
      integer * (denominator * otherDenominator) := by
    nlinarith
  have neighbours := Nat.eq_of_mul_eq_mul_right (Nat.mul_pos positive otherPositive) same
  omega

theorem roundHalfEven_eq {integer : Nat} (positive : 0 < denominator)
    (nearest : NearestInteger numerator denominator integer) :
    roundHalfEven numerator denominator = integer := by
  have rounded : NearestInteger numerator denominator (roundHalfEven numerator denominator) :=
    nearestInteger_roundHalfEven positive
  exact Nat.le_antisymm (rounded.mono nearest positive positive (Nat.le_refl _))
    (nearest.mono rounded positive positive (Nat.le_refl _))

theorem roundHalfEven_zero (denominator : Nat) : roundHalfEven 0 denominator = 0 := by
  simp [roundHalfEven]

theorem div_le_div_of_mul_le_mul (otherPositive : 0 < otherDenominator) (positive : 0 < denominator)
    (ordered : numerator * otherDenominator ≤ otherNumerator * denominator) :
    numerator / denominator ≤ otherNumerator / otherDenominator := by
  rw [Nat.le_div_iff_mul_le otherPositive]
  refine Nat.le_of_mul_le_mul_right ?_ positive
  calc
    numerator / denominator * otherDenominator * denominator
      = numerator / denominator * denominator * otherDenominator := Nat.mul_right_comm ..
    _ ≤ numerator * otherDenominator := Nat.mul_le_mul_right _ (Nat.div_mul_le_self ..)
    _ ≤ otherNumerator * denominator := ordered

namespace Format

variable {format : Format} {whole other units exponent : Nat}

theorem exponentFor_mono (ordered : whole ≤ other) :
    format.exponentFor whole ≤ format.exponentFor other := by
  unfold exponentFor
  by_cases zero : whole = 0
  · subst zero
    simp only [Nat.log2_zero]
    omega
  · have logarithms : whole.log2 ≤ other.log2 :=
      (Nat.le_log2 (by omega)).2 (Nat.le_trans (Nat.log2_self_le zero) ordered)
    omega

/-- A whole number of units that has no more bits than an exponent allows. -/
theorem exponentFor_le (short : whole < 2 ^ (format.precision + exponent)) :
    format.exponentFor whole ≤ exponent := by
  have logarithm : whole ≠ 0 → whole.log2 < format.precision + exponent :=
    fun nonzero => (Nat.log2_lt nonzero).2 short
  have precise := format.precise
  unfold exponentFor
  by_cases zero : whole = 0
  · subst zero
    simp only [Nat.log2_zero]
    omega
  · have := logarithm zero
    omega

/-- A whole number of units with as many bits as an exponent asks for. -/
theorem le_exponentFor (long : 2 ^ (format.precision - 1 + exponent) ≤ whole) :
    exponent ≤ format.exponentFor whole := by
  have precise := format.precise
  have nonzero : whole ≠ 0 := by
    have := Nat.two_pow_pos (format.precision - 1 + exponent)
    omega
  have logarithm := (Nat.le_log2 nonzero).2 long
  unfold exponentFor
  omega

/-- The number of finest units that is nearest to a quotient among those that the precision can
hold, whatever their exponent. -/
def nearestUnits (format : Format) (numerator denominator : Nat) : Nat :=
  let units := numerator * 2 ^ format.depth
  let exponent := format.exponentFor (units / denominator)
  roundHalfEven units (denominator * 2 ^ exponent) * 2 ^ exponent

/-- The first number of units that is out of reach. -/
def limit (format : Format) : Nat :=
  2 ^ (format.precision + format.span)

theorem units_of_round {magnitude : Magnitude format}
    (rounded : format.round numerator denominator = some magnitude) :
    magnitude.units = format.nearestUnits numerator denominator := by
  have precise := format.precise
  unfold round at rounded
  unfold nearestUnits Magnitude.units
  dsimp only at rounded ⊢
  split at rounded
  case isTrue carry =>
    split at rounded
    case isTrue =>
      obtain rfl := Option.some.inj rounded
      rw [carry]
      dsimp only
      rw [← Nat.pow_add, ← Nat.pow_add]
      congr 1
      omega
    case isFalse => cases rounded
  case isFalse =>
    split at rounded
    case isTrue =>
      obtain rfl := Option.some.inj rounded
      rfl
    case isFalse => cases rounded

theorem limit_le_of_round_eq_none (beyond : format.round numerator denominator = none) :
    format.limit ≤ format.nearestUnits numerator denominator := by
  have precise := format.precise
  unfold round at beyond
  unfold nearestUnits limit
  dsimp only at beyond ⊢
  split at beyond
  case isTrue carry =>
    split at beyond
    case isTrue => cases beyond
    case isFalse far =>
      rw [carry, ← Nat.pow_add]
      exact Nat.pow_le_pow_right (by decide) (by omega)
  case isFalse =>
    split at beyond
    case isTrue => cases beyond
    case isFalse far =>
      generalize wholeUnits : numerator * 2 ^ format.depth / denominator = whole at far
      have long := format.le_div_exponentFor whole (by omega)
      have rounded := le_roundHalfEven (numerator * 2 ^ format.depth)
        (denominator * 2 ^ format.exponentFor whole)
      rw [← Nat.div_div_eq_div_mul, wholeUnits] at rounded
      calc
        2 ^ (format.precision + format.span)
          ≤ 2 ^ (format.precision - 1) * 2 ^ format.exponentFor whole := by
            rw [← Nat.pow_add]
            exact Nat.pow_le_pow_right (by decide) (by omega)
        _ ≤ _ := Nat.mul_le_mul_right _ (Nat.le_trans long rounded)

end Format

namespace Magnitude

variable {format : Format}

theorem units_lt_limit (magnitude : Magnitude format) : magnitude.units < format.limit := by
  unfold units Format.limit
  rw [Nat.pow_add]
  exact Nat.mul_lt_mul_of_lt_of_le magnitude.fits
    (Nat.pow_le_pow_right (by decide) magnitude.reaches) (Nat.two_pow_pos _)

theorem exponent_eq (magnitude : Magnitude format) :
    magnitude.exponent = format.exponentFor magnitude.units := by
  have short : magnitude.units < 2 ^ (format.precision + magnitude.exponent) := by
    rw [units, Nat.pow_add]
    exact Nat.mul_lt_mul_of_pos_right magnitude.fits (Nat.two_pow_pos _)
  refine Nat.le_antisymm ?_ (Format.exponentFor_le short)
  rcases magnitude.canonical with finest | long
  · omega
  · refine Format.le_exponentFor ?_
    rw [units, Nat.pow_add]
    exact Nat.mul_le_mul_right _ long

/-- A number of units is written in one way only. -/
theorem eq_of_units_eq {magnitude other : Magnitude format} (same : magnitude.units = other.units) :
    magnitude = other := by
  have exponents : magnitude.exponent = other.exponent := by
    rw [exponent_eq, exponent_eq, same]
  have significands : magnitude.significand = other.significand := by
    rw [units, units, exponents] at same
    exact Nat.eq_of_mul_eq_mul_right (Nat.two_pow_pos _) same
  cases magnitude
  cases other
  cases exponents
  cases significands
  rfl

end Magnitude

namespace Format

variable {format : Format} {whole : Nat}

theorem round_eq_none_iff :
    format.round numerator denominator = none ↔
      format.limit ≤ format.nearestUnits numerator denominator := by
  refine ⟨limit_le_of_round_eq_none, fun beyond => ?_⟩
  cases rounded : format.round numerator denominator with
  | none => rfl
  | some magnitude =>
      have within := magnitude.units_lt_limit
      rw [units_of_round rounded] at within
      omega

theorem round_eq_some_iff {magnitude : Magnitude format} :
    format.round numerator denominator = some magnitude ↔
      format.nearestUnits numerator denominator = magnitude.units := by
  refine ⟨fun rounded => (units_of_round rounded).symm, fun near => ?_⟩
  cases rounded : format.round numerator denominator with
  | none =>
      have beyond := limit_le_of_round_eq_none rounded
      have within := magnitude.units_lt_limit
      omega
  | some found =>
      have same : found.units = magnitude.units := (units_of_round rounded).trans near
      rw [Magnitude.eq_of_units_eq same]

/-- The nearest significand at the exponent that its size asks for. -/
theorem nearestUnits_eq {exponent significand : Nat} (positive : 0 < denominator)
    (nearest :
      NearestInteger (numerator * 2 ^ format.depth) (denominator * 2 ^ exponent) significand)
    (short : numerator * 2 ^ format.depth < 2 ^ format.precision * (denominator * 2 ^ exponent))
    (long : exponent = 0 ∨
      2 ^ (format.precision - 1) * (denominator * 2 ^ exponent) ≤ numerator * 2 ^ format.depth) :
    format.nearestUnits numerator denominator = significand * 2 ^ exponent := by
  have regroup (power : Nat) :
      2 ^ power * (denominator * 2 ^ exponent) = 2 ^ (power + exponent) * denominator := by
    rw [Nat.pow_add]
    ring
  rw [regroup] at short long
  have found : format.exponentFor (numerator * 2 ^ format.depth / denominator) = exponent := by
    refine Nat.le_antisymm (exponentFor_le ((Nat.div_lt_iff_lt_mul positive).2 short)) ?_
    rcases long with finest | long
    · omega
    · exact le_exponentFor ((Nat.le_div_iff_mul_le positive).2 long)
  unfold nearestUnits
  dsimp only
  rw [found, roundHalfEven_eq (Nat.mul_pos positive (Nat.two_pow_pos _)) nearest]

/-- A whole number of units with few enough bits above the power of two that divides it is its own
nearest one. -/
theorem nearestUnits_of_dvd (exponent : Nat) (positive : 0 < denominator)
    (exact : numerator * 2 ^ format.depth = whole * denominator)
    (short : whole < 2 ^ (format.precision + exponent)) (divides : 2 ^ exponent ∣ whole) :
    format.nearestUnits numerator denominator = whole := by
  have least := Nat.pow_dvd_pow 2 (exponentFor_le short)
  obtain ⟨significand, held⟩ := Nat.dvd_trans least divides
  unfold nearestUnits
  dsimp only
  rw [exact, Nat.mul_div_cancel _ positive]
  generalize format.exponentFor whole = found at held
  rw [Nat.mul_comm] at held
  have nearest : NearestInteger (whole * denominator) (denominator * 2 ^ found) significand := by
    have units : significand * (denominator * 2 ^ found) = whole * denominator := by
      rw [held]
      ring
    have positiveUnit : 0 < denominator * 2 ^ found := Nat.mul_pos positive (Nat.two_pow_pos _)
    constructor <;> omega
  rw [roundHalfEven_eq (Nat.mul_pos positive (Nat.two_pow_pos _)) nearest, held]

theorem nearestUnits_units (magnitude : Magnitude format) :
    format.nearestUnits magnitude.units (2 ^ format.depth) = magnitude.units := by
  refine nearestUnits_of_dvd magnitude.exponent (Nat.two_pow_pos _) rfl ?_ (Nat.dvd_mul_left ..)
  rw [Magnitude.units, Nat.pow_add]
  exact Nat.mul_lt_mul_of_pos_right magnitude.fits (Nat.two_pow_pos _)

/-- Integers of no more bits than the precision are kept. -/
theorem nearestUnits_of_le (small : whole ≤ 2 ^ format.precision) :
    format.nearestUnits whole 1 = whole * 2 ^ format.depth := by
  have precise := format.precise
  rcases Nat.lt_or_eq_of_le small with less | rfl
  · refine nearestUnits_of_dvd format.depth Nat.one_pos (Nat.mul_one _).symm ?_
      (Nat.dvd_mul_left ..)
    rw [Nat.pow_add]
    exact Nat.mul_lt_mul_of_pos_right less (Nat.two_pow_pos _)
  · rw [← Nat.pow_add]
    refine nearestUnits_of_dvd (format.depth + 1) Nat.one_pos ?_ ?_ ?_
    · rw [Nat.mul_one, Nat.pow_add]
    · exact Nat.pow_lt_pow_right (by decide) (by omega)
    · exact Nat.pow_dvd_pow 2 (by omega)

/-- Rounding never inverts an order. -/
theorem nearestUnits_mono (positive : 0 < denominator) (otherPositive : 0 < otherDenominator)
    (ordered : numerator * otherDenominator ≤ otherNumerator * denominator) :
    format.nearestUnits numerator denominator ≤
      format.nearestUnits otherNumerator otherDenominator := by
  have scaled : numerator * 2 ^ format.depth * otherDenominator ≤
      otherNumerator * 2 ^ format.depth * denominator := by
    calc
      numerator * 2 ^ format.depth * otherDenominator
        = numerator * otherDenominator * 2 ^ format.depth := Nat.mul_right_comm ..
      _ ≤ otherNumerator * denominator * 2 ^ format.depth := Nat.mul_le_mul_right _ ordered
      _ = otherNumerator * 2 ^ format.depth * denominator := Nat.mul_right_comm ..
  have wholes := div_le_div_of_mul_le_mul otherPositive positive scaled
  unfold nearestUnits
  dsimp only
  generalize numerator * 2 ^ format.depth = units at scaled wholes
  generalize otherNumerator * 2 ^ format.depth = otherUnits at scaled wholes
  have exponents : format.exponentFor (units / denominator) ≤
      format.exponentFor (otherUnits / otherDenominator) :=
    exponentFor_mono wholes
  have short := format.div_exponentFor_lt (units / denominator)
  have long := format.le_div_exponentFor (otherUnits / otherDenominator)
  have rounded := roundHalfEven_le units
    (denominator * 2 ^ format.exponentFor (units / denominator))
  have otherRounded := le_roundHalfEven otherUnits
    (otherDenominator * 2 ^ format.exponentFor (otherUnits / otherDenominator))
  rw [← Nat.div_div_eq_div_mul] at rounded otherRounded
  generalize format.exponentFor (units / denominator) = exponent at exponents short rounded
  generalize format.exponentFor (otherUnits / otherDenominator) = otherExponent
    at exponents long otherRounded
  rcases Nat.lt_or_eq_of_le exponents with less | rfl
  · -- The lower exponent cannot carry beyond the least significand of the next one.
    calc
      roundHalfEven units (denominator * 2 ^ exponent) * 2 ^ exponent
        ≤ 2 ^ format.precision * 2 ^ exponent := Nat.mul_le_mul_right _ (by omega)
      _ ≤ 2 ^ (format.precision - 1) * 2 ^ otherExponent := by
        rw [← Nat.pow_add, ← Nat.pow_add]
        exact Nat.pow_le_pow_right (by decide) (by omega)
      _ ≤ _ := Nat.mul_le_mul_right _ (Nat.le_trans (long (by omega)) otherRounded)
  · have unit := Nat.two_pow_pos exponent
    refine Nat.mul_le_mul_right _ (NearestInteger.mono
      (nearestInteger_roundHalfEven (Nat.mul_pos positive unit))
      (nearestInteger_roundHalfEven (Nat.mul_pos otherPositive unit))
      (Nat.mul_pos positive unit) (Nat.mul_pos otherPositive unit) ?_)
    calc
      units * (otherDenominator * 2 ^ exponent)
        = units * otherDenominator * 2 ^ exponent := (Nat.mul_assoc ..).symm
      _ ≤ otherUnits * denominator * 2 ^ exponent := Nat.mul_le_mul_right _ scaled
      _ = otherUnits * (denominator * 2 ^ exponent) := Nat.mul_assoc ..

/-- Rounding depends on the quotient alone. -/
theorem nearestUnits_congr (positive : 0 < denominator) (otherPositive : 0 < otherDenominator)
    (same : numerator * otherDenominator = otherNumerator * denominator) :
    format.nearestUnits numerator denominator =
      format.nearestUnits otherNumerator otherDenominator :=
  Nat.le_antisymm (nearestUnits_mono positive otherPositive (Nat.le_of_eq same))
    (nearestUnits_mono otherPositive positive (Nat.le_of_eq same.symm))

end Format

end RecordSearch
