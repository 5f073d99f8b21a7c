import RecordSearch.Proofs.NearestValues

/-!
# Shortest decimals

Every quotient in the interval of a magnitude is nearest to it.  The neighbours of a magnitude on a
grid of enough digits lie in its interval, so there is a shortest decimal, and it is read back as
the magnitude.
-/

namespace RecordSearch

variable {format : Format}

namespace Magnitude

variable {magnitude : Magnitude format} {interval : Interval}
  {numerator denominator scale quarters otherScale otherQuarters : Nat}

section Intervals

theorem Interval.contains_iff :
    interval.contains scale quarters = true ↔
      interval.lower * scale ≤ quarters ∧ quarters ≤ interval.upper * scale ∧
        (interval.closed = false →
          interval.lower * scale ≠ quarters ∧ quarters ≠ interval.upper * scale) := by
  unfold contains
  cases interval.closed with
  | true => simp
  | false =>
      simp only [Bool.false_eq_true, if_false, Bool.and_eq_true, decide_eq_true_eq, true_imp_iff]
      omega

/-- Whether a quotient of quarters lies in an interval depends on the quotient alone. -/
theorem Interval.contains_of_same (positive : 0 < scale) (otherPositive : 0 < otherScale)
    (same : quarters * otherScale = otherQuarters * scale)
    (inside : interval.contains scale quarters = true) :
    interval.contains otherScale otherQuarters = true := by
  obtain ⟨above, below, strictly⟩ := contains_iff.1 inside
  have cross (bound : Nat) : bound * otherScale * scale = bound * scale * otherScale :=
    Nat.mul_right_comm ..
  refine contains_iff.2 ⟨?_, ?_, fun opened => ⟨fun equal => ?_, fun equal => ?_⟩⟩
  · refine Nat.le_of_mul_le_mul_right ?_ positive
    rw [cross, ← same]
    exact Nat.mul_le_mul_right _ above
  · refine Nat.le_of_mul_le_mul_right ?_ positive
    rw [cross, ← same]
    exact Nat.mul_le_mul_right _ below
  · refine (strictly opened).1 (Nat.eq_of_mul_eq_mul_right otherPositive ?_)
    rw [← cross, same, equal]
  · refine (strictly opened).2 (Nat.eq_of_mul_eq_mul_right otherPositive ?_)
    rw [← cross, same, equal]

theorem closed_interval : magnitude.interval.closed = decide (magnitude.significand % 2 = 0) :=
  rfl

theorem upper_interval :
    magnitude.interval.upper = (4 * magnitude.significand + 2) * 2 ^ magnitude.exponent :=
  rfl

/-- Below a magnitude that begins a new exponent, the interval reaches half as far. -/
theorem lower_interval (magnitude : Magnitude format) :
    (magnitude.significand = 2 ^ (format.precision - 1) ∧ magnitude.exponent ≠ 0 ∧
      magnitude.interval.lower = (4 * magnitude.significand - 1) * 2 ^ magnitude.exponent) ∨
    (¬(magnitude.significand = 2 ^ (format.precision - 1) ∧ magnitude.exponent ≠ 0) ∧
      magnitude.interval.lower = (4 * magnitude.significand - 2) * 2 ^ magnitude.exponent) := by
  by_cases begins : magnitude.significand = 2 ^ (format.precision - 1) ∧ magnitude.exponent ≠ 0
  · refine .inl ⟨begins.1, begins.2, ?_⟩
    rw [interval]
    simp only [begins, ne_eq, not_false_eq_true, and_self, if_true]
  · refine .inr ⟨begins, ?_⟩
    rw [interval]
    simp only [begins, if_false]

section Nearest

variable {units unit : Nat}

theorem upper_bound (inside : magnitude.interval.contains denominator (units * 4) = true)
    (last : unit = denominator * 2 ^ magnitude.exponent) :
    2 * units ≤ 2 * (magnitude.significand * unit) + unit ∧
      (2 * units = 2 * (magnitude.significand * unit) + unit → magnitude.significand % 2 = 0) := by
  obtain ⟨-, below, strictly⟩ := Interval.contains_iff.1 inside
  have upper :
      magnitude.interval.upper * denominator = 4 * (magnitude.significand * unit) + 2 * unit := by
    rw [upper_interval, last]
    ring
  rw [upper] at below strictly
  refine ⟨by omega, fun tie => ?_⟩
  by_contra odd
  have opened : magnitude.interval.closed = false := by rw [closed_interval, decide_eq_false odd]
  exact (strictly opened).2 (by omega)

theorem lower_bound (inside : magnitude.interval.contains denominator (units * 4) = true)
    (last : unit = denominator * 2 ^ magnitude.exponent) :
    (magnitude.significand = 2 ^ (format.precision - 1) ∧ magnitude.exponent ≠ 0 ∧
      4 * (magnitude.significand * unit) ≤ 4 * units + unit) ∨
    (¬(magnitude.significand = 2 ^ (format.precision - 1) ∧ magnitude.exponent ≠ 0) ∧
      2 * (magnitude.significand * unit) ≤ 2 * units + unit ∧
      (2 * (magnitude.significand * unit) = 2 * units + unit → magnitude.significand % 2 = 0)) := by
  obtain ⟨above, -, strictly⟩ := Interval.contains_iff.1 inside
  have lower (gap : Nat) :
      (4 * magnitude.significand - gap) * 2 ^ magnitude.exponent * denominator =
        4 * (magnitude.significand * unit) - gap * unit := by
    rw [Nat.mul_assoc, Nat.mul_comm _ denominator, ← last, Nat.sub_mul, Nat.mul_assoc]
  rcases magnitude.lower_interval with ⟨least, coarse, held⟩ | ⟨within, held⟩
  · rw [held, lower] at above
    exact .inl ⟨least, coarse, by omega⟩
  · rw [held, lower] at above strictly
    refine .inr ⟨within, by omega, fun tie => ?_⟩
    by_contra odd
    have opened : magnitude.interval.closed = false := by rw [closed_interval, decide_eq_false odd]
    exact (strictly opened).1 (by omega)

/-- Just below a magnitude that begins a new exponent, quotients are rounded at the exponent before,
where the magnitude has twice its significand. -/
theorem nearestUnits_of_finer (positive : 0 < denominator)
    (least : magnitude.significand = 2 ^ (format.precision - 1)) (coarse : magnitude.exponent ≠ 0)
    (above : 4 * (magnitude.significand * (denominator * 2 ^ magnitude.exponent)) ≤
      4 * (numerator * 2 ^ format.depth) + denominator * 2 ^ magnitude.exponent)
    (less : numerator * 2 ^ format.depth <
      magnitude.significand * (denominator * 2 ^ magnitude.exponent)) :
    format.nearestUnits numerator denominator = magnitude.units := by
  have precise := format.precise
  obtain ⟨finer, exponent⟩ := Nat.exists_eq_succ_of_ne_zero coarse
  have halves : denominator * 2 ^ magnitude.exponent = 2 * (denominator * 2 ^ finer) := by
    rw [exponent, Nat.pow_succ]
    ring
  have double : 2 ^ format.precision = 2 * magnitude.significand := by
    rw [least, ← Nat.pow_succ']
    congr 1
    omega
  have same : magnitude.units = 2 * magnitude.significand * 2 ^ finer := by
    rw [units, exponent, Nat.pow_succ]
    ring
  have halfPositive : 0 < denominator * 2 ^ finer := Nat.mul_pos positive (Nat.two_pow_pos _)
  have reached : denominator * 2 ^ finer ≤ magnitude.significand * (denominator * 2 ^ finer) := by
    refine Nat.le_mul_of_pos_left _ ?_
    rw [least]
    exact Nat.two_pow_pos _
  rw [halves, Nat.mul_left_comm _ 2] at above less
  rw [same]
  refine Format.nearestUnits_eq positive ⟨?_, ?_, fun _ => Nat.mul_mod_right ..,
    fun _ => Nat.mul_mod_right ..⟩ ?_ (.inr ?_)
  · rw [Nat.mul_assoc]
    omega
  · rw [Nat.mul_assoc]
    omega
  · rwa [double, Nat.mul_assoc]
  · rw [← least]
    omega

theorem nearestUnits_of_contains (positive : 0 < denominator)
    (inside : magnitude.interval.contains denominator (numerator * 2 ^ format.depth * 4) = true) :
    format.nearestUnits numerator denominator = magnitude.units := by
  obtain ⟨below, evenBelow⟩ := upper_bound inside rfl
  have unitPositive : 0 < denominator * 2 ^ magnitude.exponent :=
    Nat.mul_pos positive (Nat.two_pow_pos _)
  have short : numerator * 2 ^ format.depth <
      2 ^ format.precision * (denominator * 2 ^ magnitude.exponent) := by
    have next := Nat.mul_le_mul_right (denominator * 2 ^ magnitude.exponent) magnitude.fits
    rw [Nat.succ_mul] at next
    omega
  rcases lower_bound inside rfl with ⟨least, coarse, above⟩ | ⟨within, above, evenAbove⟩
  · rcases Nat.lt_or_ge (numerator * 2 ^ format.depth)
        (magnitude.significand * (denominator * 2 ^ magnitude.exponent)) with less | atLeast
    · exact nearestUnits_of_finer positive least coarse above less
    · have onto : 2 ^ (format.precision - 1) * (denominator * 2 ^ magnitude.exponent) ≤
          numerator * 2 ^ format.depth := by
        rwa [← least]
      exact Format.nearestUnits_eq positive
        ⟨by omega, below, fun tie => by omega, evenBelow⟩ short (.inr onto)
  · refine Format.nearestUnits_eq positive ⟨above, below, evenAbove, evenBelow⟩ short ?_
    rcases magnitude.canonical with finest | long
    · exact .inl finest
    · refine or_iff_not_imp_left.2 fun coarse => ?_
      have greater : 2 ^ (format.precision - 1) + 1 ≤ magnitude.significand := by omega
      have next := Nat.mul_le_mul_right (denominator * 2 ^ magnitude.exponent) greater
      rw [Nat.succ_mul] at next
      omega

end Nearest

end Intervals

section Candidates

variable {count place candidate : Nat} {decimal : Decimal}

/-- A candidate on the grid of a digit position lies in the interval as its decimal does. -/
theorem contains_of_candidate
    (fits : magnitude.interval.contains (10 ^ scaleExponent format)
      (candidate * 10 ^ place * 2 ^ format.depth * 4) = true)
    (written : decimal = ⟨candidate, (place : Int) - scaleExponent format⟩) :
    magnitude.interval.contains decimal.denominator
      (decimal.numerator * 2 ^ format.depth * 4) = true := by
  refine Interval.contains_of_same (Nat.pow_pos (by decide)) decimal.denominator_pos ?_ fits
  subst written
  unfold Decimal.numerator Decimal.denominator
  dsimp only
  generalize scaleExponent format = scale
  have powers : 10 ^ place * 10 ^ (-((place : Int) - scale)).toNat =
      10 ^ ((place : Int) - scale).toNat * 10 ^ scale := by
    rw [← Nat.pow_add, ← Nat.pow_add]
    congr 1
    omega
  calc
    candidate * 10 ^ place * 2 ^ format.depth * 4 * 10 ^ (-((place : Int) - scale)).toNat
      = candidate * 2 ^ format.depth * 4 *
          (10 ^ place * 10 ^ (-((place : Int) - scale)).toNat) := by ring
    _ = candidate * 2 ^ format.depth * 4 *
          (10 ^ ((place : Int) - scale).toNat * 10 ^ scale) := by rw [powers]
    _ = candidate * 10 ^ ((place : Int) - scale).toNat * 2 ^ format.depth * 4 * 10 ^ scale := by
      ring

theorem contains_of_decimalOf? (found : magnitude.decimalOf? count = some decimal) :
    magnitude.interval.contains decimal.denominator
      (decimal.numerator * 2 ^ format.depth * 4) = true := by
  unfold decimalOf? at found
  dsimp only at found
  split at found
  case isTrue lower => exact contains_of_candidate lower.1 (Option.some.inj found).symm
  case isFalse =>
    split at found
    case isTrue upper => exact contains_of_candidate upper (Option.some.inj found).symm
    case isFalse => cases found

/-- What is less than a quarter of the last place below a magnitude lies in its interval. -/
theorem contains_of_close {quarters : Nat} (nonzero : magnitude.significand ≠ 0)
    (positive : 0 < scale) (below : quarters ≤ 4 * (magnitude.units * scale))
    (close : 4 * (magnitude.units * scale) < quarters + 2 ^ magnitude.exponent * scale) :
    magnitude.interval.contains scale quarters = true := by
  have unitPositive : 0 < 2 ^ magnitude.exponent * scale :=
    Nat.mul_pos (Nat.two_pow_pos _) positive
  have upper : magnitude.interval.upper * scale =
      4 * (magnitude.units * scale) + 2 * (2 ^ magnitude.exponent * scale) := by
    rw [upper_interval, units]
    ring
  have lower : magnitude.interval.lower * scale + 2 ^ magnitude.exponent * scale ≤
      4 * (magnitude.units * scale) := by
    have step (gap : Nat) : (4 * magnitude.significand - gap) * 2 ^ magnitude.exponent * scale =
        4 * (magnitude.units * scale) - gap * (2 ^ magnitude.exponent * scale) := by
      rw [units, Nat.mul_assoc, Nat.sub_mul, Nat.mul_assoc 4, Nat.mul_assoc magnitude.significand]
    have least : 2 ^ magnitude.exponent * scale ≤ magnitude.units * scale :=
      Nat.mul_le_mul_right _ (Nat.le_mul_of_pos_left _ (Nat.pos_of_ne_zero nonzero))
    rcases magnitude.lower_interval with ⟨-, -, held⟩ | ⟨-, held⟩
    · rw [held, step]
      omega
    · rw [held, step]
      omega
  exact Interval.contains_iff.2 ⟨by omega, by omega, fun _ => by omega⟩

/-- The last of fewer digits than a number has is a small part of it. -/
theorem pow_mul_pow_le_of_digits {whole : Nat} (some : count ≠ 0)
    (fewer : (Nat.toDigits 10 whole).length - count ≠ 0) :
    10 ^ (count - 1) * 10 ^ ((Nat.toDigits 10 whole).length - count) ≤ whole := by
  rw [← Nat.pow_add]
  by_contra less
  have shorter :=
    (Nat.length_toDigits_le_iff (b := 10) (by decide) (by omega)).2 (Nat.not_le.1 less)
  omega

/-- On a grid fine enough for every significand, the neighbour below a magnitude lies in its
interval. -/
theorem contains_low {whole : Nat} (nonzero : magnitude.significand ≠ 0) (positive : 0 < scale)
    (exact : whole * 2 ^ format.depth = magnitude.units * scale)
    (fine : place = 0 ∨ 2 ^ (format.precision + 2) * 10 ^ place ≤ whole) :
    magnitude.interval.contains scale (whole / 10 ^ place * 10 ^ place * 2 ^ format.depth * 4) =
      true := by
  have below := Nat.div_mul_le_self whole (10 ^ place)
  have unitPositive : 0 < 2 ^ magnitude.exponent * scale :=
    Nat.mul_pos (Nat.two_pow_pos _) positive
  refine contains_of_close nonzero positive ?_ ?_
  · have scaled := Nat.mul_le_mul_right (2 ^ format.depth) below
    omega
  · rcases fine with rfl | fine
    · rw [Nat.pow_zero, Nat.div_one, Nat.mul_one]
      omega
    · have near : whole < whole / 10 ^ place * 10 ^ place + 10 ^ place := by
        rw [← Nat.succ_mul, Nat.mul_comm]
        exact Nat.lt_mul_div_succ whole (Nat.pow_pos (by decide))
      have nearScaled := Nat.mul_lt_mul_of_pos_right near (Nat.two_pow_pos format.depth)
      rw [Nat.add_mul] at nearScaled
      have step : 2 ^ format.precision * (4 * (10 ^ place * 2 ^ format.depth)) <
          2 ^ format.precision * (2 ^ magnitude.exponent * scale) := by
        calc
          2 ^ format.precision * (4 * (10 ^ place * 2 ^ format.depth))
            = 2 ^ (format.precision + 2) * 10 ^ place * 2 ^ format.depth := by
              rw [Nat.pow_add]
              ring
          _ ≤ whole * 2 ^ format.depth := Nat.mul_le_mul_right _ fine
          _ = magnitude.significand * (2 ^ magnitude.exponent * scale) := by
              rw [exact, units, Nat.mul_assoc]
          _ < 2 ^ format.precision * (2 ^ magnitude.exponent * scale) :=
              Nat.mul_lt_mul_of_pos_right magnitude.fits unitPositive
      have quarter := Nat.lt_of_mul_lt_mul_left step
      omega

theorem isSome_decimalOf? (nonzero : magnitude.significand ≠ 0)
    (fine : 2 ^ (format.precision + 2) ≤ 10 ^ (count - 1)) :
    (magnitude.decimalOf? count).isSome = true := by
  have some : count ≠ 0 := by
    rintro rfl
    have := Nat.pow_lt_pow_right (a := 2) (by decide) (show 0 < format.precision + 2 by omega)
    omega
  have divides : 2 ^ format.depth ∣ 10 ^ scaleExponent format := by
    refine Nat.dvd_trans ⟨5 ^ format.depth, ?_⟩ (Nat.pow_dvd_pow 10 (Nat.le_add_right _ 20))
    rw [← Nat.mul_pow]
  unfold decimalOf?
  dsimp only
  generalize held : magnitude.units * 10 ^ scaleExponent format / 2 ^ format.depth = whole
  have exact : whole * 2 ^ format.depth = magnitude.units * 10 ^ scaleExponent format := by
    rw [← held]
    exact Nat.div_mul_cancel (Nat.dvd_mul_left_of_dvd divides _)
  have small : (Nat.toDigits 10 whole).length - count = 0 ∨
      2 ^ (format.precision + 2) * 10 ^ ((Nat.toDigits 10 whole).length - count) ≤ whole :=
    or_iff_not_imp_left.2 fun fewer =>
      Nat.le_trans (Nat.mul_le_mul_right _ fine) (pow_mul_pow_le_of_digits some fewer)
  have low := contains_low nonzero (Nat.pow_pos (by decide)) exact small
  split
  case isTrue => rfl
  case isFalse upper =>
    split
    case isTrue => rfl
    case isFalse beyond => exact absurd ⟨low, .inr beyond⟩ upper

/-- The shortest decimal is one of those that lie in the interval. -/
theorem exists_decimalOf?_shortest (nonzero : magnitude.significand ≠ 0)
    (fine : 2 ^ (format.precision + 2) ≤ 10 ^ (format.precision - 1)) :
    ∃ count, magnitude.decimalOf? count = some magnitude.shortest := by
  have precise := format.precise
  have last : (magnitude.decimalOf? format.precision).isSome = true :=
    isSome_decimalOf? nonzero fine
  have some : ((List.range format.precision).findSome? fun count =>
      magnitude.decimalOf? (count + 1)).isSome = true := by
    rw [List.isSome_findSome?, List.any_eq_true]
    refine ⟨format.precision - 1, List.mem_range.2 (by omega), ?_⟩
    rwa [Nat.sub_add_cancel precise]
  obtain ⟨decimal, found⟩ := Option.isSome_iff_exists.1 some
  obtain ⟨count, -, chosen⟩ := List.exists_of_findSome?_eq_some found
  refine ⟨count + 1, ?_⟩
  rw [chosen, shortest, found, Option.getD_some]

/-- The shortest decimal is read back as the magnitude. -/
theorem toBinary_shortest (negative : Bool) (nonzero : magnitude.significand ≠ 0)
    (fine : 2 ^ (format.precision + 2) ≤ 10 ^ (format.precision - 1)) :
    magnitude.shortest.toBinary negative = Binary.finite negative magnitude := by
  obtain ⟨count, found⟩ := exists_decimalOf?_shortest nonzero fine
  rw [Decimal.toBinary_eq_ofQuotient, Binary.ofQuotient_eq_finite_iff]
  exact nearestUnits_of_contains magnitude.shortest.denominator_pos (contains_of_decimalOf? found)

end Candidates

end Magnitude

end RecordSearch
