import Mathlib.Data.EReal.Basic
import RecordSearch.Number.Basic
import RecordSearch.Proofs.NearestValues

/-!
# The order of numbers

Every number has a position, its exact value counted in finest units.  Two integers are compared by
their positions, and as soon as a floating-point value takes part, by the nearest values to their
positions.  So the order of two numbers is never inverted, but different integers with one nearest
value are told apart by each other and not by this value.
-/

namespace RecordSearch

namespace Format

variable {format : Format} {units : Int}

/-- The nearest value to a number of units. -/
def settle (format : Format) (units : Int) : Int :=
  format.roundedUnits units (2 ^ format.depth)

theorem settle_mono {other : Int} (ordered : units ≤ other) :
    format.settle units ≤ format.settle other :=
  roundedUnits_mono (Nat.two_pow_pos _) (Nat.two_pow_pos _)
    (Int.mul_le_mul_of_nonneg_right ordered (Int.natCast_nonneg _))

theorem settle_integer (integer : Int) :
    format.settle (integer * (2 ^ format.depth : Nat)) = format.roundedUnits integer 1 := by
  have positive := Nat.two_pow_pos format.depth
  refine Int.le_antisymm ?_ ?_
  · exact roundedUnits_mono positive Nat.one_pos (by simp)
  · exact roundedUnits_mono Nat.one_pos positive (by simp)

theorem nearestUnits_limit :
    format.nearestUnits format.limit (2 ^ format.depth) = format.limit := by
  have precise := format.precise
  refine nearestUnits_of_dvd (format.precision + format.span) (Nat.two_pow_pos _) rfl ?_
    (Nat.dvd_refl _)
  exact Nat.pow_lt_pow_right (by decide) (by omega)

theorem settle_of_units? {value : Binary format} (has : value.units? = some units) :
    format.settle units = units := by
  cases value with
  | nan => cases has
  | infinity negative =>
      obtain rfl := Option.some.inj has
      have held : format.settle (Binary.signed negative format.limit) = _ :=
        roundedUnits_signed negative format.limit (2 ^ format.depth)
      rw [nearestUnits_limit, Nat.min_self] at held
      exact held
  | finite negative magnitude =>
      obtain rfl := Option.some.inj has
      exact roundedUnits_units negative magnitude

end Format

namespace Number

variable {one two three : Number} {first second : Int}

def isInteger (amount : Number) : Bool :=
  amount.integer?.isSome

/-- The exact value of a number in finest units. -/
def position? (amount : Number) : Option Int :=
  match amount.integer? with
  | some integer => some (integer * (2 ^ Format.binary64.depth : Nat))
  | none => amount.toBinary.units?

theorem position?_of_integer {integer : Int} (whole : one.integer? = some integer) :
    one.position? = some (integer * (2 ^ Format.binary64.depth : Nat)) := by
  rw [position?, whole]

theorem position?_eq_none_iff : one.position? = none ↔ one = .float .nan := by
  cases one with
  | signed integer => exact iff_of_false (Option.some_ne_none _) (by nofun)
  | unsigned integer => exact iff_of_false (Option.some_ne_none _) (by nofun)
  | float value =>
      simp only [position?, integer?, toBinary, float.injEq]
      exact Binary.units?_eq_none_iff

theorem units?_toBinary (stands : one.position? = some first) :
    one.toBinary.units? = some (Format.binary64.settle first) := by
  cases one with
  | signed integer =>
      obtain rfl := Option.some.inj stands
      rw [Format.settle_integer]
      exact Binary.units?_ofInt _
  | unsigned integer =>
      obtain rfl := Option.some.inj stands
      rw [Format.settle_integer]
      exact Binary.units?_ofInt _
  | float value =>
      have has : value.units? = some first := stands
      rw [Format.settle_of_units? has]
      exact has

theorem settle_of_not_isInteger (broken : one.isInteger = false)
    (stands : one.position? = some first) : Format.binary64.settle first = first := by
  cases one with
  | signed integer => cases broken
  | unsigned integer => cases broken
  | float value => exact Format.settle_of_units? stands

theorem compare_of_integers (whole : one.integer? = some first)
    (otherWhole : two.integer? = some second) :
    one.compare two = some (Ord.compare first second) := by
  rw [compare, whole, otherWhole]

theorem compare_of_not_isInteger (broken : (one.isInteger && two.isInteger) = false) :
    one.compare two = one.toBinary.compare two.toBinary := by
  rw [compare]
  split
  case h_1 whole otherWhole => simp [isInteger, whole, otherWhole] at broken
  case h_2 => rfl

theorem compare_positions (integer other : Int) :
    Ord.compare (integer * (2 ^ Format.binary64.depth : Nat))
      (other * (2 ^ Format.binary64.depth : Nat)) = Ord.compare integer other := by
  have positive : (0 : Int) < (2 ^ Format.binary64.depth : Nat) := by
    exact_mod_cast Nat.two_pow_pos Format.binary64.depth
  rcases Int.lt_trichotomy integer other with less | rfl | greater
  · rw [Int.compare_eq_lt.2 less, Int.compare_eq_lt.2 (Int.mul_lt_mul_of_pos_right less positive)]
  · rw [Int.compare_eq_eq.2 rfl, Int.compare_eq_eq.2 rfl]
  · rw [Int.compare_eq_gt.2 greater,
      Int.compare_eq_gt.2 (Int.mul_lt_mul_of_pos_right greater positive)]

/-- What decides between two numbers: their positions if both are integers, else their nearest
values. -/
def decisive (one two : Number) (units : Int) : Int :=
  if one.isInteger && two.isInteger then units else Format.binary64.settle units

theorem compare_eq (stands : one.position? = some first)
    (otherStands : two.position? = some second) :
    one.compare two = some (Ord.compare (decisive one two first) (decisive one two second)) := by
  unfold decisive
  cases whole : one.isInteger && two.isInteger with
  | true =>
      rw [Bool.and_eq_true] at whole
      obtain ⟨integer, kept⟩ := Option.isSome_iff_exists.1 whole.1
      obtain ⟨other, otherKept⟩ := Option.isSome_iff_exists.1 whole.2
      rw [position?_of_integer kept] at stands
      rw [position?_of_integer otherKept] at otherStands
      obtain rfl := Option.some.inj stands
      obtain rfl := Option.some.inj otherStands
      rw [compare_of_integers kept otherKept, if_pos rfl, if_pos rfl, compare_positions]
  | false =>
      rw [compare_of_not_isInteger whole]
      exact Binary.compare_of_units (units?_toBinary stands) (units?_toBinary otherStands)

theorem compare_eq_lt_iff (stands : one.position? = some first)
    (otherStands : two.position? = some second) :
    one.compare two = some .lt ↔ decisive one two first < decisive one two second := by
  rw [compare_eq stands otherStands, Option.some_inj, Int.compare_eq_lt]

theorem compare_eq_eq_iff (stands : one.position? = some first)
    (otherStands : two.position? = some second) :
    one.compare two = some .eq ↔ decisive one two first = decisive one two second := by
  rw [compare_eq stands otherStands, Option.some_inj, Int.compare_eq_eq]

theorem compare_eq_gt_iff (stands : one.position? = some first)
    (otherStands : two.position? = some second) :
    one.compare two = some .gt ↔ decisive one two second < decisive one two first := by
  rw [compare_eq stands otherStands, Option.some_inj, Int.compare_eq_gt]

theorem decisive_of_integers (whole : (one.isInteger && two.isInteger) = true) :
    decisive one two first = first := by
  rw [decisive, whole, if_pos rfl]

theorem decisive_of_not_integers (broken : (one.isInteger && two.isInteger) = false) :
    decisive one two first = Format.binary64.settle first := by
  rw [decisive, broken]
  rfl

theorem settle_le_of_decisive_le (ordered : decisive one two first ≤ decisive one two second) :
    Format.binary64.settle first ≤ Format.binary64.settle second := by
  unfold decisive at ordered
  split at ordered
  · exact Format.settle_mono ordered
  · exact ordered

theorem lt_of_decisive_lt (less : decisive one two first < decisive one two second) :
    first < second := by
  by_contra atMost
  have settled : Format.binary64.settle second ≤ Format.binary64.settle first :=
    Format.settle_mono (by omega)
  unfold decisive at less
  split at less <;> omega

theorem compare_eq_none_iff :
    one.compare two = none ↔ one = .float .nan ∨ two = .float .nan := by
  rw [← position?_eq_none_iff, ← position?_eq_none_iff]
  cases stands : one.position? with
  | none =>
      rw [position?_eq_none_iff] at stands
      subst stands
      refine iff_of_true ?_ (.inl rfl)
      rw [compare_of_not_isInteger rfl, Binary.compare_eq_none_iff]
      exact .inl rfl
  | some first =>
      cases otherStands : two.position? with
      | none =>
          rw [position?_eq_none_iff] at otherStands
          subst otherStands
          refine iff_of_true ?_ (.inr rfl)
          rw [compare_of_not_isInteger (Bool.and_false _), Binary.compare_eq_none_iff]
          exact .inr rfl
      | some second =>
          rw [compare_eq stands otherStands]
          simp

theorem compare_swap (one two : Number) :
    two.compare one = (one.compare two).map Ordering.swap := by
  cases whole : one.isInteger && two.isInteger with
  | true =>
      rw [Bool.and_eq_true] at whole
      obtain ⟨integer, kept⟩ := Option.isSome_iff_exists.1 whole.1
      obtain ⟨other, otherKept⟩ := Option.isSome_iff_exists.1 whole.2
      rw [compare_of_integers kept otherKept, compare_of_integers otherKept kept]
      exact congrArg some Std.OrientedCmp.eq_swap
  | false =>
      rw [compare_of_not_isInteger whole, compare_of_not_isInteger (Bool.and_comm .. ▸ whole)]
      exact Binary.compare_swap ..

end Number

/-- The extended real number for which a value stands, if it is a number. -/
noncomputable def Binary.extended? {format : Format} : Binary format → Option EReal
  | .nan => none
  | .infinity negative => some (if negative then ⊥ else ⊤)
  | .finite negative magnitude =>
      some (((signed negative magnitude.units : ℝ) / 2 ^ format.depth : ℝ) : EReal)

namespace Format

variable {format : Format} {units other : Int}

/-- A number of units lies between the places of the infinities. -/
def Reaches (format : Format) (units : Int) : Prop :=
  -(format.limit : Int) ≤ units ∧ units ≤ format.limit

/-- The extended real number at a place that the format reaches. -/
noncomputable def exact (format : Format) (units : Int) : EReal :=
  if (format.limit : Int) ≤ units then ⊤
  else if units ≤ -format.limit then ⊥
  else ((units / 2 ^ format.depth : ℝ) : EReal)

theorem exact_of_between (above : -(format.limit : Int) < units) (below : units < format.limit) :
    format.exact units = ((units / 2 ^ format.depth : ℝ) : EReal) := by
  rw [exact, if_neg (Int.not_le.2 below), if_neg (Int.not_le.2 above)]

theorem exact_lt_exact (reached : format.Reaches units) (otherReached : format.Reaches other)
    (less : units < other) : format.exact units < format.exact other := by
  have positive := Nat.two_pow_pos (format.precision + format.span)
  change 0 < format.limit at positive
  unfold Reaches at reached otherReached
  have below : units < format.limit := by omega
  rcases Int.lt_or_eq_of_le reached.1 with above | rfl
  · rw [exact_of_between above below]
    rcases Int.lt_or_eq_of_le otherReached.2 with otherBelow | rfl
    · rw [exact_of_between (by omega) otherBelow, EReal.coe_lt_coe_iff]
      have real : (units : ℝ) < other := by exact_mod_cast less
      gcongr
    · rw [exact, if_pos (Int.le_refl _)]
      exact EReal.coe_lt_top _
  · rw [exact, if_neg (Int.not_le.2 below), if_pos (Int.le_refl _)]
    rcases Int.lt_or_eq_of_le otherReached.2 with otherBelow | rfl
    · rw [exact_of_between less otherBelow]
      exact EReal.bot_lt_coe _
    · rw [exact, if_pos (Int.le_refl _)]
      exact bot_lt_top

theorem exact_lt_exact_iff (reached : format.Reaches units) (otherReached : format.Reaches other) :
    format.exact units < format.exact other ↔ units < other := by
  refine ⟨fun less => ?_, exact_lt_exact reached otherReached⟩
  by_contra atMost
  rcases Int.lt_or_eq_of_le (Int.not_lt.1 atMost) with greater | rfl
  · exact lt_asymm less (exact_lt_exact otherReached reached greater)
  · exact lt_irrefl _ less

theorem exact_eq_exact_iff (reached : format.Reaches units) (otherReached : format.Reaches other) :
    format.exact units = format.exact other ↔ units = other := by
  refine ⟨fun same => ?_, congrArg _⟩
  by_contra apart
  rcases Int.lt_or_gt_of_ne apart with less | greater
  · exact (exact_lt_exact reached otherReached less).ne same
  · exact (exact_lt_exact otherReached reached greater).ne same.symm

theorem signed_between (negative : Bool) (magnitude : Magnitude format) :
    -(format.limit : Int) < Binary.signed negative magnitude.units ∧
      Binary.signed negative magnitude.units < format.limit := by
  have within := magnitude.units_lt_limit
  cases negative
  · rw [Binary.signed_false]
    omega
  · rw [Binary.signed_true]
    omega

theorem reaches_of_units? {value : Binary format} (has : value.units? = some units) :
    format.Reaches units := by
  cases value with
  | nan => cases has
  | infinity negative =>
      obtain rfl := Option.some.inj has
      change format.Reaches (Binary.signed negative format.limit)
      unfold Reaches
      cases negative
      · rw [Binary.signed_false]
        omega
      · rw [Binary.signed_true]
        omega
  | finite negative magnitude =>
      obtain rfl := Option.some.inj has
      have between := signed_between negative magnitude
      exact ⟨between.1.le, between.2.le⟩

theorem extended?_of_units? {value : Binary format} (has : value.units? = some units) :
    value.extended? = some (format.exact units) := by
  cases value with
  | nan => cases has
  | infinity negative =>
      obtain rfl := Option.some.inj has
      change _ = some (format.exact (Binary.signed negative format.limit))
      have positive : 0 < format.limit := Nat.two_pow_pos _
      cases negative
      · rw [Binary.signed_false, exact, if_pos (Int.le_refl _)]
        rfl
      · rw [Binary.signed_true, exact, if_neg (by omega), if_pos (Int.le_refl _)]
        rfl
  | finite negative magnitude =>
      obtain rfl := Option.some.inj has
      have between := signed_between negative magnitude
      rw [exact_of_between between.1 between.2]
      rfl

theorem exact_integer {integer : Int} (less : integer.natAbs * 2 ^ format.depth < format.limit) :
    format.exact (integer * (2 ^ format.depth : Nat)) = ((integer : ℝ) : EReal) := by
  have below : (integer * (2 ^ format.depth : Nat)).natAbs < format.limit := by
    rwa [Int.natAbs_mul, Int.natAbs_natCast]
  rw [exact_of_between (by omega) (by omega)]
  congr 1
  push_cast
  field_simp

end Format

namespace Number

variable {one two three : Number} {first second third : Int}

/-- The extended real number for which a number stands. -/
noncomputable def extended? : Number → Option EReal
  | .signed integer => some ((integer.toInt : ℝ) : EReal)
  | .unsigned integer => some ((integer.toNat : ℝ) : EReal)
  | .float value => value.extended?

theorem integer_bounds {integer : Int} (whole : one.integer? = some integer) :
    -2 ^ 63 ≤ integer ∧ integer < 2 ^ 64 := by
  cases one with
  | signed kept =>
      obtain rfl := Option.some.inj whole
      have above := kept.le_toInt
      have below := kept.toInt_lt
      omega
  | unsigned kept =>
      obtain rfl := Option.some.inj whole
      have below := kept.toNat_lt
      omega
  | float value => cases whole

theorem extended?_of_integer {integer : Int} (whole : one.integer? = some integer) :
    one.extended? = some ((integer : ℝ) : EReal) := by
  cases one with
  | signed kept =>
      obtain rfl := Option.some.inj whole
      rfl
  | unsigned kept =>
      obtain rfl := Option.some.inj whole
      rfl
  | float value => cases whole

theorem integer_lt_limit {integer : Int} (whole : one.integer? = some integer) :
    integer.natAbs * 2 ^ Format.binary64.depth < Format.binary64.limit := by
  have bounds := integer_bounds whole
  have small : integer.natAbs < 2 ^ 64 := by omega
  calc
    integer.natAbs * 2 ^ Format.binary64.depth < 2 ^ 64 * 2 ^ Format.binary64.depth :=
      Nat.mul_lt_mul_of_pos_right small (Nat.two_pow_pos _)
    _ ≤ Format.binary64.limit := by
      rw [Format.limit, ← Nat.pow_add]
      exact Nat.pow_le_pow_right (by decide) (by decide)

theorem reaches_position (stands : one.position? = some first) :
    Format.binary64.Reaches first ∧ one.extended? = some (Format.binary64.exact first) := by
  cases whole : one.integer? with
  | some integer =>
      rw [position?_of_integer whole] at stands
      obtain rfl := Option.some.inj stands
      have less := integer_lt_limit whole
      rw [extended?_of_integer whole, Format.exact_integer less]
      refine ⟨?_, rfl⟩
      rw [← Int.natAbs_natCast (2 ^ Format.binary64.depth), ← Int.natAbs_mul] at less
      unfold Format.Reaches
      omega
  | none =>
      cases one with
      | signed kept => cases whole
      | unsigned kept => cases whole
      | float value =>
          exact ⟨Format.reaches_of_units? stands, Format.extended?_of_units? stands⟩

/-- An integer of no more bits than a floating-point value keeps; every other number. -/
def FitsPrecision (amount : Number) : Prop :=
  ∀ integer, amount.integer? = some integer → integer.natAbs ≤ 2 ^ 53

theorem settle_of_fitsPrecision (fits : one.FitsPrecision) (stands : one.position? = some first) :
    Format.binary64.settle first = first := by
  cases whole : one.integer? with
  | none =>
      refine settle_of_not_isInteger ?_ stands
      rw [isInteger, whole]
      rfl
  | some integer =>
      have small := fits integer whole
      have less := integer_lt_limit whole
      rw [position?_of_integer whole] at stands
      obtain rfl := Option.some.inj stands
      have held : min (Format.binary64.nearestUnits integer.natAbs 1) Format.binary64.limit =
          integer.natAbs * 2 ^ Format.binary64.depth := by
        rw [Format.nearestUnits_of_le small]
        exact Nat.min_eq_left less.le
      rw [Format.settle_integer]
      rcases lt_or_ge integer 0 with negative | nonneg
      · rw [Format.roundedUnits_of_neg negative, held, Int.natCast_mul,
          Int.ofNat_natAbs_of_nonpos negative.le]
        ring
      · rw [Format.roundedUnits_of_nonneg nonneg, held, Int.natCast_mul,
          Int.natAbs_of_nonneg nonneg]

theorem exists_position_of_extended? {real : EReal} (stands : one.extended? = some real) :
    ∃ units, one.position? = some units ∧ Format.binary64.Reaches units ∧
      real = Format.binary64.exact units := by
  cases has : one.position? with
  | none =>
      rw [position?_eq_none_iff] at has
      subst has
      cases stands
  | some units =>
      obtain ⟨reached, same⟩ := reaches_position has
      exact ⟨units, rfl, reached, Option.some.inj (stands.symm.trans same)⟩

/-- Comparison never inverts the order of the exact values, and it is exact between numbers that
floating-point values keep. -/
theorem compare_keeps_order (one two : Number) :
    (one.compare two = none ↔ one = .float .nan ∨ two = .float .nan) ∧
      two.compare one = (one.compare two).map Ordering.swap ∧
      (∀ first second, one.integer? = some first → two.integer? = some second →
        one.compare two = some (Ord.compare first second)) ∧
      ∀ first second, one.extended? = some first → two.extended? = some second →
        (one.compare two = some .lt → first < second) ∧
          (one.compare two = some .gt → second < first) ∧
          (one.FitsPrecision → two.FitsPrecision →
            (one.compare two = some .lt ↔ first < second) ∧
              (one.compare two = some .eq ↔ first = second) ∧
              (one.compare two = some .gt ↔ second < first)) := by
  refine ⟨compare_eq_none_iff, compare_swap one two, fun first second => compare_of_integers, ?_⟩
  intro first second stands otherStands
  obtain ⟨units, has, reached, rfl⟩ := exists_position_of_extended? stands
  obtain ⟨other, otherHas, otherReached, rfl⟩ := exists_position_of_extended? otherStands
  rw [compare_eq_lt_iff has otherHas, compare_eq_eq_iff has otherHas,
    compare_eq_gt_iff has otherHas, Format.exact_lt_exact_iff reached otherReached,
    Format.exact_lt_exact_iff otherReached reached, Format.exact_eq_exact_iff reached otherReached]
  refine ⟨lt_of_decisive_lt, lt_of_decisive_lt, fun fits otherFits => ?_⟩
  have own : decisive one two units = units := by
    rw [decisive, settle_of_fitsPrecision fits has, ite_self]
  have otherOwn : decisive one two other = other := by
    rw [decisive, settle_of_fitsPrecision otherFits otherHas, ite_self]
  rw [own, otherOwn]
  exact ⟨Iff.rfl, Iff.rfl, Iff.rfl⟩

end Number

/-- The first of the integers that a floating-point value keeps although not all neighbours are
kept. -/
def Samples.brim : Binary64 :=
  .finite false {
    significand := 2 ^ 52
    exponent := 1075
    fits := by decide
    reaches := by decide
    canonical := by decide }

theorem Samples.compare_keeps_order_brim :
    (Number.unsigned 9007199254740991).compare (.float brim) = some .lt ∧
      (Number.unsigned 9007199254740991).FitsPrecision ∧ (Number.float brim).FitsPrecision ∧
      ∃ first second, (Number.unsigned 9007199254740991).extended? = some first ∧
        (Number.float brim).extended? = some second ∧ first < second ∧
        (Number.unsigned 9007199254740991).compare (.float brim) ≠ some .eq := by
  have less : (Number.unsigned 9007199254740991).compare (.float brim) = some .lt := by
    decide +kernel
  have fits : (Number.unsigned 9007199254740991).FitsPrecision := by
    intro integer whole
    obtain rfl := Option.some.inj whole
    decide
  have otherFits : (Number.float brim).FitsPrecision := by
    intro integer whole
    cases whole
  have law :=
    (Number.compare_keeps_order (.unsigned 9007199254740991) (.float brim)).2.2.2 _ _ rfl rfl
  have ordered := law.1 less
  exact ⟨less, fits, otherFits, _, _, rfl, rfl, ordered,
    fun same => ordered.ne ((law.2.2 fits otherFits).2.1.1 same)⟩

end RecordSearch
