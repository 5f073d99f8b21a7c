import RecordSearch.Proofs.Numerals

/-!
# Integer literals

An integer is compared with an integer literal of any length as integers are, except where the
literal lies just outside the integers of 64 bits and the value just inside: such a literal is kept
as the nearest floating-point value, which is that of the outermost integers as well, and the two
are taken for equal.
-/

namespace RecordSearch

namespace Number

variable {amount : Number} {value literal : Int}

/-- A literal beyond 64 bits and a value within them with one nearest floating-point value. -/
def Blurred (value literal : Int) : Prop :=
  2 ^ 64 ≤ literal ∧ literal ≤ 2 ^ 64 + 2 ^ 11 ∧ 2 ^ 64 - 2 ^ 10 ≤ value ∨
    literal < -2 ^ 63 ∧ -2 ^ 63 - 2 ^ 10 ≤ literal ∧ value ≤ -2 ^ 63 + 2 ^ 9

instance : DecidableRel Blurred := fun _ _ =>
  inferInstanceAs (Decidable (_ ∧ _ ∧ _ ∨ _ ∧ _ ∧ _))

/-- What the value is taken for when it is compared with the literal. -/
def taken (value literal : Int) : Int :=
  if Blurred value literal then literal else value

/-- The nearest floating-point value to an integer, in finest units. -/
def nearest (integer : Int) : Int :=
  Format.binary64.roundedUnits integer 1

theorem nearest_mono {integer other : Int} (ordered : integer ≤ other) :
    nearest integer ≤ nearest other :=
  Format.roundedUnits_mono Nat.one_pos Nat.one_pos (by simpa using ordered)

/-- The integers from `low` to `high`, and no others, have the nearest value of `middle`. -/
structure Plateau (low middle high : Int) : Prop where
  below : nearest (low - 1) < nearest middle
  atLow : nearest low = nearest middle
  atHigh : nearest high = nearest middle
  above : nearest middle < nearest (high + 1)

theorem plateau_beyond_greatest : Plateau (2 ^ 64 - 2 ^ 10) (2 ^ 64) (2 ^ 64 + 2 ^ 11) := by
  constructor <;> decide +kernel

theorem plateau_beyond_least : Plateau (-2 ^ 63 - 2 ^ 10) (-2 ^ 63) (-2 ^ 63 + 2 ^ 9) := by
  constructor <;> decide +kernel

theorem Plateau.nearest_eq_iff {low middle high lesser greater : Int}
    (plateau : Plateau low middle high) (upTo : lesser ≤ middle) (onFrom : middle ≤ greater) :
    nearest lesser = nearest greater ↔ low ≤ lesser ∧ greater ≤ high := by
  have lower := nearest_mono upTo
  have upper := nearest_mono onFrom
  constructor
  · intro same
    constructor
    · by_contra outside
      have least := nearest_mono (show lesser ≤ low - 1 by omega)
      have below := plateau.below
      omega
    · by_contra outside
      have greatest := nearest_mono (show high + 1 ≤ greater by omega)
      have above := plateau.above
      omega
  · rintro ⟨inside, within⟩
    have least := nearest_mono inside
    have greatest := nearest_mono within
    rw [plateau.atLow] at least
    rw [plateau.atHigh] at greatest
    omega

theorem nearest_eq_iff_blurred (within : -2 ^ 63 ≤ value ∧ value < 2 ^ 64)
    (outside : literal < -2 ^ 63 ∨ 2 ^ 64 ≤ literal) :
    nearest value = nearest literal ↔ Blurred value literal := by
  unfold Blurred
  rcases outside with small | great
  · rw [eq_comm, plateau_beyond_least.nearest_eq_iff small.le within.1]
    omega
  · rw [plateau_beyond_greatest.nearest_eq_iff within.2.le great]
    omega

/-- Beyond the integers of 64 bits, the nearest values decide. -/
theorem compare_nearest (within : -2 ^ 63 ≤ value ∧ value < 2 ^ 64)
    (outside : literal < -2 ^ 63 ∨ 2 ^ 64 ≤ literal) :
    Ord.compare (nearest value) (nearest literal) = Ord.compare (taken value literal) literal := by
  have same := nearest_eq_iff_blurred within outside
  by_cases blurred : Blurred value literal
  · rw [taken, if_pos blurred, Int.compare_eq_eq.2 rfl, Int.compare_eq_eq]
    exact same.2 blurred
  · rw [taken, if_neg blurred]
    have apart : nearest value ≠ nearest literal := mt same.1 blurred
    rcases outside with small | great
    · have greater : literal < value := by omega
      rw [Int.compare_eq_gt.2 greater, Int.compare_eq_gt]
      exact (nearest_mono greater.le).lt_of_ne apart.symm
    · have less : value < literal := by omega
      rw [Int.compare_eq_lt.2 less, Int.compare_eq_lt]
      exact (nearest_mono less.le).lt_of_ne apart

theorem taken_eq_self (within : -2 ^ 63 ≤ literal ∧ literal < 2 ^ 64) :
    taken value literal = value := by
  rw [taken, if_neg]
  unfold Blurred
  omega

end Number

namespace Matcher

variable {comparison : Comparison} {mark numeral : Text} {amount : Number} {value literal : Int}

/-- An integer literal of any length compares integers as integers are compared, but for the values
that are taken for a literal next to them beyond 64 bits. -/
theorem integer_literal_compares [PropertyTable] (written : mark ∈ comparison.spellings)
    (denotes : Numeral.Denotes numeral literal) (whole : amount.integer? = some value) :
    ∃ matcher, compile .number (mark ++ numeral) = some matcher ∧
      (matcher.accepts (.number amount) = true ↔
        comparison.Relates (Number.taken value literal) literal) := by
  obtain ⟨bound, stands, units, kept⟩ := Number.exists_read_of_denotes denotes
  refine ⟨.compared comparison bound,
    compile_number written (Comparison.clear_of_denotes denotes) stands, ?_⟩
  have within := Number.integer_bounds whole
  rw [← Comparison.accepts_compare_iff]
  rcases kept with exact | ⟨broken, outside⟩
  · rw [accepts_compared (Number.compare_of_integers whole exact),
      Number.taken_eq_self (Number.integer_bounds exact)]
  · have valueUnits : amount.toBinary.units? = some (Number.nearest value) := by
      rw [Number.units?_toBinary (Number.position?_of_integer whole), Format.settle_integer]
      rfl
    have compared : amount.compare bound =
        some (Ord.compare (Number.nearest value) (Number.nearest literal)) := by
      rw [Number.compare_of_not_isInteger (by rw [broken, Bool.and_false])]
      exact Binary.compare_of_units valueUnits units
    rw [accepts_compared compared, Number.compare_nearest within outside]

end Matcher

namespace Samples

/-- The greatest integer of 64 bits is not below the integer just behind it, as the literal for this
one is read. -/
theorem integer_literal_compares_just_beyond :
    ['<'] ∈ Comparison.less.spellings ∧
      Numeral.Denotes "18446744073709551616".toList 18446744073709551616 ∧
      (Number.unsigned 18446744073709551615).integer? = some 18446744073709551615 ∧
      ∃ matcher, Matcher.compile .number "<18446744073709551616".toList = some matcher ∧
        matcher.accepts (.number (.unsigned 18446744073709551615)) = false := by
  have denotes : Numeral.Denotes "18446744073709551616".toList 18446744073709551616 :=
    .intro .none (by decide) (by decide)
  have written : ['<'] ∈ Comparison.less.spellings := by decide
  obtain ⟨matcher, compiled, law⟩ :=
    Matcher.integer_literal_compares written denotes
      (show (Number.unsigned 18446744073709551615).integer? = some 18446744073709551615 from rfl)
  refine ⟨written, denotes, rfl, matcher, compiled, Bool.eq_false_iff.2 fun accepted => ?_⟩
  have related := law.1 accepted
  revert related
  decide

/-- The greatest integer of 64 bits is found by the literal for the integer just behind it. -/
theorem greatest_found_by_next :
    Numeral.Denotes "18446744073709551616".toList 18446744073709551616 ∧
      (Number.unsigned 18446744073709551615).integer? = some 18446744073709551615 ∧
      (Matcher.compile .number "18446744073709551616".toList).any
        (·.accepts (.number (.unsigned 18446744073709551615))) = true := by
  refine ⟨.intro .none (by decide) (by decide), rfl, ?_⟩
  decide +kernel

end Samples

end RecordSearch
