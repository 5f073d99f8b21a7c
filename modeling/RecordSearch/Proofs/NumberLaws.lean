import RecordSearch.Proofs.NumberOrder

/-!
# Laws of the order of numbers

Less is transitive, and equal numbers compare as equal.  At most is passed on, and only equal
numbers lie between equal ends, except where two different integers have one nearest value and the
third number is this value.
-/

namespace RecordSearch

namespace Number

variable {one two three : Number} {first second third : Int}

/-- Whether a number is known to be at most another one. -/
def atMost (one two : Number) : Bool :=
  (one.compare two).any Ordering.isLE

/-- Both numbers are integers, and the first one is less. -/
def LessInteger (one two : Number) : Prop :=
  ∃ first second, one.integer? = some first ∧ two.integer? = some second ∧ first < second

/-- Whether two numbers are kept in the same way. -/
def sameKind : Number → Number → Bool
  | .signed _, .signed _ => true
  | .unsigned _, .unsigned _ => true
  | .float _, .float _ => true
  | _, _ => false

theorem exists_positions {order : Ordering} (known : one.compare two = some order) :
    ∃ first second, one.position? = some first ∧ two.position? = some second := by
  have numbers : ¬(one = .float .nan ∨ two = .float .nan) := by
    rw [← compare_eq_none_iff, known]
    exact Option.some_ne_none _
  rw [not_or, ← position?_eq_none_iff, ← position?_eq_none_iff] at numbers
  obtain ⟨first, stands⟩ := Option.ne_none_iff_exists'.1 numbers.1
  obtain ⟨second, otherStands⟩ := Option.ne_none_iff_exists'.1 numbers.2
  exact ⟨first, second, stands, otherStands⟩

theorem exists_compare_of_atMost (known : one.atMost two = true) :
    ∃ order, one.compare two = some order := by
  rw [atMost, Option.any_eq_true] at known
  obtain ⟨order, found, -⟩ := known
  exact ⟨order, found⟩

theorem atMost_iff (stands : one.position? = some first)
    (otherStands : two.position? = some second) :
    one.atMost two = true ↔ decisive one two first ≤ decisive one two second := by
  have greater := compare_eq_gt_iff stands otherStands
  rw [← Int.not_lt, ← greater, atMost, compare_eq stands otherStands, Option.any_some]
  cases Ord.compare (decisive one two first) (decisive one two second) <;> decide

theorem lessInteger_iff (stands : one.position? = some first)
    (otherStands : two.position? = some second) :
    one.LessInteger two ↔ (one.isInteger && two.isInteger) = true ∧ first < second := by
  have positive : (0 : Int) < (2 ^ Format.binary64.depth : Nat) := by
    exact_mod_cast Nat.two_pow_pos Format.binary64.depth
  constructor
  · rintro ⟨integer, other, whole, otherWhole, less⟩
    rw [position?_of_integer whole] at stands
    rw [position?_of_integer otherWhole] at otherStands
    obtain rfl := Option.some.inj stands
    obtain rfl := Option.some.inj otherStands
    refine ⟨?_, Int.mul_lt_mul_of_pos_right less positive⟩
    rw [isInteger, isInteger, whole, otherWhole]
    rfl
  · rintro ⟨whole, less⟩
    rw [Bool.and_eq_true] at whole
    obtain ⟨integer, kept⟩ := Option.isSome_iff_exists.1 whole.1
    obtain ⟨other, otherKept⟩ := Option.isSome_iff_exists.1 whole.2
    rw [position?_of_integer kept] at stands
    rw [position?_of_integer otherKept] at otherStands
    obtain rfl := Option.some.inj stands
    obtain rfl := Option.some.inj otherStands
    exact ⟨integer, other, kept, otherKept, Int.lt_of_mul_lt_mul_right less positive.le⟩

theorem compare_eq_eq_of_same (same : one.same two = true) : one.compare two = some .eq := by
  cases one with
  | signed integer =>
      cases two with
      | signed other =>
          rw [eq_of_beq same]
          exact congrArg some (Int.compare_eq_eq.2 rfl)
      | unsigned other => cases same
      | float other => cases same
  | unsigned integer =>
      cases two with
      | signed other => cases same
      | unsigned other =>
          rw [eq_of_beq same]
          exact congrArg some (Int.compare_eq_eq.2 rfl)
      | float other => cases same
  | float value =>
      cases two with
      | signed other => cases same
      | unsigned other => cases same
      | float other => exact eq_of_beq same

/-- Numbers that compare as equal are equal if they are kept in the same way. -/
theorem same_of_compare_eq_eq (alike : one.sameKind two = true)
    (equal : one.compare two = some .eq) : one.same two = true := by
  cases one with
  | signed integer =>
      cases two with
      | signed other =>
          have values := Int.compare_eq_eq.1 (Option.some.inj equal)
          exact beq_iff_eq.2 (Int64.toInt_inj.1 values)
      | unsigned other => cases alike
      | float other => cases alike
  | unsigned integer =>
      cases two with
      | signed other => cases alike
      | unsigned other =>
          have values := Int.compare_eq_eq.1 (Option.some.inj equal)
          exact beq_iff_eq.2 (UInt64.toNat_inj.1 (Int.ofNat.inj values))
      | float other => cases alike
  | float value =>
      cases two with
      | signed other => cases alike
      | unsigned other => cases alike
      | float other => exact beq_iff_eq.2 equal

theorem compare_lt_trans (less : one.compare two = some .lt)
    (further : two.compare three = some .lt) : one.compare three = some .lt := by
  obtain ⟨first, second, stands, otherStands⟩ := exists_positions less
  obtain ⟨_, third, _, lastStands⟩ := exists_positions further
  rw [compare_eq_lt_iff stands otherStands] at less
  rw [compare_eq_lt_iff otherStands lastStands] at further
  rw [compare_eq_lt_iff stands lastStands]
  have rises := lt_of_decisive_lt less
  have risesFurther := lt_of_decisive_lt further
  cases whole : one.isInteger && three.isInteger with
  | true =>
      rw [decisive_of_integers whole, decisive_of_integers whole]
      omega
  | false =>
      rw [decisive_of_not_integers whole, decisive_of_not_integers whole]
      rcases Bool.and_eq_false_iff.1 whole with broken | broken
      · have firstBroken : (one.isInteger && two.isInteger) = false := by
          rw [broken, Bool.false_and]
        rw [decisive_of_not_integers firstBroken, decisive_of_not_integers firstBroken] at less
        exact Int.lt_of_lt_of_le less (Format.settle_mono risesFurther.le)
      · have lastBroken : (two.isInteger && three.isInteger) = false := by
          rw [broken, Bool.and_false]
        rw [decisive_of_not_integers lastBroken, decisive_of_not_integers lastBroken] at further
        exact Int.lt_of_le_of_lt (Format.settle_mono rises.le) further

/-- At most is passed on but from one integer over a floating-point value to a smaller integer. -/
theorem atMost_iff_of_atMost (below : one.atMost two = true) (further : two.atMost three = true) :
    one.atMost three = true ↔ ¬(two.isInteger = false ∧ three.LessInteger one) := by
  obtain ⟨_, known⟩ := exists_compare_of_atMost below
  obtain ⟨_, knownFurther⟩ := exists_compare_of_atMost further
  obtain ⟨first, second, stands, otherStands⟩ := exists_positions known
  obtain ⟨_, third, _, lastStands⟩ := exists_positions knownFurther
  rw [atMost_iff stands otherStands] at below
  rw [atMost_iff otherStands lastStands] at further
  rw [atMost_iff stands lastStands, lessInteger_iff lastStands stands, Bool.and_comm]
  cases whole : one.isInteger && three.isInteger with
  | false =>
      rw [decisive_of_not_integers whole, decisive_of_not_integers whole]
      have rises := Int.le_trans (settle_le_of_decisive_le below) (settle_le_of_decisive_le further)
      exact iff_of_true rises fun except => Bool.false_ne_true except.2.1
  | true =>
      rw [decisive_of_integers whole, decisive_of_integers whole]
      cases middle : two.isInteger with
      | false =>
          simp only [true_and, Int.not_lt]
      | true =>
          obtain ⟨firstWhole, lastWhole⟩ := Bool.and_eq_true_iff.1 whole
          have front : (one.isInteger && two.isInteger) = true := by rw [firstWhole, middle]; rfl
          have back : (two.isInteger && three.isInteger) = true := by rw [middle, lastWhole]; rfl
          rw [decisive_of_integers front, decisive_of_integers front] at below
          rw [decisive_of_integers back, decisive_of_integers back] at further
          exact iff_of_true (Int.le_trans below further)
            fun except => Bool.false_ne_true except.1.symm

/-- Two numbers with one nearest value compare as equal but for different integers, which only a
floating-point value beside them takes for equal. -/
theorem compare_eq_eq_iff_of_settled (stands : one.position? = some first)
    (otherStands : two.position? = some second)
    (below : decisive one two first ≤ decisive one two second)
    (settled : Format.binary64.settle first = Format.binary64.settle second)
    (told : three.isInteger = true → (one.isInteger && two.isInteger) = true → first = second) :
    one.compare two = some .eq ↔ ¬(three.isInteger = false ∧ one.LessInteger two) := by
  rw [compare_eq_eq_iff stands otherStands, lessInteger_iff stands otherStands]
  cases whole : one.isInteger && two.isInteger with
  | false =>
      rw [decisive_of_not_integers whole, decisive_of_not_integers whole]
      exact iff_of_true settled fun except => Bool.false_ne_true except.2.1
  | true =>
      rw [decisive_of_integers whole, decisive_of_integers whole] at below ⊢
      cases beside : three.isInteger with
      | false =>
          simp only [true_and]
          omega
      | true => exact iff_of_true (told beside whole) fun except => Bool.false_ne_true except.1.symm

/-- Between equal ends, only two integers that differ below a floating-point value are not equal. -/
theorem compare_eq_eq_iff_of_ends (below : one.atMost two = true)
    (further : two.atMost three = true) (ends : one.compare three = some .eq) :
    (one.compare two = some .eq ↔ ¬(three.isInteger = false ∧ one.LessInteger two)) ∧
      (two.compare three = some .eq ↔ ¬(one.isInteger = false ∧ two.LessInteger three)) := by
  obtain ⟨_, known⟩ := exists_compare_of_atMost below
  obtain ⟨_, knownFurther⟩ := exists_compare_of_atMost further
  obtain ⟨first, second, stands, otherStands⟩ := exists_positions known
  obtain ⟨_, third, _, lastStands⟩ := exists_positions knownFurther
  rw [atMost_iff stands otherStands] at below
  rw [atMost_iff otherStands lastStands] at further
  rw [compare_eq_eq_iff stands lastStands] at ends
  have rises := settle_le_of_decisive_le below
  have risesFurther := settle_le_of_decisive_le further
  have falls := settle_le_of_decisive_le ends.ge
  have integers (front : (one.isInteger && two.isInteger) = true)
      (back : (two.isInteger && three.isInteger) = true) : first = second ∧ second = third := by
    have outer : (one.isInteger && three.isInteger) = true := by
      rw [(Bool.and_eq_true_iff.1 front).1, (Bool.and_eq_true_iff.1 back).2]
      rfl
    rw [decisive_of_integers front, decisive_of_integers front] at below
    rw [decisive_of_integers back, decisive_of_integers back] at further
    rw [decisive_of_integers outer, decisive_of_integers outer] at ends
    omega
  refine ⟨compare_eq_eq_iff_of_settled stands otherStands below (by omega) fun last front => ?_,
    compare_eq_eq_iff_of_settled otherStands lastStands further (by omega) fun start back => ?_⟩
  · refine (integers front ?_).1
    rw [(Bool.and_eq_true_iff.1 front).2, last]
    rfl
  · refine (integers ?_ back).2
    rw [start, (Bool.and_eq_true_iff.1 back).1]
    rfl

/-- The laws of the order of numbers.  Less is transitive.  At most is passed on, and only equal
numbers lie between equal ends, but where two different integers have one nearest value and the
third number is this value.  Equal numbers compare as equal, and numbers of one kind that compare
as equal are equal. -/
theorem compare_laws (one two three : Number) :
    (one.compare two = some .lt → two.compare three = some .lt → one.compare three = some .lt) ∧
      (one.atMost two = true → two.atMost three = true →
        (one.atMost three = true ↔ ¬(two.isInteger = false ∧ three.LessInteger one)) ∧
          (one.compare three = some .eq →
            (one.compare two = some .eq ↔ ¬(three.isInteger = false ∧ one.LessInteger two)) ∧
              (two.compare three = some .eq ↔ ¬(one.isInteger = false ∧ two.LessInteger three)))) ∧
      (one.same two = true → one.compare two = some .eq) ∧
      (one.sameKind two = true → one.compare two = some .eq → one.same two = true) :=
  ⟨compare_lt_trans,
    fun below further =>
      ⟨atMost_iff_of_atMost below further, compare_eq_eq_iff_of_ends below further⟩,
    compare_eq_eq_of_same, same_of_compare_eq_eq⟩

end Number

namespace Samples

theorem compare_laws_brim :
    (Number.float brim).atMost (.unsigned 9007199254740992) = true ∧
      (Number.unsigned 9007199254740992).atMost (.unsigned 9007199254740993) = true ∧
      (Number.float brim).atMost (.unsigned 9007199254740993) = true ∧
      (Number.float brim).compare (.unsigned 9007199254740993) = some .eq ∧
      (Number.float brim).compare (.unsigned 9007199254740992) = some .eq ∧
      (Number.unsigned 9007199254740992).compare (.unsigned 9007199254740993) ≠ some .eq := by
  have below : (Number.float brim).atMost (.unsigned 9007199254740992) = true := by decide +kernel
  have further : (Number.unsigned 9007199254740992).atMost (.unsigned 9007199254740993) = true := by
    decide +kernel
  have ends : (Number.float brim).compare (.unsigned 9007199254740993) = some .eq := by
    decide +kernel
  obtain ⟨passed, between⟩ := (Number.compare_laws (.float brim) (.unsigned 9007199254740992)
    (.unsigned 9007199254740993)).2.1 below further
  have apart : (Number.unsigned 9007199254740992).LessInteger (.unsigned 9007199254740993) :=
    ⟨9007199254740992, 9007199254740993, rfl, rfl, by decide⟩
  exact ⟨below, further, passed.2 fun except => Bool.false_ne_true except.1.symm, ends,
    (between ends).1.2 fun except => Bool.false_ne_true except.1.symm,
    fun equal => (between ends).2.1 equal ⟨rfl, apart⟩⟩

/-- Two integers about a floating-point value that both compare as equal to it, and an integer kept
in two ways. -/
theorem integers_blurred_by_brim :
    (Number.unsigned 9007199254740993).atMost (.float brim) = true ∧
      (Number.float brim).atMost (.unsigned 9007199254740992) = true ∧
      (Number.unsigned 9007199254740993).atMost (.unsigned 9007199254740992) = false ∧
      (Number.float brim).compare (.unsigned 9007199254740992) = some .eq ∧
      (Number.unsigned 9007199254740992).compare (.unsigned 9007199254740993) = some .lt ∧
      (Number.float brim).compare (.unsigned 9007199254740993) = some .eq ∧
      (Number.signed 5).compare (.unsigned 5) = some .eq ∧
      (Number.signed 5).same (.unsigned 5) = false := by
  decide +kernel

end Samples

end RecordSearch
