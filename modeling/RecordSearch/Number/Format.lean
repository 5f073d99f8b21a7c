/-!
# Binary formats and rounding

A binary format keeps a fixed number of significant bits and has a finest
unit, `2 ^ (-depth)`.  A magnitude is a significand times a power of two of
such units, written in the one canonical way: only the finest exponent may
have a short significand.

`Format.round` takes an exact quotient to the nearest magnitude, and a tie to
the even significand.
-/

namespace RecordSearch

-- The power of natural numbers is the core operation, whatever other instances are in scope.
attribute [instance (high)] instPowNat

/-- The three sizes that fix a binary format. -/
structure Format where
  /-- The number of bits of a significand. -/
  precision : Nat
  /-- The finest unit of the format is `2 ^ (-depth)`. -/
  depth : Nat
  /-- The greatest exponent, counted from the finest one. -/
  span : Nat
  precise : 0 < precision := by decide
deriving DecidableEq, Repr

namespace Format

def binary64 : Format where
  precision := 53
  depth := 1074
  span := 2045

def binary32 : Format where
  precision := 24
  depth := 149
  span := 253

end Format

/-- A finite value without its sign: `significand * 2 ^ exponent` finest units. -/
structure Magnitude (format : Format) where
  significand : Nat
  exponent : Nat
  fits : significand < 2 ^ format.precision
  reaches : exponent ≤ format.span
  canonical : exponent = 0 ∨ 2 ^ (format.precision - 1) ≤ significand
deriving DecidableEq

namespace Magnitude

variable {format : Format}

def units (magnitude : Magnitude format) : Nat :=
  magnitude.significand * 2 ^ magnitude.exponent

def zero : Magnitude format where
  significand := 0
  exponent := 0
  fits := Nat.two_pow_pos format.precision
  reaches := Nat.zero_le format.span
  canonical := Or.inl rfl

end Magnitude

/-- The integer nearest to a quotient; of two nearest ones the even one. -/
def roundHalfEven (numerator denominator : Nat) : Nat :=
  let quotient := numerator / denominator
  let remainder := numerator % denominator
  if 2 * remainder < denominator then
    quotient
  else if denominator < 2 * remainder then
    quotient + 1
  else if quotient % 2 = 0 then
    quotient
  else
    quotient + 1

theorem le_roundHalfEven (numerator denominator : Nat) :
    numerator / denominator ≤ roundHalfEven numerator denominator := by
  unfold roundHalfEven
  grind

theorem roundHalfEven_le (numerator denominator : Nat) :
    roundHalfEven numerator denominator ≤ numerator / denominator + 1 := by
  unfold roundHalfEven
  grind

namespace Format

/-- The exponent at which a whole number of units has at most `precision` bits. -/
def exponentFor (format : Format) (whole : Nat) : Nat :=
  whole.log2 + 1 - format.precision

theorem div_exponentFor_lt (format : Format) (whole : Nat) :
    whole / 2 ^ format.exponentFor whole < 2 ^ format.precision := by
  rw [Nat.div_lt_iff_lt_mul (Nat.two_pow_pos _), ← Nat.pow_add]
  calc
    whole < 2 ^ (whole.log2 + 1) := Nat.lt_log2_self
    _ ≤ 2 ^ (format.precision + format.exponentFor whole) :=
      Nat.pow_le_pow_right (by decide) (by unfold exponentFor; omega)

theorem le_div_exponentFor (format : Format) (whole : Nat)
    (positive : format.exponentFor whole ≠ 0) :
    2 ^ (format.precision - 1) ≤ whole / 2 ^ format.exponentFor whole := by
  have precise := format.precise
  have nonzero : whole ≠ 0 := by
    intro zero
    subst zero
    exact positive (by simp [exponentFor]; omega)
  rw [Nat.le_div_iff_mul_le (Nat.two_pow_pos _), ← Nat.pow_add]
  calc
    2 ^ (format.precision - 1 + format.exponentFor whole) = 2 ^ whole.log2 := by
      unfold exponentFor at positive ⊢
      congr 1
      omega
    _ ≤ whole := Nat.log2_self_le nonzero

/--
The magnitude nearest to `numerator / denominator`, a tie going to the even
significand.  There is none when the nearest significand would need an
exponent beyond the span.
-/
def round (format : Format) (numerator denominator : Nat) : Option (Magnitude format) :=
  let units := numerator * 2 ^ format.depth
  let whole := units / denominator
  let exponent := format.exponentFor whole
  let significand := roundHalfEven units (denominator * 2 ^ exponent)
  have quotient : units / (denominator * 2 ^ exponent) = whole / 2 ^ exponent :=
    (Nat.div_div_eq_div_mul ..).symm
  have above : whole / 2 ^ exponent ≤ significand :=
    quotient ▸ le_roundHalfEven units (denominator * 2 ^ exponent)
  have below : significand ≤ whole / 2 ^ exponent + 1 :=
    quotient ▸ roundHalfEven_le units (denominator * 2 ^ exponent)
  have short : whole / 2 ^ exponent < 2 ^ format.precision :=
    format.div_exponentFor_lt whole
  have long : exponent ≠ 0 → 2 ^ (format.precision - 1) ≤ whole / 2 ^ exponent :=
    format.le_div_exponentFor whole
  if carry : significand = 2 ^ format.precision then
    if reaches : exponent + 1 ≤ format.span then
      some {
        significand := 2 ^ (format.precision - 1)
        exponent := exponent + 1
        fits := Nat.pow_lt_pow_right (by decide) (Nat.sub_lt format.precise (by decide))
        reaches
        canonical := Or.inr (Nat.le_refl _) }
    else
      none
  else if reaches : exponent ≤ format.span then
    some {
      significand
      exponent
      fits := by omega
      reaches
      canonical := by
        by_cases least : exponent = 0
        · exact Or.inl least
        · exact Or.inr (Nat.le_trans (long least) above) }
  else
    none

end Format

end RecordSearch
