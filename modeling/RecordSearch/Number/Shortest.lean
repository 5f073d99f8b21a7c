import RecordSearch.Number.Decimal

/-!
# The shortest decimal that reads back

Every value of a binary format is the nearest one to an interval of reals.
Among the decimals of that interval those with the fewest digits are the
shortest, and the one nearest to the value is chosen, the upper one of two
equally near.

All comparisons are made in whole numbers.  The value and the ends of its
interval are counted in quarters of the finest unit, and both are scaled by a
power of ten that is larger than any digit position in use.
-/

namespace RecordSearch

namespace Magnitude

variable {format : Format}

/-- The interval of reals nearest to a magnitude, in quarters of the finest unit. -/
structure Interval where
  lower : Nat
  upper : Nat
  closed : Bool
deriving DecidableEq, Repr

/-- The interval in which every real is nearest to this magnitude. -/
def interval (magnitude : Magnitude format) : Interval :=
  let power := 2 ^ magnitude.exponent
  let gap :=
    if magnitude.significand = 2 ^ (format.precision - 1) ∧ magnitude.exponent ≠ 0 then 1 else 2
  { lower := (4 * magnitude.significand - gap) * power
    upper := (4 * magnitude.significand + 2) * power
    closed := magnitude.significand % 2 = 0 }

/-- Whether a count of scaled quarters lies in the interval. -/
def Interval.contains (interval : Interval) (scale quarters : Nat) : Bool :=
  if interval.closed then
    interval.lower * scale ≤ quarters && quarters ≤ interval.upper * scale
  else
    interval.lower * scale < quarters && quarters < interval.upper * scale

/-- The power of ten by which digit positions are scaled. -/
def scaleExponent (format : Format) : Nat :=
  format.depth + 20

/--
The decimal with `count` digits that reads back as the magnitude, if there is
one.  The two candidates are the neighbours of the value on the grid of that
many digits.
-/
def decimalOf? (magnitude : Magnitude format) (count : Nat) : Option Decimal :=
  let scale := 10 ^ scaleExponent format
  let whole := magnitude.units * scale / 2 ^ format.depth
  let place := (Nat.toDigits 10 whole).length - count
  let low := whole / 10 ^ place
  let quartersOf (candidate : Nat) := candidate * 10 ^ place * 2 ^ format.depth * 4
  let value := magnitude.units * 4 * scale
  let fits (candidate : Nat) := magnitude.interval.contains scale (quartersOf candidate)
  let nearer := value - quartersOf low < quartersOf (low + 1) - value
  let exponent := (place : Int) - scaleExponent format
  if fits low ∧ (nearer ∨ ¬ fits (low + 1)) then
    some ⟨low, exponent⟩
  else if fits (low + 1) then
    some ⟨low + 1, exponent⟩
  else
    none

def shortest (magnitude : Magnitude format) : Decimal :=
  ((List.range format.precision).findSome? fun count =>
    magnitude.decimalOf? (count + 1)).getD ⟨0, 0⟩

end Magnitude

namespace Decimal

/-- The digits before the point and the digits behind it. -/
def places (decimal : Decimal) : Text × Text :=
  let digits := Nat.toDigits 10 decimal.coefficient
  match decimal.exponent with
  | .ofNat zeros => (digits ++ List.replicate zeros '0', [])
  | .negSucc count =>
      let count := count + 1
      let padded := List.replicate (count + 1 - digits.length) '0' ++ digits
      (padded.take (padded.length - count), padded.drop (padded.length - count))

/-- Positional digits: no exponent, and no zeros at the end of a fraction. -/
def render (decimal : Decimal) : Text :=
  let (whole, fraction) := decimal.places
  let fraction := (fraction.reverse.dropWhile (· == '0')).reverse
  if fraction = [] then whole else whole ++ ['.'] ++ fraction

end Decimal

namespace Binary

variable {format : Format}

def signText (negative : Bool) : Text :=
  if negative then ['-'] else []

/-- A value as positional digits; zero keeps its sign. -/
def render : Binary format → Text
  | .nan => "NaN".toList
  | .infinity negative => signText negative ++ "inf".toList
  | .finite negative magnitude =>
      signText negative ++
        if magnitude.significand = 0 then ['0'] else magnitude.shortest.render

end Binary

end RecordSearch
