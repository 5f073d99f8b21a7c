import RecordSearch.Number.Format

/-!
# Floating-point values

The values of a binary format: the finite ones with a sign, the two
infinities, and the value that is not a number.  The order is read off an
exact count of finest units, in which an infinity stands where the first
magnitude out of reach would stand.
-/

namespace RecordSearch

inductive Binary (format : Format)
  | nan
  | infinity (negative : Bool)
  | finite (negative : Bool) (magnitude : Magnitude format)
deriving DecidableEq

namespace Binary

variable {format : Format}

def signed (negative : Bool) (amount : Nat) : Int :=
  if negative then -(amount : Int) else amount

/-- The value in finest units, unless it is not a number. -/
def units? : Binary format → Option Int
  | .nan => none
  | .infinity negative => some (signed negative (2 ^ (format.precision + format.span)))
  | .finite negative magnitude => some (signed negative magnitude.units)

/-- The order of two values; nothing is known about a value that is not a number. -/
def compare (left right : Binary format) : Option Ordering := do
  let leftUnits ← left.units?
  let rightUnits ← right.units?
  return Ord.compare leftUnits rightUnits

/-- The nearest value to a signed quotient, infinite where the magnitudes end. -/
def ofQuotient (negative : Bool) (numerator denominator : Nat) : Binary format :=
  match format.round numerator denominator with
  | some magnitude => .finite negative magnitude
  | none => .infinity negative

def ofInt (integer : Int) : Binary format :=
  ofQuotient (integer < 0) integer.natAbs 1

def convert {target : Format} : Binary format → Binary target
  | .nan => .nan
  | .infinity negative => .infinity negative
  | .finite negative magnitude =>
      ofQuotient negative magnitude.units (2 ^ format.depth)

end Binary

abbrev Binary64 := Binary Format.binary64

abbrev Binary32 := Binary Format.binary32

end RecordSearch
