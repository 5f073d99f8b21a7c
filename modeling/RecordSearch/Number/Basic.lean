import RecordSearch.Number.Shortest

/-!
# Numbers

A numeric value keeps the kind it came with, so that integers of 64 bits lose
nothing.  Integers of either kind are compared as integers; as soon as a
floating-point value takes part, both sides are compared as such values.
-/

namespace RecordSearch

/-- A numeric value: a signed or unsigned integer of 64 bits, or a floating-point value. -/
inductive Number
  | signed (integer : Int64)
  | unsigned (integer : UInt64)
  | float (value : Binary64)
deriving DecidableEq

namespace Number

/-- The mathematical integer of a number that is kept as one. -/
def integer? : Number → Option Int
  | .signed integer => some integer.toInt
  | .unsigned integer => some integer.toNat
  | .float _ => none

def toBinary : Number → Binary64
  | .signed integer => .ofInt integer.toInt
  | .unsigned integer => .ofInt integer.toNat
  | .float value => value

/-- The order of two numbers; nothing is known about a value that is not a number. -/
def compare (left right : Number) : Option Ordering :=
  match left.integer?, right.integer? with
  | some left, some right => some (Ord.compare left right)
  | _, _ => left.toBinary.compare right.toBinary

/-- Whether two numbers are of one kind and equal.  The two zeros are equal, and a
value that is not a number equals nothing. -/
def same : Number → Number → Bool
  | .signed left, .signed right => left == right
  | .unsigned left, .unsigned right => left == right
  | .float left, .float right => left.compare right == some .eq
  | _, _ => false

/-- The decimal digits of an integer, after a minus sign if it is negative. -/
def integerText (integer : Int) : Text :=
  Binary.signText (integer < 0) ++ Nat.toDigits 10 integer.natAbs

def render : Number → Text
  | .signed integer => integerText integer.toInt
  | .unsigned integer => integerText integer.toNat
  | .float value => value.render

def ofInteger? (integer : Int) : Option Number :=
  if Int64.minValue.toInt ≤ integer ∧ integer ≤ Int64.maxValue.toInt then
    some (.signed (Int64.ofInt integer))
  else if 0 ≤ integer ∧ integer < UInt64.size then
    some (.unsigned (UInt64.ofNat integer.toNat))
  else
    none

/--
The number that a text denotes: an integer as long as one of 64 bits can hold
it, else the nearest floating-point value.
-/
def read (text : Text) : Option Number :=
  match (Numeral.readInteger text).bind ofInteger? with
  | some number => some number
  | none =>
      match (Numeral.readBinary text : Option Binary64) with
      | none | some .nan => none
      | some value => some (.float value)

end Number

end RecordSearch
