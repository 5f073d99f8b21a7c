import RecordSearch.Number.Binary
import RecordSearch.Text.Basic

/-!
# Decimal numerals

The numerals of the query language.  An integer numeral is an optional sign
and at least one digit.  A decimal numeral is an optional sign and either a
word for infinity or for the value that is not a number, or digits with an
optional point among or around them and an optional power of ten.
-/

namespace RecordSearch

/-- The value `coefficient * 10 ^ exponent`. -/
structure Decimal where
  coefficient : Nat
  exponent : Int
deriving DecidableEq, Repr

namespace Decimal

/-- The number of digits of the coefficient. -/
def width (decimal : Decimal) : Nat :=
  (Nat.toDigits 10 decimal.coefficient).length

/--
The nearest value of a binary format.  A decimal whose first digit stands
beyond the span or below the depth of the format is settled at once: `10` is
greater than `2`, so it is out of reach or nearest to zero.
-/
def toBinary {format : Format} (negative : Bool) (decimal : Decimal) : Binary format :=
  let lead := decimal.exponent + decimal.width
  if decimal.coefficient = 0 ∨ lead < -(format.depth : Int) then
    .finite negative Magnitude.zero
  else if (format.precision + format.span : Nat) < lead then
    .infinity negative
  else if 0 ≤ decimal.exponent then
    Binary.ofQuotient negative (decimal.coefficient * 10 ^ decimal.exponent.toNat) 1
  else
    Binary.ofQuotient negative decimal.coefficient (10 ^ (-decimal.exponent).toNat)

end Decimal

namespace Numeral

/-- Takes a sign off a text; without one the numeral is positive. -/
def takeSign : Text → Bool × Text
  | '-' :: rest => (true, rest)
  | '+' :: rest => (false, rest)
  | text => (false, text)

def digitsValue (digits : Text) : Nat :=
  Nat.ofDigitChars 10 digits 0

def readInteger (text : Text) : Option Int :=
  let (negative, digits) := takeSign text
  if digits ≠ [] ∧ digits.all Char.isDigit then
    some (Binary.signed negative (digitsValue digits))
  else
    none

/-- Reads the power of ten at the end of a decimal numeral. -/
def readPower : Text → Option Int
  | [] => some 0
  | mark :: rest =>
      if mark = 'e' ∨ mark = 'E' then readInteger rest else none

/-- Reads the digits, the point and the power of an unsigned decimal numeral. -/
def readDecimal (text : Text) : Option Decimal := do
  let whole := text.takeWhile Char.isDigit
  let rest := text.dropWhile Char.isDigit
  let (fraction, rest) :=
    match rest with
    | '.' :: rest => (rest.takeWhile Char.isDigit, rest.dropWhile Char.isDigit)
    | rest => ([], rest)
  guard (whole ++ fraction ≠ [])
  let power ← readPower rest
  return ⟨digitsValue (whole ++ fraction), power - fraction.length⟩

def readBinary {format : Format} (text : Text) : Option (Binary format) :=
  let (negative, body) := takeSign text
  let word := body.map Char.toLower
  if word = "inf".toList ∨ word = "infinity".toList then
    some (.infinity negative)
  else if word = "nan".toList then
    some .nan
  else
    (readDecimal body).map (Decimal.toBinary negative)

end Numeral

end RecordSearch
