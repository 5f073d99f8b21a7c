import RecordSearch.Text.Ranges

/-!
# Characters as bytes

UTF-8 writes a character as one to four bytes: a leading byte, and behind it
bytes that hold one digit in base 64 each.  The characters of a range are the
byte strings of some sequences of byte ranges, of which there are few because
whole blocks of continuation bytes stay together.
-/

namespace RecordSearch.Text.Utf8

/-- The bytes from the first to the last. -/
abbrev ByteRange := Nat × Nat

/-- The byte strings with one byte from each of the ranges in turn. -/
abbrev Sequence := List ByteRange

/-- The weight of the leading digit before so many digits in base 64. -/
def weight : Nat → Nat
  | 0 => 1
  | digits + 1 => 64 * weight digits

/-- Puts one byte in front of some sequences. -/
def behind (byte : Nat) (sequences : List Sequence) : List Sequence :=
  sequences.map ((byte, byte) :: ·)

/--
The sequences of the numbers from `first` to `last`, written as a leading digit
added to `mark` and so many digits in base 64.  Numbers that share their
leading digit with others outside the range are split off at both ends.
-/
def split (mark : Nat) : Nat → Nat → Nat → List Sequence
  | 0, first, last => [[(mark + first, mark + last)]]
  | digits + 1, first, last =>
      let unit := weight (digits + 1)
      let low := first / unit
      let high := last / unit
      if low = high then
        behind (mark + low) (split 0x80 digits (first % unit) (last % unit))
      else
        let front :=
          if first % unit = 0 then []
          else behind (mark + low) (split 0x80 digits (first % unit) (unit - 1))
        let back :=
          if last % unit = unit - 1 then []
          else behind (mark + high) (split 0x80 digits 0 (last % unit))
        let least := if front.isEmpty then low else low + 1
        let most := if back.isEmpty then high else high - 1
        let middle :=
          if least ≤ most then
            [(mark + least, mark + most) :: List.replicate (digits + 1) (0x80, 0xBF)]
          else
            []
        front ++ middle ++ back

/-- A block of characters whose leading bytes have one mark and which have equally many bytes. -/
structure Form where
  first : Nat
  last : Nat
  mark : Nat
  digits : Nat
deriving DecidableEq, Repr

/-- The blocks of all characters; the surrogates, which are none, lie between two of them. -/
def forms : List Form :=
  [⟨0x0, 0x7F, 0x0, 0⟩, ⟨0x80, 0x7FF, 0xC0, 1⟩, ⟨0x800, 0xD7FF, 0xE0, 2⟩,
  ⟨0xE000, 0xFFFF, 0xE0, 2⟩, ⟨0x10000, 0x10FFFF, 0xF0, 3⟩]

/-- The sequences of the characters of a block that lie in a range. -/
def Form.sequences (form : Form) (range : Nat × Nat) : List Sequence :=
  let first := max range.1 form.first
  let last := min range.2 form.last
  if first ≤ last then split form.mark form.digits first last else []

/-- The sequences of the characters in some ranges, increasing if the ranges are. -/
def sequences (ranges : Ranges) : List Sequence :=
  ranges.flatMap fun range => forms.flatMap fun form => form.sequences range

/-- What may follow each first range, for sequences of which those with one first range are
neighbours. -/
def branches : List Sequence → List (ByteRange × List Sequence)
  | [] => []
  | [] :: sequences => branches sequences
  | (range :: rest) :: sequences =>
      match branches sequences with
      | [] => [(range, [rest])]
      | (other, rests) :: others =>
          if other = range then
            (range, rest :: rests) :: others
          else
            (range, [rest]) :: (other, rests) :: others

/-- What may follow each way to begin a sequence and not to end it, down to a depth. -/
def stages : Nat → List Sequence → List (List Sequence)
  | 0, _ => []
  | depth + 1, sequences =>
      if sequences.all List.isEmpty then
        []
      else
        sequences :: (branches sequences).flatMap fun branch => stages depth branch.2

end RecordSearch.Text.Utf8
