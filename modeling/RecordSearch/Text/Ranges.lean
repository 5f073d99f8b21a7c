/-!
# Classes and shifts of characters

A class of characters is a list of code point ranges.  Ranges are normal when
they are increasing and no two of them touch; a class has one normal list.  A
shift moves every `stride`-th code point of a range by one signed offset, which
is how case tables relate a letter to its partner.
-/

namespace RecordSearch.Text

/-- Code point ranges, each with its first and its last member. -/
abbrev Ranges := List (Nat × Nat)

namespace Ranges

def covers (ranges : Ranges) (code : Nat) : Bool :=
  ranges.any fun range => range.1 ≤ code && code ≤ range.2

def has (ranges : Ranges) (character : Char) : Bool :=
  ranges.covers character.toNat

def lastCode : Nat := 0x10FFFF

/-- Joins ranges that begin in increasing order where they overlap or touch. -/
def mergeFrom (current : Nat × Nat) : Ranges → Ranges
  | [] => [current]
  | next :: ranges =>
      if next.1 ≤ current.2 + 1 then
        mergeFrom (current.1, max current.2 next.2) ranges
      else
        current :: mergeFrom next ranges

def normal (ranges : Ranges) : Ranges :=
  match ranges.mergeSort (fun left right => left.1 ≤ right.1) with
  | [] => []
  | first :: rest => mergeFrom first rest

/-- The code points from `next` on that lie in none of the normal ranges. -/
def gapsFrom (next : Nat) : Ranges → Ranges
  | [] => if next ≤ lastCode then [(next, lastCode)] else []
  | range :: ranges =>
      if next < range.1 then
        (next, range.1 - 1) :: gapsFrom (range.2 + 1) ranges
      else
        gapsFrom (range.2 + 1) ranges

/-- The normal ranges of the code points that lie in none of the normal ranges. -/
def gaps (ranges : Ranges) : Ranges :=
  gapsFrom 0 ranges

/-- The normal ranges of the code points that lie in both classes. -/
def meet (left right : Ranges) : Ranges :=
  (left.gaps ++ right.gaps).normal.gaps

end Ranges

/-- Whether `character` lies on one of the spans `(first, last, stride)`. -/
def onSpan (spans : List (Nat × Nat × Nat)) (character : Char) : Bool :=
  spans.any fun (first, last, stride) =>
    first ≤ character.toNat && character.toNat ≤ last &&
      (character.toNat - first) % stride == 0

/-- A run of code points that all move by the same offset. -/
structure Shift where
  first : Nat
  last : Nat
  stride : Nat
  offset : Int
deriving DecidableEq, Repr

namespace Shift

def moves (shift : Shift) (code : Nat) : Bool :=
  shift.first ≤ code && code ≤ shift.last &&
    (code - shift.first) % shift.stride == 0

/-- The code point to which this one moves, whether or not the shift applies. -/
def target (shift : Shift) (code : Nat) : Nat :=
  (code + shift.offset).toNat

/-- The code point that moves to this one, if the shift has one. -/
def source? (shift : Shift) (code : Nat) : Option Nat :=
  let before := ((code : Int) - shift.offset).toNat
  if shift.moves before && shift.target before == code then some before else none

/-- Every code point that moves, with the one to which it moves. -/
def pairs (shift : Shift) : List (Nat × Nat) :=
  (List.range ((shift.last - shift.first) / shift.stride + 1)).map fun index =>
    let code := shift.first + index * shift.stride
    (code, shift.target code)

end Shift

/-- Moves a character by the first shift that applies to it. -/
def shiftChar (shifts : List Shift) (character : Char) : Char :=
  match shifts.find? (·.moves character.toNat) with
  | some shift => Char.ofNat (shift.target character.toNat)
  | none => character

end RecordSearch.Text
