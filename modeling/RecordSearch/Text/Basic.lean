/-!
# Texts

A text is a list of characters.  Labels, literals and values are cut, joined
and compared character by character, so the list is the form in which every
rule of the library is written.
-/

namespace RecordSearch

/-- A sequence of Unicode scalar values. -/
abbrev Text := List Char

namespace Text

/-- The pieces with `separator` between neighbours. -/
def join (separator : Text) : List Text → Text
  | [] => []
  | [piece] => piece
  | piece :: pieces => piece ++ separator ++ join separator pieces

/-- Cuts a text at the first occurrence of `mark`, which belongs to neither part. -/
def cutAt (mark : Char) : Text → Option (Text × Text)
  | [] => none
  | character :: rest =>
      if character = mark then
        some ([], rest)
      else
        (cutAt mark rest).map fun (before, after) => (character :: before, after)

/-- Cuts a text at every occurrence of `mark`; there is always one piece more than marks. -/
def splitAt (mark : Char) : Text → List Text
  | [] => [[]]
  | character :: rest =>
      if character = mark then
        [] :: splitAt mark rest
      else
        match splitAt mark rest with
        | [] => [[character]]
        | piece :: pieces => (character :: piece) :: pieces

end Text

end RecordSearch
