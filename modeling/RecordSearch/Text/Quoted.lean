import RecordSearch.Text.Basic

/-!
# Cutting outside quotation marks

Every double quote opens or closes a quotation, and a separator inside a
quotation is an ordinary character.  The quotes stay in the pieces.
-/

namespace RecordSearch.Text

/-- Puts a character in front of the first of some pieces. -/
def extendFirst (character : Char) : List Text → List Text
  | [] => [[character]]
  | piece :: pieces => (character :: piece) :: pieces

/-- Cuts at every separator outside quotations, starting inside one if `quoted`. -/
def splitFrom (separator : Char) (quoted : Bool) : Text → List Text
  | [] => [[]]
  | character :: rest =>
      if character = '"' then
        extendFirst character (splitFrom separator (!quoted) rest)
      else if character = separator ∧ quoted = false then
        [] :: splitFrom separator quoted rest
      else
        extendFirst character (splitFrom separator quoted rest)

/-- Cuts at every separator outside quotations. -/
def splitUnquoted (separator : Char) (text : Text) : List Text :=
  splitFrom separator false text

end RecordSearch.Text
