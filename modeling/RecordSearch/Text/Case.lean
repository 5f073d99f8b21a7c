import RecordSearch.Text.Basic
import RecordSearch.Text.CaseTable

/-!
# Letter case

Lowercasing one character, lowercasing a whole text, and simple case folding.
The first two differ on the capital sigma alone: standing by itself it becomes
`σ`, but at the end of a word of a text it becomes `ς`.
-/

namespace RecordSearch.Text

/-- The lowercase of one character; only the dotted capital I has two. -/
def lowerChar (character : Char) : Text :=
  if character = 'İ' then
    ['i', '\u0307']
  else
    [shiftChar lowercaseShifts character]

/-- The lowercase of a text taken character by character. -/
def lowerEach (text : Text) : Text :=
  text.flatMap lowerChar

/-- Whether the first character that the case rules do not ignore has case. -/
def meetsCased (text : Text) : Bool :=
  match text.dropWhile caseIgnorableRanges.has with
  | [] => false
  | character :: _ => casedRanges.has character

/-- Lowercases `text`, which follows the characters of `before` read backwards. -/
def lowerAfter (before : Text) : Text → Text
  | [] => []
  | character :: rest =>
      let lowered :=
        if character = 'Σ' then
          if meetsCased before && !meetsCased rest then ['ς'] else ['σ']
        else
          lowerChar character
      lowered ++ lowerAfter (character :: before) rest

/-- The lowercase of a whole text, with the final sigma at the ends of words. -/
def lower (text : Text) : Text :=
  lowerAfter [] text

/-- The lowercase of an ASCII letter; every other character stays. -/
def lowerAscii (text : Text) : Text :=
  text.map Char.toLower

/-- The property Uppercase. -/
def isUppercase (character : Char) : Bool :=
  onSpan uppercaseSpans character

/-- Simple case folding: the representative of the letters that differ in case only. -/
def fold (character : Char) : Char :=
  shiftChar foldingShifts character

def foldMates (character : Char) : Text :=
  let representative := fold character
  representative ::
    foldingShifts.filterMap fun shift =>
      (shift.source? representative.toNat).map Char.ofNat

/-- Every code point that folding moves, with its representative. -/
def foldingPairs : List (Nat × Nat) :=
  foldingShifts.flatMap Shift.pairs

/-- The normal ranges of the code points that fold to what some member folds to. -/
def foldClosure (ranges : Ranges) : Ranges :=
  let representatives := foldingPairs.filterMap fun (code, representative) =>
    if ranges.covers code then some (representative, representative) else none
  let reached := ranges ++ representatives
  let mates := foldingPairs.filterMap fun (code, representative) =>
    if reached.covers representative then some (code, code) else none
  Ranges.normal (reached ++ mates)

end RecordSearch.Text
