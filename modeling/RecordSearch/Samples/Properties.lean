import RecordSearch.Pattern.CharSet
import RecordSearch.Text.LetterTable

/-!
# Sample properties of characters

Some properties and their names: general categories of letters, marks and numbers, and what is
alphabetic, in capitals or blank.  A name may say that it is the value of a general category.  Case,
blanks, hyphens and underscores make no difference to a name.
-/

namespace RecordSearch.Samples

def ofCodes (ranges : Text.Ranges) : CharSet :=
  CharSet.ofRanges (ranges.map fun (first, last) => (Char.ofNat first, Char.ofNat last))

/-- Alphabetic characters, but only those that patterns know. -/
def alphabetic : CharSet :=
  .intersection .word (ofCodes Text.alphabeticRanges)

/-- The circled and squared letters, which are symbols. -/
def enclosedLetters : CharSet :=
  ofCodes [(0x24B6, 0x24E9), (0x1F130, 0x1F149), (0x1F150, 0x1F169), (0x1F170, 0x1F189)]

def marks : CharSet :=
  ofCodes Text.markRanges

def numbers : CharSet :=
  ofCodes Text.numericRanges

def letters : CharSet :=
  .difference alphabetic (.union (.union marks numbers) enclosedLetters)

def capitals : CharSet :=
  let codes := Text.uppercaseSpans.flatMap fun (first, last, stride) =>
    (List.range ((last - first) / stride + 1)).map (first + stride * ·)
  .intersection .word (ofCodes (Text.Ranges.normal (codes.map fun code => (code, code))))

def titlecaseLetters : CharSet :=
  ofCodes [(0x1C5, 0x1C5), (0x1C8, 0x1C8), (0x1CB, 0x1CB), (0x1F2, 0x1F2), (0x1F88, 0x1F8F),
    (0x1F98, 0x1F9F), (0x1FA8, 0x1FAF), (0x1FBC, 0x1FBC), (0x1FCC, 0x1FCC), (0x1FFC, 0x1FFC)]

/-- A name as it is looked up. -/
def looseName (name : Text) : Text :=
  Text.lowerAscii (name.filter fun character => !([' ', '-', '_'] : Text).contains character)

/-- The set of a general category. -/
def category? (name : Text) : Option CharSet :=
  match String.ofList name with
  | "any" => some .all
  | "ascii" => some .ascii
  | "l" | "letter" => some letters
  | "lu" | "uppercaseletter" => some (.intersection letters capitals)
  | "lt" | "titlecaseletter" => some titlecaseLetters
  | "m" | "mark" | "combiningmark" => some marks
  | "n" | "number" => some numbers
  | "nd" | "decimalnumber" | "digit" => some .digit
  | _ => none

scoped instance properties : PropertyTable where
  find? name :=
    match Text.cutAt '=' (looseName name) with
    | some (kind, value) =>
        if kind = "gc".toList ∨ kind = "generalcategory".toList then category? value else none
    | none =>
        match String.ofList (looseName name) with
        | "alphabetic" | "alpha" => some alphabetic
        | "uppercase" | "upper" => some capitals
        | "whitespace" | "space" => some .blank
        | _ => category? (looseName name)

end RecordSearch.Samples
