import RecordSearch.Text.Blank
import RecordSearch.Text.Case
import RecordSearch.Text.WordTable

/-!
# Sets of characters

The sets that a pattern can write in brackets, with their operations.  A set
is kept as it was written and asked about one character at a time, so no
operation has to list its members; `spans` lists them where the extent of a
set matters.

A pattern can also ask for the characters with a property by its name, such as
`Greek`.  Which names there are, in which spellings, and which characters have
the property is up to the tables that patterns are read with, so these tables
are a parameter: an instance of `PropertyTable`.
-/

namespace RecordSearch

/-- A set of characters as a pattern writes it. -/
inductive CharSet
  | none
  | range (first last : Char)
  | digit
  | blank
  | word
  | union (left right : CharSet)
  | intersection (left right : CharSet)
  | difference (left right : CharSet)
  | complement (set : CharSet)
  /-- The characters that differ from a member in case only. -/
  | anyCase (set : CharSet)

namespace CharSet

def single (character : Char) : CharSet :=
  .range character character

def all : CharSet :=
  .complement .none

/-- The members of exactly one of two sets. -/
def symmetricDifference (left right : CharSet) : CharSet :=
  .union (.difference left right) (.difference right left)

def ofRanges : List (Char × Char) → CharSet
  | [] => .none
  | (first, last) :: ranges => .union (.range first last) (ofRanges ranges)

def ascii : CharSet :=
  .range '\x00' '\x7F'

def asciiDigit : CharSet :=
  .range '0' '9'

def asciiBlank : CharSet :=
  ofRanges [('\t', '\r'), (' ', ' ')]

def asciiWord : CharSet :=
  ofRanges [('0', '9'), ('A', 'Z'), ('_', '_'), ('a', 'z')]

def has : CharSet → Char → Bool
  | .none, _ => false
  | .range first last, character =>
      first.toNat ≤ character.toNat && character.toNat ≤ last.toNat
  | .digit, character => Text.decimalDigitRanges.has character
  | .blank, character => Text.isBlank character
  | .word, character => Text.wordRanges.has character
  | .union left right, character => left.has character || right.has character
  | .intersection left right, character => left.has character && right.has character
  | .difference left right, character => left.has character && !right.has character
  | .complement set, character => !set.has character
  | .anyCase set, character => (Text.foldMates character).any set.has

def spans : CharSet → Text.Ranges
  | .none => []
  | .range first last =>
      if first.toNat ≤ last.toNat then [(first.toNat, last.toNat)] else []
  | .digit => Text.decimalDigitRanges
  | .blank => Text.blankRanges
  | .word => Text.wordRanges
  | .union left right => Text.Ranges.normal (left.spans ++ right.spans)
  | .intersection left right => left.spans.meet right.spans
  | .difference left right => left.spans.meet right.spans.gaps
  | .complement set => set.spans.gaps
  | .anyCase set => Text.foldClosure set.spans

/-- The set closed under change of case, if case is to be ignored. -/
def foldIf (ignoreCase : Bool) (set : CharSet) : CharSet :=
  if ignoreCase then .anyCase set else set

/-- The set closed under change of case among the ASCII characters, if case is to be ignored. -/
def foldAsciiIf (ignoreCase : Bool) (set : CharSet) : CharSet :=
  if ignoreCase then
    .union set (.intersection (.anyCase (.intersection set ascii)) ascii)
  else
    set

def negateIf (negated : Bool) (set : CharSet) : CharSet :=
  if negated then .complement set else set

def asciiClass? (name : Text) : Option CharSet :=
  let ranges : Option (List (Char × Char)) :=
    match String.ofList name with
    | "alnum" => some [('0', '9'), ('A', 'Z'), ('a', 'z')]
    | "alpha" => some [('A', 'Z'), ('a', 'z')]
    | "ascii" => some [('\x00', '\x7F')]
    | "blank" => some [('\t', '\t'), (' ', ' ')]
    | "cntrl" => some [('\x00', '\x1F'), ('\x7F', '\x7F')]
    | "digit" => some [('0', '9')]
    | "graph" => some [('!', '~')]
    | "lower" => some [('a', 'z')]
    | "print" => some [(' ', '~')]
    | "punct" => some [('!', '/'), (':', '@'), ('[', '\x60'), ('\x7B', '~')]
    | "space" => some [('\t', '\r'), (' ', ' ')]
    | "upper" => some [('A', 'Z')]
    | "word" => some [('0', '9'), ('A', 'Z'), ('_', '_'), ('a', 'z')]
    | "xdigit" => some [('0', '9'), ('A', 'F'), ('a', 'f')]
    | _ => Option.none
  ranges.map ofRanges

end CharSet

/-- The sets of characters that the names of properties stand for. -/
class PropertyTable where
  /-- The set of a name as it is written; a name that is not in the tables has none. -/
  find? : Text → Option CharSet

end RecordSearch
