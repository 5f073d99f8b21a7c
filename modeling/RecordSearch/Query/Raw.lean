import RecordSearch.Matcher
import RecordSearch.Query.Basic
import RecordSearch.Text.Quoted

/-!
# Queries as typed into a search bar

A raw query is a list of pairs joined with `+`; a pair is a label, a colon and
a list of values joined with `,`.  The values of a pair are alternatives, and
all pairs have to hold.  Separators inside double quotes are ordinary
characters.

Reading is lenient.  A fragment that is no pair is dropped and reported, and
only the strict entry points refuse a text without any pair.
-/

namespace RecordSearch

namespace RawQuery

def pairSeparator : Char := '+'

def labelSeparator : Char := ':'

def valueSeparator : Char := ','

/-- How a raw query is read. -/
structure Options where
  /-- Keep values without any text; they accept everything. -/
  allowEmptyValues : Bool := false
  /-- The last value of the last pair is still being typed. -/
  autocomplete : Bool := false
deriving DecidableEq, Repr

namespace Options

def setAllowEmptyValues (options : Options) (allow : Bool) : Options :=
  { options with allowEmptyValues := allow }

/-- Turns completion on or off; turning it on also keeps empty values. -/
def setAutocomplete (options : Options) (enabled : Bool) : Options :=
  { options with
    allowEmptyValues := options.allowEmptyValues || enabled
    autocomplete := enabled }

/-- The options for a text that is still being typed. -/
def completing : Options :=
  ({} : Options).setAutocomplete true

end Options

/-- Why a fragment is dropped. -/
inductive SkipReason
  | missingColon
  | emptyLabel
  | emptyValue
deriving DecidableEq, Repr

namespace SkipReason

def message : SkipReason → Text
  | .missingColon => "missing ':' between label and values".toList
  | .emptyLabel => "empty label".toList
  | .emptyValue => "no value".toList

end SkipReason

/-- A dropped fragment as it was written, and the reason. -/
structure SkippedPair where
  fragment : Text
  reason : SkipReason
deriving DecidableEq, Repr

/-- A label with its values. -/
structure Pair where
  label : Text
  values : List Text
deriving DecidableEq, Repr

structure Outcome where
  query : Query
  /-- The label of the last pair, if there is a pair. -/
  lastLabel : Option Text
  skipped : List SkippedPair
deriving Repr

/-- Whether no fragment was a pair. -/
def Outcome.isEmpty (outcome : Outcome) : Bool :=
  outcome.lastLabel.isNone

/-- The values in the text behind a colon, free of blanks at their ends. -/
def splitValues (values : Text) : List Text :=
  (Text.splitUnquoted valueSeparator (Text.trim values)).map Text.trim

def readPair (options : Options) (fragment : Text) : Except SkipReason Pair :=
  match Text.cutAt labelSeparator (Text.trim fragment) with
  | none => .error .missingColon
  | some (label, values) =>
      if Text.trim label = [] then
        .error .emptyLabel
      else
        let values := (splitValues values).filter fun value =>
          options.allowEmptyValues || value ≠ []
        if values = [] then
          .error .emptyValue
        else
          .ok { label := Text.trim label, values }

def fragments (raw : Text) : List Text :=
  Text.splitUnquoted pairSeparator raw

def pairs (options : Options) (raw : Text) : List Pair :=
  (fragments raw).filterMap fun fragment =>
    match readPair options fragment with
    | .ok pair => some pair
    | .error _ => none

/-- The fragments that are not. -/
def skippedPairs (options : Options) (raw : Text) : List SkippedPair :=
  (fragments raw).filterMap fun fragment =>
    match readPair options fragment with
    | .ok _ => none
    | .error reason => some { fragment, reason }

/-- The condition for a finished value; one without text accepts everything. -/
def finishedMatch (label value : Text) : FieldMatch :=
  { label, value := if value = [] then Matcher.wildcard else value }

/-- The condition for a value that is being typed: any value that begins like it. -/
def completingMatch (label value : Text) : FieldMatch :=
  { label, value := value ++ Matcher.wildcard, highlight := true }

/-- The conditions for the values of a pair, of which the last may be being typed. -/
def fieldMatches (completing : Bool) (label : Text) : List Text → List FieldMatch
  | [] => []
  | [value] =>
      [if completing then completingMatch label value else finishedMatch label value]
  | value :: values => finishedMatch label value :: fieldMatches completing label values

/-- The collapsed disjunction for the values of a pair. -/
def pairQuery (completing : Bool) (pair : Pair) : Query :=
  Query.anyOf ((fieldMatches completing pair.label pair.values).map fun field =>
    .base (.field field))

/-- The queries of some pairs, of which the last may be being typed. -/
def pairQueries (completing : Bool) : List Pair → List Query
  | [] => []
  | [pair] => [pairQuery completing pair]
  | pair :: pairs => pairQuery false pair :: pairQueries completing pairs

def read (options : Options) (raw : Text) : Outcome :=
  let kept := pairs options raw
  { query := Query.allOf (pairQueries options.autocomplete kept)
    lastLabel := kept.getLast?.map (·.label)
    skipped := skippedPairs options raw }

/-- Reads a raw query in which at least one fragment has to be a pair. -/
def readStrict (options : Options) (raw : Text) : Option Query :=
  let outcome := read options raw
  if raw = [] ∨ outcome.isEmpty then none else some outcome.query

/-- Reads a raw query strictly, except that no text at all asks for everything. -/
def readOrEmpty (raw : Text) : Option Query :=
  if raw = [] then some .empty else readStrict {} raw

/-- Reads a raw query whose last value is being typed; gives the last label as well. -/
def readCompleting (raw : Text) : Option (Query × Text) :=
  let outcome := read Options.completing raw
  if raw = [] then none else outcome.lastLabel.map fun label => (outcome.query, label)

end RawQuery

end RecordSearch
