import RecordSearch.Comparison
import RecordSearch.Pattern.Basic
import RecordSearch.Value

/-!
# Literals as tests on leaf values

A literal is compiled once for each kind of leaf that it may meet, and the
resulting test is put to the values of that kind.  Leading exclamation marks
negate, a star alone accepts every value, and the rest of the literal is read
by the rules of the kind.

A literal that means nothing for the kind becomes a test that accepts nothing,
and negation leaves such a test as it is.
-/

namespace RecordSearch

/-- A test on one leaf value. -/
inductive Matcher
  | anything
  | never
  | negation (inner : Matcher)
  /-- Equality without regard to case, with a text that is already lowercase. -/
  | sameText (lowered : Text)
  /-- Equality of every character. -/
  | exactText (text : Text)
  | pattern (expression : Regex)
  | compared (comparison : Comparison) (bound : Number)
  | truth (expected : Bool)
  /-- Equality of names without regard to case, with a name that is already lowercase. -/
  | named (lowered : Text)
  | ranked (comparison : Comparison) (rank : Int)

variable [PropertyTable]

namespace Matcher

/-- The literal that accepts every value. -/
def wildcard : Text := ['*']

/-- The mark that negates the rest of a literal. -/
def negationMark : Char := '!'

/-- What introduces a regular expression. -/
def regexMark : Text := "r/".toList

/-- Whether a text equals an already lowercase one once its own characters are lowercased. -/
def equalsLowered (text lowered : Text) : Bool :=
  Text.lowerEach text == lowered

/-- Whether the test accepts a value.  A test for another kind of value does not. -/
def accepts : Matcher → Value → Bool
  | .anything, _ => true
  | .never, _ => false
  | .negation inner, value => !inner.accepts value
  | .sameText lowered, .string text => equalsLowered text lowered
  | .exactText expected, .string text => text == expected
  | .pattern expression, .string text => expression.matchesIn text
  | .compared comparison bound, .number amount =>
      (amount.compare bound).any comparison.accepts
  | .truth expected, .bool actual => actual == expected
  | .named lowered, .choice name _ => equalsLowered name lowered
  | .ranked comparison bound, .choice _ rank =>
      comparison.accepts (Ord.compare rank bound)
  | _, _ => false

/-- The opposite test; a test that accepts nothing has no opposite and stays. -/
def negate : Matcher → Matcher
  | .never => .never
  | inner => .negation inner

def negateBy : Nat → Matcher → Matcher
  | 0, matcher => matcher
  | count + 1, matcher => (negateBy count matcher).negate

/--
The text between the quotes of a literal that begins and ends with a quote.
The two quotes are different characters of the literal.
-/
def quoted? : Text → Option Text
  | '"' :: rest =>
      match rest.reverse with
      | '"' :: inner => some inner.reverse
      | _ => none
  | _ => none

/-- The test of a literal for texts; it fails only on an unacceptable pattern. -/
def ofString (literal : Text) : Option Matcher :=
  match regexMark.isPrefixOf? literal with
  | some body => (Regex.readWhole body).map .pattern
  | none =>
      match quoted? literal with
      | some inner => some (.exactText inner)
      | none =>
          if '*' ∈ literal then
            (Regex.readGlob literal).map .pattern
          else
            some (.sameText (Text.lower literal))

def ofBool (literal : Text) : Matcher :=
  let word := Text.lowerAscii literal
  if word = "true".toList then
    .truth true
  else if word = "false".toList then
    .truth false
  else
    .never

def ofNumber (literal : Text) : Matcher :=
  let (comparison, numeral) := Comparison.split literal
  match Number.read numeral with
  | some bound => .compared comparison bound
  | none => .never

def ofChoice (table : List (Text × Int)) (literal : Text) : Matcher :=
  let (comparison, name) := Comparison.split literal
  if name = [] then
    .never
  else if comparison = .equal then
    .named (Text.lower name)
  else
    match table.find? fun entry => Text.lowerAscii entry.1 == Text.lowerAscii name with
    | some (_, rank) => .ranked comparison rank
    | none => .never

/-- The test of a literal without negation marks. -/
def compilePlain (kind : LeafKind) (literal : Text) : Option Matcher :=
  if literal = wildcard then
    some .anything
  else
    match kind with
    | .string => ofString literal
    | .bool => some (ofBool literal)
    | .number => some (ofNumber literal)
    | .choice table => some (ofChoice table literal)

/-- Counts and removes the negation marks at the start of a literal, with the blanks among them. -/
def takeNegations : Text → Nat × Text
  | [] => (0, [])
  | character :: rest =>
      if character = negationMark then
        let (count, literal) := takeNegations rest
        (count + 1, literal)
      else if Text.isBlank character then
        takeNegations rest
      else
        (0, character :: rest)

/-- Compiles a literal for leaves of a kind; it fails only on an unacceptable pattern. -/
def compile (kind : LeafKind) (literal : Text) : Option Matcher :=
  let (count, rest) := takeNegations literal
  (compilePlain kind (Text.trimEnd rest)).map (negateBy count)

end Matcher

end RecordSearch
