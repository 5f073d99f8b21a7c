import RecordSearch.Text.Blank

/-!
# Comparison operators

A literal for an ordered value may begin with an operator.  `Comparison.split`
takes it off, and `Comparison.accepts` says which orders of the value relative
to the rest of the literal the operator allows.
-/

namespace RecordSearch

/-- The operators that may stand before a literal. -/
inductive Comparison
  | equal
  | greater
  | greaterOrEqual
  | less
  | lessOrEqual
deriving DecidableEq, Repr

namespace Comparison

/-- The operator that is meant where none is written. -/
def standard : Comparison := .equal

/-- The written form of an operator. -/
def symbol : Comparison → Text
  | .equal => ['=']
  | .greater => ['>']
  | .greaterOrEqual => ['>', '=']
  | .less => ['<']
  | .lessOrEqual => ['<', '=']

/-- Takes an operator off a text without leading blanks. -/
def takeSymbol : Text → Comparison × Text
  | '>' :: '=' :: rest => (.greaterOrEqual, rest)
  | '<' :: '=' :: rest => (.lessOrEqual, rest)
  | '>' :: rest => (.greater, rest)
  | '<' :: rest => (.less, rest)
  | '=' :: rest => (.equal, rest)
  | text => (standard, text)

/-- Takes an operator off a literal; what remains is free of blanks at its ends. -/
def split (literal : Text) : Comparison × Text :=
  let (comparison, rest) := takeSymbol (Text.trim literal)
  (comparison, Text.trim rest)

/-- Whether a value that stands in `order` to the literal is accepted. -/
def accepts : Comparison → Ordering → Bool
  | .equal, order => order == .eq
  | .greater, order => order == .gt
  | .greaterOrEqual, order => order != .lt
  | .less, order => order == .lt
  | .lessOrEqual, order => order != .gt

end Comparison

end RecordSearch
