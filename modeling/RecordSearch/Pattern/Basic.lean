import RecordSearch.Pattern.Reader
import RecordSearch.Pattern.Size

/-!
# Patterns for whole values

A pattern literal is a glob or a regular expression.  Both ignore case and
have to match the whole value.  A star in a glob stands for any text, also
one with line ends, and every other character for itself.  An expression whose
automata would be too large is refused.
-/

namespace RecordSearch

namespace Regex

/-- Reads a body that is to match the whole of a value and to ignore case. -/
def readWhole [PropertyTable] (body : Text) : Option Regex := do
  let expression ← read ("(?i)^(?:".toList ++ body ++ ")$".toList)
  expression.fit

/-- The expression that matches a text letter by letter, in any case. -/
def literal (text : Text) : Regex :=
  concatenation (text.map (letter true))

/-- Any text. -/
def anything : Regex :=
  .repeated (.set CharSet.all) 0 none

/-- The texts of some pieces in order, with any text between neighbours. -/
def pieces : List Text → List Regex
  | [] => []
  | [piece] => [literal piece]
  | piece :: rest => literal piece :: anything :: pieces rest

/-- The expression that matches the values that a glob describes. -/
def ofGlob (glob : Text) : Regex :=
  concatenation
    (.edge .textStart :: (pieces (Text.splitAt '*' glob) ++ [.edge .textEnd]))

/-- Reads a glob; every text is one, but a long one may be too large. -/
def readGlob (glob : Text) : Option Regex :=
  (ofGlob glob).fit

end Regex

end RecordSearch
