import RecordSearch.Text.Basic
import RecordSearch.Text.HiddenTable

/-!
# Quoted text

A text in double quotes, with the characters that would not be seen as
themselves written behind a backslash.
-/

namespace RecordSearch.Text

/-- The halfwidth sound marks, which extend a letter but take a place of their own behind it. -/
def soundMarks : Text := ['\uFF9E', '\uFF9F']

def isAttached (character : Char) : Bool :=
  extendingRanges.has character && !soundMarks.contains character

/-- Whether a character is shown by its number: it has no shape of its own or attaches to its
neighbour. -/
def isHidden (character : Char) : Bool :=
  character != ' ' && (shapelessRanges.has character || isAttached character)

/-- The number of a character in hexadecimal. -/
def numbered (character : Char) : Text :=
  ['\\', 'u', '\x7B'] ++ Nat.toDigits 16 character.toNat ++ ['\x7D']

def quoteChar (character : Char) : Text :=
  if character = '\x00' then ['\\', '0']
  else if character = '\t' then ['\\', 't']
  else if character = '\n' then ['\\', 'n']
  else if character = '\r' then ['\\', 'r']
  else if character = '"' ∨ character = '\\' then ['\\', character]
  else if isHidden character then numbered character
  else [character]

def quote (text : Text) : Text :=
  ['"'] ++ text.flatMap quoteChar ++ ['"']

end RecordSearch.Text
