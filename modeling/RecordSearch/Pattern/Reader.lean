import RecordSearch.Number.Decimal
import RecordSearch.Pattern.Regex
import RecordSearch.Text.LetterTable

/-!
# Reading regular expressions

A reader works through the written form of an expression from left to right.
It keeps what stands open: the groups around the current place, and inside
brackets the character sets around it.  Every step consumes at least one
character, so the number of characters bounds the number of steps.

A reader that meets something that it cannot read has no next state; the
written form is then not an expression.  Nor is it one if its parts nest too
deeply, so what is read carries the depth of its written form.

The settings can restrict classes, word boundaries and the regard to case to
ASCII.  There a part may only match whole characters, so what stands for any
byte but some ASCII characters is no expression there.
-/

namespace RecordSearch

namespace Regex

/-- The settings that a written expression can switch on and off. -/
structure Settings where
  ignoreCase : Bool := false
  multiLine : Bool := false
  dotAll : Bool := false
  carriageReturns : Bool := false
  /-- Classes, words and case are those of ASCII. -/
  ascii : Bool := false
  /-- Blanks and comments between the parts are skipped. -/
  spaced : Bool := false
deriving DecidableEq, Repr

/-- An expression, and how many levels deep its written form nests. -/
structure Piece where
  expression : Regex
  depth : Nat := 0

/-- How many levels deep a written form may nest. -/
def depthLimit : Nat := 250

/-- The depth of parts side by side: several are a level of their own, a single one is not. -/
def layered : List Nat → Nat
  | [] => 0
  | [depth] => depth
  | depth :: depths => depths.foldl max depth + 1

/-- A part of a sequence; a change of settings is a part that cannot be repeated. -/
inductive Part
  | term (piece : Piece)
  | change

namespace Part

def piece : Part → Piece
  | .term piece => piece
  | .change => { expression := .nothing }

end Part

/-- A branch under construction and the finished branches before it, both latest first. -/
structure Branches where
  parts : List Part := []
  finished : List Piece := []

namespace Branches

def add (branches : Branches) (piece : Piece) : Branches :=
  { branches with parts := .term piece :: branches.parts }

def current (branches : Branches) : Piece :=
  let pieces := branches.parts.reverse.map Part.piece
  { expression := concatenation (pieces.map (·.expression))
    depth := layered (pieces.map (·.depth)) }

/-- Starts the next branch. -/
def next (branches : Branches) : Branches :=
  { parts := [], finished := branches.current :: branches.finished }

def close (branches : Branches) : Piece :=
  match (branches.current :: branches.finished).reverse with
  | [] => { expression := .nothing }
  | first :: rest =>
      { expression := alternation first.expression (rest.map (·.expression))
        depth := layered ((first :: rest).map (·.depth)) }

/-- Repeats the last part, which must be an expression. -/
def repeatLast (branches : Branches) (least : Nat) (most : Option Nat) : Option Branches :=
  match branches.parts with
  | .term piece :: parts =>
      let repeated : Piece :=
        { expression := .repeated piece.expression least most, depth := piece.depth + 1 }
      some { branches with parts := .term repeated :: parts }
  | _ => none

end Branches

/-- An open group: what stood before it, the settings to return to, and whether it is numbered. -/
structure Group where
  outer : Branches
  settings : Settings
  numbered : Bool

def Group.enclose (group : Group) (inside : Piece) : Piece :=
  { expression := if group.numbered then .group inside.expression else inside.expression
    depth := inside.depth + 1 }

inductive SetOperator
  | intersection
  | difference
  | symmetricDifference

namespace SetOperator

def apply : SetOperator → CharSet → CharSet → CharSet
  | .intersection => .intersection
  | .difference => .difference
  | .symmetricDifference => CharSet.symmetricDifference

end SetOperator

/-- A set of characters, and how many levels deep its written form nests. -/
structure Members where
  set : CharSet
  depth : Nat := 0

/-- An open bracket: the items so far, latest first, and the operand and operator before them. -/
structure Bracket where
  negated : Bool
  items : List Members := []
  pending : Option (Members × SetOperator) := none

namespace Bracket

def add (bracket : Bracket) (item : Members) : Bracket :=
  { bracket with items := item :: bracket.items }

def addSingle (bracket : Bracket) (character : Char) : Bracket :=
  bracket.add { set := CharSet.single character }

/-- The items so far as one set. -/
def gathered (bracket : Bracket) : Members :=
  { set := (bracket.items.map (·.set)).foldl CharSet.union .none
    depth := layered (bracket.items.map (·.depth)) }

/-- The set written so far, with the pending operator applied. -/
def operand (bracket : Bracket) : Members :=
  match bracket.pending with
  | none => bracket.gathered
  | some (left, operator) =>
      let right := bracket.gathered
      { set := operator.apply left.set right.set
        depth := max left.depth right.depth + 1 }

/-- Makes the set written so far the left operand of an operator. -/
def operate (bracket : Bracket) (operator : SetOperator) : Bracket :=
  { bracket with items := [], pending := some (bracket.operand, operator) }

def close (bracket : Bracket) : Members :=
  let inside := bracket.operand
  { set := CharSet.negateIf bracket.negated inside.set, depth := inside.depth + 1 }

end Bracket

/-- What a reader has read and what it still has open. -/
structure Reader where
  branches : Branches := {}
  groups : List Group := []
  brackets : List Bracket := []
  settings : Settings := {}
  names : List Text := []

/-- A comment runs to the end of its line. -/
def skipComment (text : Text) : Text :=
  text.dropWhile (· != '\n')

/-- Skips blanks and comments; the first argument bounds the number of comments. -/
def skipWithin : Nat → Text → Text
  | 0, text => text
  | bound + 1, text =>
      match text.dropWhile Text.isBlank with
      | '#' :: rest => skipWithin bound (skipComment rest)
      | rest => rest

namespace Settings

/-- Skips blanks and comments where the settings say so. -/
def skip (settings : Settings) (text : Text) : Text :=
  if settings.spaced then skipWithin (text.length + 1) text else text

/-- The set closed under change of case where the settings say so. -/
def fold (settings : Settings) (set : CharSet) : CharSet :=
  if settings.ascii then
    CharSet.foldAsciiIf settings.ignoreCase set
  else
    CharSet.foldIf settings.ignoreCase set

def letter (settings : Settings) (character : Char) : Regex :=
  .set (settings.fold (CharSet.single character))

/-- Whether the character can be a byte by itself, or there is no need for that. -/
def allows (settings : Settings) (character : Char) : Bool :=
  !settings.ascii || character.toNat < 128

/-- Whether a set may be negated: the complement of an ASCII set has other bytes than characters. -/
def mayNegate (settings : Settings) (negated : Bool) : Bool :=
  !(settings.ascii && negated)

/-- A class of characters, of which there is one for all scripts and one for ASCII, or its
complement. -/
def classOf? (settings : Settings) (negated : Bool) (full ascii : CharSet) : Option CharSet :=
  if settings.mayNegate negated then
    some (CharSet.negateIf negated (if settings.ascii then ascii else full))
  else
    none

/-- Any character; the end of a line only where the settings allow it. -/
def dot? (settings : Settings) : Option CharSet :=
  if settings.ascii then
    none
  else if settings.dotAll then
    some CharSet.all
  else if settings.carriageReturns then
    some (.complement (CharSet.ofRanges [('\n', '\n'), ('\r', '\r')]))
  else
    some (.complement (CharSet.single '\n'))

/-- The condition that a circumflex stands for. -/
def lineStart (settings : Settings) : Boundary :=
  if settings.multiLine then
    if settings.carriageReturns then .returnStart else .lineStart
  else
    .textStart

/-- The condition that a dollar sign stands for. -/
def lineEnd (settings : Settings) : Boundary :=
  if settings.multiLine then
    if settings.carriageReturns then .returnEnd else .lineEnd
  else
    .textEnd

/-- Switches the setting of a letter.  Greed does not change whether a text matches. -/
def switch (settings : Settings) (letter : Char) (on : Bool) : Option Settings :=
  match letter with
  | 'i' => some { settings with ignoreCase := on }
  | 'm' => some { settings with multiLine := on }
  | 's' => some { settings with dotAll := on }
  | 'R' => some { settings with carriageReturns := on }
  | 'x' => some { settings with spaced := on }
  | 'U' => some settings
  | 'u' => some { settings with ascii := !on }
  | _ => none

end Settings

def hexDigit? (character : Char) : Option Nat :=
  if character.isDigit then
    some (character.toNat - '0'.toNat)
  else if 'a' ≤ character ∧ character ≤ 'f' then
    some (character.toNat - 'a'.toNat + 10)
  else if 'A' ≤ character ∧ character ≤ 'F' then
    some (character.toNat - 'A'.toNat + 10)
  else
    none

/-- The character of a hexadecimal number, which has at least one digit. -/
def hexChar? (digits : Text) : Option Char := do
  guard (digits ≠ [])
  let values ← digits.mapM hexDigit?
  let code := values.foldl (16 * · + ·) 0
  if code.isValidChar then some (Char.ofNat code) else none

/-- Takes `count` characters, skipping blanks and comments behind each where the settings say so. -/
def Settings.takeSpaced (settings : Settings) : Nat → Text → Option (Text × Text)
  | 0, text => some ([], text)
  | _ + 1, [] => none
  | count + 1, character :: rest =>
      (settings.takeSpaced count (settings.skip rest)).map fun (characters, rest) =>
        (character :: characters, rest)

/-- Takes at most `bound` characters while a test holds, skipping as `takeSpaced` does. -/
def Settings.spanWithin (settings : Settings) (test : Char → Bool) : Nat → Text → Text × Text
  | bound + 1, character :: rest =>
      if test character then
        let (characters, rest) := settings.spanWithin test bound (settings.skip rest)
        (character :: characters, rest)
      else
        ([], character :: rest)
  | _, text => ([], text)

/-- Takes the characters for which a test holds, skipping blanks and comments behind each. -/
def Settings.span (settings : Settings) (test : Char → Bool) (text : Text) : Text × Text :=
  settings.spanWithin test text.length text

/--
Reads a hexadecimal number, in braces or of exactly `count` digits.  Two digits
are for a byte where the settings are those of ASCII.
-/
def readHex (settings : Settings) (count : Nat) (text : Text) : Option (Char × Text) := do
  match settings.skip text with
  | '\x7B' :: rest =>
      match settings.span (fun character => (hexDigit? character).isSome) (settings.skip rest) with
      | (digits, '\x7D' :: rest) => return (← hexChar? digits, rest)
      | _ => none
  | text =>
      let (digits, rest) ← settings.takeSpaced count text
      let character ← hexChar? digits
      guard (count ≠ 2 || settings.allows character)
      return (character, rest)

/-- What a backslash and the characters behind it stand for. -/
inductive Escape
  | letter (character : Char)
  | set (characters : CharSet)
  | edge (boundary : Boundary)

/-- The characters that have a meaning of their own somewhere in an expression. -/
def metaCharacters : Text :=
  ['\\', '.', '+', '*', '?', '(', ')', '|', '[', ']', '\x7B', '\x7D', '^', '$', '#', '&', '-', '~']

/-- Whether a backslash makes the character stand for itself. -/
def isEscapable (character : Char) : Bool :=
  character ∈ metaCharacters ||
    (character.toNat < 128 && !character.isAlphanum && character != '<' && character != '>')

def inBoundaryName (character : Char) : Bool :=
  character.isAlpha || character == '-'

def boundaryOfName (ascii : Bool) (name : Text) : Option Boundary :=
  match String.ofList name with
  | "start" => some (.wordStart ascii)
  | "end" => some (.wordEnd ascii)
  | "start-half" => some (.wordStartHalf ascii)
  | "end-half" => some (.wordEndHalf ascii)
  | _ => none

/--
Reads the name in braces that may follow `\b`.  Braces that do not begin with
a letter or a hyphen hold a repetition and are left alone.
-/
def readBoundaryName (settings : Settings) (text : Text) : Option (Boundary × Text) :=
  match text with
  | '\x7B' :: rest =>
      match settings.span inBoundaryName (settings.skip rest) with
      | (_, []) => none
      | ([], _) => some (.wordEdge settings.ascii, text)
      | (name, '\x7D' :: rest) =>
          (boundaryOfName settings.ascii name).map fun boundary => (boundary, rest)
      | _ => none
  | _ => some (.wordEdge settings.ascii, text)

/-- What a single character behind a backslash stands for. -/
def Settings.escape? (settings : Settings) (character : Char) : Option Escape :=
  match character with
  | 'd' => (settings.classOf? false .digit .asciiDigit).map .set
  | 'D' => (settings.classOf? true .digit .asciiDigit).map .set
  | 's' => (settings.classOf? false .blank .asciiBlank).map .set
  | 'S' => (settings.classOf? true .blank .asciiBlank).map .set
  | 'w' => (settings.classOf? false .word .asciiWord).map .set
  | 'W' => (settings.classOf? true .word .asciiWord).map .set
  | 'a' => some (.letter '\x07')
  | 'f' => some (.letter '\x0C')
  | 't' => some (.letter '\t')
  | 'n' => some (.letter '\n')
  | 'r' => some (.letter '\r')
  | 'v' => some (.letter '\x0B')
  | 'A' => some (.edge .textStart)
  | 'z' => some (.edge .textEnd)
  | 'B' => some (.edge (.notWordEdge settings.ascii))
  | '<' => some (.edge (.wordStart settings.ascii))
  | '>' => some (.edge (.wordEnd settings.ascii))
  | character => if isEscapable character then some (.letter character) else none

/-- Reads the name of a property: what stands in braces, or a single character. -/
def readPropertyName (settings : Settings) (text : Text) : Option (Text × Text) :=
  match settings.skip text with
  | [] => none
  | '\\' :: _ => none
  | '\x7B' :: rest =>
      match settings.span (· != '\x7D') (settings.skip rest) with
      | (name, '\x7D' :: rest) => some (name, rest)
      | _ => none
  | letter :: rest => some ([letter], rest)

/-- The name with an equality sign in place of its first sign of inequality. -/
def equated? : Text → Option Text
  | [] => none
  | '!' :: '=' :: value => some ('=' :: value)
  | character :: rest => (equated? rest).map (character :: ·)

/-- What a name asks for: one with a sign of inequality asks for all other characters. -/
def askedFor (negated : Bool) (name : Text) : Bool × Text :=
  match equated? name with
  | some equated => (!negated, equated)
  | none => (negated, name)

section Tables

variable [PropertyTable]

/--
The characters that have a property, or those that do not have it.  There are
no properties where the settings are those of ASCII.
-/
def Settings.property? (settings : Settings) (negated : Bool) (name : Text) : Option Escape := do
  guard (!settings.ascii)
  let (negated, name) := askedFor negated name
  let members ← PropertyTable.find? name
  return .set (CharSet.negateIf negated (settings.fold members))

/-- Reads a property behind `p`, or behind `P`, which stands for all other characters. -/
def readProperty (settings : Settings) (negated : Bool) (text : Text) :
    Option (Escape × Text) := do
  let (name, rest) ← readPropertyName settings text
  return (← settings.property? negated name, rest)

/-- Reads what follows a backslash. -/
def readEscape (settings : Settings) : Text → Option (Escape × Text)
  | [] => none
  | character :: rest =>
      match character with
      | 'x' => do let (character, rest) ← readHex settings 2 rest; return (.letter character, rest)
      | 'u' => do let (character, rest) ← readHex settings 4 rest; return (.letter character, rest)
      | 'U' => do let (character, rest) ← readHex settings 8 rest; return (.letter character, rest)
      | 'b' => do
          let (boundary, rest) ← readBoundaryName settings rest
          return (.edge boundary, rest)
      | 'p' => readProperty settings false rest
      | 'P' => readProperty settings true rest
      | character => (settings.escape? character).map fun escape => (escape, rest)

def readItem (settings : Settings) : Text → Option (Escape × Text)
  | [] => none
  | '\\' :: rest => readEscape settings rest
  | character :: rest => some (.letter character, rest)

/--
The characters of an item in brackets, which cannot be a condition.  The sets
behind a backslash are closed under change of case as they are.
-/
def Escape.characters? (settings : Settings) : Escape → Option CharSet
  | .letter character =>
      if settings.allows character then
        some (settings.fold (CharSet.single character))
      else
        none
  | .set characters => some characters
  | .edge _ => none

/-- Reads an item in brackets, or a range if a hyphen and a second item follow. -/
def readRange (settings : Settings) (text : Text) : Option (CharSet × Text) := do
  let (first, rest) ← readItem settings text
  let rest := settings.skip rest
  match rest with
  | [] => none
  | '-' :: behind =>
      match settings.skip behind with
      | ']' :: _ | '-' :: _ => return (← first.characters? settings, rest)
      | behind =>
          match first, ← readItem settings behind with
          | .letter first, (.letter last, rest) =>
              guard (first ≤ last && settings.allows last)
              return (settings.fold (.range first last), rest)
          | _, _ => none
  | _ => return (← first.characters? settings, rest)

end Tables

/-- Reads a named class such as `[:alpha:]` behind its first bracket. -/
def readNamedClass (text : Text) : Option (Bool × CharSet × Text) :=
  match text with
  | ':' :: rest => do
      let (negated, rest) :=
        match rest with
        | '^' :: rest => (true, rest)
        | rest => (false, rest)
      let (name, rest) ← Text.cutAt ':' rest
      let members ← CharSet.asciiClass? name
      match rest with
      | ']' :: rest => some (negated, members, rest)
      | _ => none
  | _ => none

/-- Reads the hyphens that stand at the start of brackets for themselves. -/
def takeHyphens (settings : Settings) (bracket : Bracket) : Nat → Text → Bracket × Text
  | 0, text => (bracket, text)
  | bound + 1, text =>
      match text with
      | '-' :: rest =>
          takeHyphens settings (bracket.addSingle '-') bound (settings.skip rest)
      | text => (bracket, text)

/-- Opens brackets: a circumflex negates, and a closing bracket at once stands for itself. -/
def openBracket (settings : Settings) (text : Text) : Bracket × Text :=
  let text := settings.skip text
  let (negated, text) :=
    match text with
    | '^' :: rest => (true, settings.skip rest)
    | text => (false, text)
  match text with
  | ']' :: rest =>
      (({ negated := negated } : Bracket).addSingle ']', settings.skip rest)
  | text => takeHyphens settings { negated := negated } (text.length + 1) text

namespace Reader

def add (reader : Reader) (piece : Piece) : Reader :=
  { reader with branches := reader.branches.add piece }

def openGroup (reader : Reader) (settings : Settings) (numbered : Bool) : Reader :=
  { reader with
    branches := {}
    groups := ⟨reader.branches, reader.settings, numbered⟩ :: reader.groups
    settings := settings }

def closeGroup (reader : Reader) : Option Reader :=
  match reader.groups with
  | [] => none
  | innermost :: groups =>
      some { reader with
        branches := innermost.outer.add (innermost.enclose reader.branches.close)
        groups := groups
        settings := innermost.settings }

def readSettings (settings : Settings) (on : Bool) (seen : List Char) :
    Text → Option (Settings × List Char × Char × Text)
  | [] => none
  | ':' :: rest => some (settings, seen, ':', rest)
  | ')' :: rest => some (settings, seen, ')', rest)
  | '-' :: rest => do
      guard on
      match rest with
      | ':' :: _ | ')' :: _ => none
      | rest => readSettings settings false ('-' :: seen) rest
  | letter :: rest => do
      guard (letter ∉ seen)
      let settings ← settings.switch letter on
      readSettings settings on (letter :: seen) rest

def beginsGroupName (character : Char) : Bool :=
  character == '_' || Text.alphabeticRanges.has character

def inGroupName (character : Char) : Bool :=
  beginsGroupName character || Text.numericRanges.has character || character ∈ ['.', '[', ']']

/-- Opens a named group; no two groups have the same name. -/
def openNamed (reader : Reader) (text : Text) : Option (Reader × Text) := do
  let (name, rest) ← Text.cutAt '>' text
  match name with
  | [] => none
  | first :: others =>
      guard (beginsGroupName first && others.all inGroupName)
      guard (!reader.names.contains name)
      return ({ reader.openGroup reader.settings true with names := name :: reader.names }, rest)

/-- Reads what follows an opening parenthesis. -/
def readGroup (reader : Reader) (text : Text) : Option (Reader × Text) :=
  match reader.settings.skip text with
  | '?' :: '=' :: _ | '?' :: '!' :: _ => none
  | '?' :: '<' :: '=' :: _ | '?' :: '<' :: '!' :: _ => none
  | '?' :: 'P' :: '<' :: rest | '?' :: '<' :: rest => reader.openNamed rest
  | '?' :: rest => do
      let (settings, seen, mark, rest) ← readSettings reader.settings true [] rest
      if mark = ':' then
        return (reader.openGroup settings false, rest)
      else
        guard (seen ≠ [])
        let branches := { reader.branches with parts := .change :: reader.branches.parts }
        return ({ reader with branches, settings }, rest)
  | text => some (reader.openGroup reader.settings true, text)

/-- Skips the mark that makes a repetition reluctant; whether a text matches does not change. -/
def skipReluctant : Text → Text
  | '?' :: rest => rest
  | text => text

def repeatLast (reader : Reader) (least : Nat) (most : Option Nat) (rest : Text) :
    Option (Reader × Text) := do
  let branches ← reader.branches.repeatLast least most
  return ({ reader with branches }, skipReluctant rest)

/-- Reads a count of repetitions, which has blanks around it at will. -/
def readCount (settings : Settings) (text : Text) : Option (Option Nat × Text) :=
  let (digits, rest) := settings.span Char.isDigit (text.dropWhile Text.isBlank)
  let rest := rest.dropWhile Text.isBlank
  if digits = [] then
    some (none, rest)
  else
    let count := Numeral.digitsValue digits
    if count < UInt32.size then some (some count, rest) else none

/-- Reads what follows an opening brace: a count, a least count, or both bounds. -/
def readCounts (reader : Reader) (text : Text) : Option (Reader × Text) := do
  let settings := reader.settings
  let (least, rest) ← readCount settings (settings.skip text)
  let least ← least
  match rest with
  | '\x7D' :: rest => reader.repeatLast least (some least) (settings.skip rest)
  | ',' :: rest =>
      match settings.skip rest with
      | '\x7D' :: rest => reader.repeatLast least none (settings.skip rest)
      | rest =>
          let (most, rest) ← readCount settings rest
          let most ← most
          guard (least ≤ most)
          match rest with
          | '\x7D' :: rest => reader.repeatLast least (some most) (settings.skip rest)
          | _ => none
  | _ => none

def addMembers (reader : Reader) (bracket : Bracket) (outer : List Bracket) (members : CharSet) :
    Reader :=
  { reader with brackets := bracket.add { set := members } :: outer }

def closeBracket (reader : Reader) (bracket : Bracket) : List Bracket → Reader
  | [] =>
      let members := bracket.close
      { reader with brackets := [] }.add
        { expression := .set members.set, depth := members.depth }
  | parent :: outer => { reader with brackets := parent.add bracket.close :: outer }

def escaped (settings : Settings) : Escape → Regex
  | .letter character => settings.letter character
  | .set characters => .set characters
  | .edge boundary => .edge boundary

section Tables

variable [PropertyTable]

def readPart (reader : Reader) : Text → Option (Reader × Text)
  | [] => some (reader, [])
  | '(' :: rest => reader.readGroup rest
  | ')' :: rest => do return (← reader.closeGroup, rest)
  | '|' :: rest => some ({ reader with branches := reader.branches.next }, rest)
  | '[' :: rest =>
      let (bracket, rest) := openBracket reader.settings rest
      some ({ reader with brackets := [bracket] }, rest)
  | '?' :: rest => reader.repeatLast 0 (some 1) rest
  | '*' :: rest => reader.repeatLast 0 none rest
  | '+' :: rest => reader.repeatLast 1 none rest
  | '\x7B' :: rest => reader.readCounts rest
  | '\\' :: rest => do
      let (escape, rest) ← readEscape reader.settings rest
      return (reader.add { expression := escaped reader.settings escape }, rest)
  | '.' :: rest => do
      let characters ← reader.settings.dot?
      return (reader.add { expression := .set characters }, rest)
  | '^' :: rest => some (reader.add { expression := .edge reader.settings.lineStart }, rest)
  | '$' :: rest => some (reader.add { expression := .edge reader.settings.lineEnd }, rest)
  | character :: rest => some (reader.add { expression := reader.settings.letter character }, rest)

def readInside (reader : Reader) (bracket : Bracket) (outer : List Bracket) :
    Text → Option (Reader × Text)
  | [] => none
  | '[' :: rest =>
      match readNamedClass rest with
      | some (negated, members, rest) => do
          guard (reader.settings.mayNegate negated)
          let members := CharSet.negateIf negated (reader.settings.fold members)
          return (reader.addMembers bracket outer members, rest)
      | none =>
          let (inner, rest) := openBracket reader.settings rest
          some ({ reader with brackets := inner :: bracket :: outer }, rest)
  | ']' :: rest => do
      guard (reader.settings.mayNegate bracket.negated)
      return (reader.closeBracket bracket outer, rest)
  | '&' :: '&' :: rest => some (operate .intersection rest)
  | '-' :: '-' :: rest => some (operate .difference rest)
  | '~' :: '~' :: rest => some (operate .symmetricDifference rest)
  | text => do
      let (members, rest) ← readRange reader.settings text
      return (reader.addMembers bracket outer members, rest)
where
  operate (operator : SetOperator) (rest : Text) : Reader × Text :=
    let bracket := bracket.operate operator
    ({ reader with brackets := bracket :: outer }, rest)

/-- Reads the next part or item. -/
def step (reader : Reader) (text : Text) : Option (Reader × Text) :=
  let text := reader.settings.skip text
  match reader.brackets with
  | [] => reader.readPart text
  | bracket :: outer => reader.readInside bracket outer text

/-- Reads a text to its end in at most so many steps. -/
def run : Nat → Reader → Text → Option Reader
  | _, reader, [] => some reader
  | 0, _, _ :: _ => none
  | bound + 1, reader, text => do
      let (reader, rest) ← reader.step text
      run bound reader rest

end Tables

/-- The expression that was read, if nothing is left open and its written form is not too deep. -/
def finish (reader : Reader) : Option Regex :=
  let piece := reader.branches.close
  if reader.groups.isEmpty && reader.brackets.isEmpty && piece.depth ≤ depthLimit then
    some piece.expression
  else
    none

end Reader

/-- Reads the written form of an expression. -/
def read [PropertyTable] (text : Text) : Option Regex := do
  let reader ← Reader.run text.length {} text
  reader.finish

end Regex

end RecordSearch
