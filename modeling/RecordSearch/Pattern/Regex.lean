import RecordSearch.Pattern.CharSet

/-!
# Regular expressions

The expressions themselves, what it means that one matches a stretch of a
text, and the search for such a stretch.

A position of a text is the number of characters before it.  `ends` takes the
positions at which a match may start to those at which it may end, so that
repetition closes a finite set of positions and the search always stops.  Sets
of positions are increasing lists, so equal sets are equal lists.
-/

namespace RecordSearch

/--
A condition on the two characters around a position.  The words of some
conditions are either those of all scripts or of ASCII characters only.
-/
inductive Boundary
  | textStart
  | textEnd
  | lineStart
  | lineEnd
  /-- The start of a line that may be ended by a carriage return as well. -/
  | returnStart
  | returnEnd
  | wordEdge (ascii : Bool)
  | notWordEdge (ascii : Bool)
  | wordStart (ascii : Bool)
  | wordEnd (ascii : Bool)
  | wordStartHalf (ascii : Bool)
  | wordEndHalf (ascii : Bool)
deriving DecidableEq, Repr

namespace Boundary

def isWord (ascii : Bool) (neighbour : Option Char) : Bool :=
  neighbour.any (if ascii then CharSet.asciiWord else CharSet.word).has

/-- Whether the condition holds between two neighbours, absent at the ends of the text. -/
def holds (before after : Option Char) : Boundary → Bool
  | .textStart => before.isNone
  | .textEnd => after.isNone
  | .lineStart => before.isNone || before == some '\n'
  | .lineEnd => after.isNone || after == some '\n'
  | .returnStart =>
      before.isNone || before == some '\n' || (before == some '\r' && after != some '\n')
  | .returnEnd =>
      after.isNone || after == some '\r' || (after == some '\n' && before != some '\r')
  | .wordEdge ascii => isWord ascii before != isWord ascii after
  | .notWordEdge ascii => isWord ascii before == isWord ascii after
  | .wordStart ascii => !isWord ascii before && isWord ascii after
  | .wordEnd ascii => isWord ascii before && !isWord ascii after
  | .wordStartHalf ascii => !isWord ascii before
  | .wordEndHalf ascii => !isWord ascii after

end Boundary

inductive Regex
  | nothing
  | set (characters : CharSet)
  | edge (boundary : Boundary)
  | sequence (first second : Regex)
  | either (first second : Regex)
  /-- A group whose place in a match can be asked for; it matches what its body matches. -/
  | group (body : Regex)
  /-- At least `least` matches in a row, and at most `most` of them if that is given. -/
  | repeated (body : Regex) (least : Nat) (most : Option Nat)

namespace Regex

def concatenation : List Regex → Regex
  | [] => .nothing
  | [expression] => expression
  | expression :: expressions => .sequence expression (concatenation expressions)

/-- The set of an expression that is one set of characters. -/
def set? : Regex → Option CharSet
  | .set characters => some characters
  | _ => none

/-- The expression that tries these expressions in turn. -/
def choice (first : Regex) : List Regex → Regex
  | [] => first
  | second :: rest => .either first (choice second rest)

/--
The expression that matches what one of these expressions matches.  If all of
them are sets of characters, so is the whole.
-/
def alternation (first : Regex) (rest : List Regex) : Regex :=
  match set? first, rest.mapM set? with
  | some members, some sets => .set (sets.foldl .union members)
  | _, _ => choice first rest

/-- One character, or one that differs from it in case only. -/
def letter (ignoreCase : Bool) (character : Char) : Regex :=
  .set (CharSet.foldIf ignoreCase (CharSet.single character))

def before (text : Array Char) (position : Nat) : Option Char :=
  if position = 0 then none else text[position - 1]?

def insert (position : Nat) : List Nat → List Nat
  | [] => [position]
  | other :: positions =>
      if position < other then
        position :: other :: positions
      else if position = other then
        other :: positions
      else
        other :: insert position positions

/-- Adds positions to an increasing list. -/
def gather (known new : List Nat) : List Nat :=
  new.foldl (fun positions position => insert position positions) known

/-- Takes a step `count` times, stopping early when nothing changes any more. -/
def advance (step : List Nat → List Nat) : Nat → List Nat → List Nat
  | 0, positions => positions
  | count + 1, positions =>
      let next := step positions
      if next = positions then positions else advance step count next

/--
Adds what can be reached from the frontier in up to `count` steps to the known
positions.  Only the positions that are new belong to the next frontier.
-/
def reach (step : List Nat → List Nat) : Nat → List Nat → List Nat → List Nat
  | 0, _, known => known
  | count + 1, frontier, known =>
      let new := (step frontier).filter (· ∉ known)
      if new = [] then known else reach step count new (gather known new)

/-- The positions at which a match that starts at one of `starts` can end. -/
def ends (text : Array Char) : Regex → List Nat → List Nat
  | .nothing, starts => starts
  | .set characters, starts =>
      (starts.filter fun position => text[position]?.any characters.has).map (· + 1)
  | .edge boundary, starts =>
      starts.filter fun position =>
        boundary.holds (before text position) text[position]?
  | .sequence first second, starts =>
      second.ends text (first.ends text starts)
  | .either first second, starts =>
      gather (first.ends text starts) (second.ends text starts)
  | .group body, starts => body.ends text starts
  | .repeated body least most, starts =>
      let required := advance (body.ends text) least starts
      let further :=
        match most with
        | some most => most - least
        | none => text.size
      reach (body.ends text) further required required

def matchesIn (expression : Regex) (text : Text) : Bool :=
  !(expression.ends text.toArray (List.range (text.length + 1))).isEmpty

/-- What expressions mean: `Spans text expression i j` says that one matches from `i` to `j`. -/
inductive Spans (text : Array Char) : Regex → Nat → Nat → Prop
  | nothing {position : Nat} :
      Spans text .nothing position position
  | set {characters : CharSet} {position : Nat} {character : Char}
      (present : text[position]? = some character)
      (member : characters.has character = true) :
      Spans text (.set characters) position (position + 1)
  | edge {boundary : Boundary} {position : Nat}
      (holds : boundary.holds (before text position) text[position]? = true) :
      Spans text (.edge boundary) position position
  | sequence {first second : Regex} {start middle stop : Nat}
      (matchFirst : Spans text first start middle)
      (matchSecond : Spans text second middle stop) :
      Spans text (.sequence first second) start stop
  | left {first second : Regex} {start stop : Nat}
      (matchFirst : Spans text first start stop) :
      Spans text (.either first second) start stop
  | right {first second : Regex} {start stop : Nat}
      (matchSecond : Spans text second start stop) :
      Spans text (.either first second) start stop
  | group {body : Regex} {start stop : Nat}
      (matchBody : Spans text body start stop) :
      Spans text (.group body) start stop
  | done {body : Regex} {most : Option Nat} {position : Nat} :
      Spans text (.repeated body 0 most) position position
  | required {body : Regex} {least : Nat} {most : Option Nat} {start middle stop : Nat}
      (matchBody : Spans text body start middle)
      (matchRest : Spans text (.repeated body least (most.map (· - 1))) middle stop) :
      Spans text (.repeated body (least + 1) most) start stop
  | further {body : Regex} {most : Option Nat} {start middle stop : Nat}
      (allowed : most ≠ some 0)
      (matchBody : Spans text body start middle)
      (matchRest : Spans text (.repeated body 0 (most.map (· - 1))) middle stop) :
      Spans text (.repeated body 0 most) start stop

end Regex

end RecordSearch
