import RecordSearch.Pattern.Regex
import RecordSearch.Text.Utf8

/-!
# The size of an expression

An expression is run by two automata over bytes, one that reads a text from the
front and one that reads it from the back.  A counted repetition repeats the
states of its body, so a short expression can need many.  The memory for the
states is computed here without building them, and an expression whose automata
would be larger than `limit` is not accepted.
-/

namespace RecordSearch

-- Sums of natural numbers start from the core zero, whatever other instances are in scope.
attribute [local instance (high)] Zero.ofOfNat0

/-- The end of a text at which an automaton starts. -/
inductive Direction
  | forward
  | backward
deriving DecidableEq, Repr

namespace Memory

/-- The bytes of memory of one state. -/
def state : Nat := 32

/-- The bytes of memory of one branch of a fork. -/
def branch : Nat := 4

/-- The bytes of memory of one byte range of a state with several. -/
def range : Nat := 8

/-- The bytes of memory that one automaton may take. -/
def limit : Nat := 10 * 1024 * 1024

def fork (branches : Nat) : Nat :=
  state + branches * branch

/-- A state with a transition for each first range of some sequences. -/
def ranged (sequences : List Text.Utf8.Sequence) : Nat :=
  state + (Text.Utf8.branches sequences).length * range

/-- The states that read one of some sequences forward; beginnings that go on alike share theirs. -/
def readForward (sequences : List Text.Utf8.Sequence) : Nat :=
  state + (((Text.Utf8.stages 4 sequences).eraseDups).map ranged).sum

/--
The states that read one sequence of some backward.  A fork leads to the last
byte of each, and every way to begin has one state for each way to go on.
-/
def readBackward (sequences : List Text.Utf8.Sequence) : Nat :=
  let transitions := (Text.Utf8.stages 4 sequences).map fun stage =>
    (Text.Utf8.branches stage).length
  fork sequences.length + state + transitions.sum * state

/--
The states that read a character of some sequences.  The bytes of a single
character need a state each, and characters of one byte share two states.
-/
def character (direction : Direction) (sequences : List Text.Utf8.Sequence) : Nat :=
  match sequences with
  | [] => state
  | [sequence] =>
      if sequence.all fun bytes => bytes.1 == bytes.2 then
        sequence.length * state
      else
        several [sequence]
  | sequences => several sequences
where
  several (sequences : List Text.Utf8.Sequence) : Nat :=
    if sequences.all fun sequence => sequence.length == 1 then
      2 * state + sequences.length * range
    else
      match direction with
      | .forward => readForward sequences
      | .backward => readBackward sequences

/-- A repetition within some bounds, each turn of which takes `body` bytes. -/
def repetition (nonempty : Bool) (body : Nat) : Nat → Option Nat → Nat
  | 0, none =>
      if nonempty then fork 2 + body else 2 * fork 2 + state + body
  | 0, some 0 => 0
  | 0, some 1 => fork 2 + state + body
  | 0, some most => 2 * state + most * (fork 2 + body)
  | least, none => least * body + fork 2
  | least, some most =>
      if least = most then
        least * body
      else
        least * body + state + (most - least) * (fork 2 + body)

end Memory

namespace Regex

/-- Whether every match is empty. -/
def isWidthless : Regex → Bool
  | .nothing => true
  | .set _ => false
  | .edge _ => true
  | .sequence first second => first.isWidthless && second.isWidthless
  | .either first second => first.isWidthless && second.isWidthless
  | .group body => body.isWidthless
  | .repeated body _ most => body.isWidthless || most == some 0

/-- Whether every match has a character. -/
def isNonempty : Regex → Bool
  | .nothing => false
  | .set _ => true
  | .edge _ => false
  | .sequence first second => first.isNonempty || second.isNonempty
  | .either first second => first.isNonempty && second.isNonempty
  | .group body => body.isNonempty
  | .repeated body least _ => 0 < least && body.isNonempty

/-- The bounds of a repetition, which are at most one for a body without width. -/
def bounds (body : Regex) (least : Nat) (most : Option Nat) : Nat × Option Nat :=
  if body.isWidthless then
    (min least 1, some (min (most.getD 1) 1))
  else
    (least, most)

/-- Whether the expression is nothing and needs no states inside a sequence. -/
def isVoid : Regex → Bool
  | .nothing => true
  | .sequence first second => first.isVoid && second.isVoid
  | .repeated body least most =>
      match bounds body least most with
      | (0, some 0) => true
      | (1, some 1) => body.isVoid
      | _ => false
  | _ => false

/-- The states of an expression outside a sequence, where one that is void has a state too. -/
def memoryAlone (expression : Regex) (inside : Nat) : Nat :=
  if expression.isVoid then Memory.state else inside

/-- A branch of a fork.  A choice within a choice adds its own branches to the outer fork. -/
def memoryInChoice (expression : Regex) (inside : Nat) : Nat :=
  match expression with
  | .either _ _ => inside - (Memory.fork 0 + Memory.state)
  | expression => Memory.branch + memoryAlone expression inside

/-- The bytes of memory of the states of an expression inside a sequence. -/
def memory (direction : Direction) : Regex → Nat
  | .nothing => 0
  | .set characters =>
      Memory.character direction (Text.Utf8.sequences characters.spans)
  | .edge _ => Memory.state
  | .sequence first second => first.memory direction + second.memory direction
  | .either first second =>
      Memory.fork 0 + Memory.state +
        memoryInChoice first (first.memory direction) +
        memoryInChoice second (second.memory direction)
  | .group body =>
      let inside := memoryAlone body (body.memory direction)
      match direction with
      | .forward => 2 * Memory.state + inside
      | .backward => inside
  | .repeated body least most =>
      let inside := body.memory direction
      match bounds body least most with
      | (1, some 1) => inside
      | (least, most) =>
          Memory.repetition body.isNonempty (memoryAlone body inside) least most

/-- The bytes of memory of a whole automaton, with its ends. -/
def automaton (direction : Direction) (expression : Regex) : Nat :=
  let ends :=
    match direction with
    | .forward => 4
    | .backward => 2
  ends * Memory.state + memoryAlone expression (expression.memory direction)

/-- The expression, if its automata are small enough. -/
def fit (expression : Regex) : Option Regex :=
  if expression.automaton .forward ≤ Memory.limit ∧
      expression.automaton .backward ≤ Memory.limit then
    some expression
  else
    none

end Regex

end RecordSearch
