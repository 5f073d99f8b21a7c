import RecordSearch.Proofs.Globs
import RecordSearch.Proofs.RepeatedEnd

/-!
# Forms for whole values

The body of a regular expression is put into a group between the two ends of the text, in which case
is ignored.  The reader comes to the body with this group open, and the parenthesis behind the body
closes it.  What is read is two levels deeper than the body, and it matches in the texts that the
body matches from end to end.
-/

namespace RecordSearch.Regex

variable {reader final : Reader} {text rest body : Text} {bound : Nat}
  {expression wide : Regex}

def wholeGroup : Group where
  outer := { parts := [.term { expression := .edge .textStart }, .change] }
  settings := { ignoreCase := true }
  numbered := false

def wholeStart : Reader where
  groups := [wholeGroup]
  settings := { ignoreCase := true }

/-- The expression for the whole texts that the body matches. -/
def whole (body : Regex) : Regex :=
  concatenation [.nothing, .edge .textStart, body, .edge .textEnd]

section Runs

variable [PropertyTable]

theorem run_succ_of_step {next : Reader} (nonempty : text ≠ [])
    (stepped : reader.step text = some (next, rest)) :
    Reader.run (bound + 1) reader text = Reader.run bound next rest := by
  obtain ⟨first, behind, rfl⟩ := List.exists_cons_of_ne_nil nonempty
  simp only [Reader.run, stepped]
  rfl

theorem run_wholeStart (bound : Nat) (rest : Text) :
    Reader.run (bound + 3) {} ("(?i)^(?:".toList ++ rest) = Reader.run bound wholeStart rest :=
  rfl

/-- A body is read up to the parenthesis behind it in the group around it. -/
theorem readWhole_eq (body : Text) :
    readWhole body =
      ((Reader.run (body.length + 7) wholeStart (body ++ plainEnd)).bind Reader.finish).bind
        fit := by
  have length : ("(?i)^(?:".toList ++ body ++ ")$".toList).length = body.length + 7 + 3 := by
    simp
  have steps : Reader.run (body.length + 7 + 3) {} ("(?i)^(?:".toList ++ body ++ ")$".toList) =
      Reader.run (body.length + 7) wholeStart (body ++ plainEnd) := by
    rw [List.append_assoc]
    exact run_wholeStart _ _
  unfold readWhole read
  rw [length, steps]
  rfl

end Runs

section Ends

/-- The reader behind the parenthesis that closes the group of a whole form. -/
def Reader.leaveWhole (reader : Reader) : Reader :=
  { reader with
    branches := wholeGroup.outer.add (wholeGroup.enclose reader.branches.close)
    groups := []
    settings := wholeGroup.settings }

/-- The reader behind a whole form whose body has been read. -/
def Reader.closeWhole (reader : Reader) : Reader :=
  reader.leaveWhole.add { expression := .edge .textEnd }

theorem run_plainEnd [PropertyTable] (bound : Nat) (outside : reader.brackets = [])
    (closed : reader.groups = [wholeGroup]) :
    Reader.run (bound + 2) reader plainEnd = some reader.closeWhole := by
  have nonempty {first : Char} {rest : Text} : first :: rest ≠ [] := List.cons_ne_nil _ _
  have parenthesis : reader.step plainEnd = some (reader.leaveWhole, ['$']) := by
    rw [step_of_outside outside, skip_plainEnd]
    simp only [plainEnd, Reader.readPart, Reader.closeGroup, closed]
    rfl
  have dollar : reader.leaveWhole.step ['$'] = some (reader.closeWhole, []) := by
    have still : reader.leaveWhole.brackets = [] := outside
    rw [step_of_outside still]
    rfl
  refine (run_eq_some_iff nonempty).2 ⟨_, _, _, rfl, parenthesis, ?_⟩
  exact (run_eq_some_iff nonempty).2 ⟨_, _, _, rfl, dollar, run_nil _ _⟩

/-- A whole form is two levels deeper than its body. -/
theorem finish_closeWhole (outside : reader.brackets = []) :
    reader.closeWhole.finish =
      if reader.branches.close.depth + 2 ≤ depthLimit then
        some (whole reader.branches.close.expression)
      else
        none := by
  have depth : reader.closeWhole.branches.close.depth = reader.branches.close.depth + 2 := by
    change max (max (max 0 0) (reader.branches.close.depth + 1)) 0 + 1 = _
    omega
  have closed : reader.closeWhole.brackets.isEmpty = true := List.isEmpty_iff.2 outside
  unfold Reader.finish
  simp only [depth, closed]
  simp only [Reader.closeWhole, Reader.leaveWhole, Reader.add, List.isEmpty_nil, Bool.true_and,
    decide_eq_true_eq]
  rfl

end Ends

section Meaning

/-- A whole form matches in the texts that its body matches from end to end. -/
theorem matchesIn_whole_iff :
    (whole expression).matchesIn text = true ↔
      Spans text.toArray expression 0 text.length := by
  rw [matchesIn_iff]
  simp only [whole, spans_concatenation_iff, Chain, spans_nothing_iff, spans_edge_iff,
    holds_textEnd_iff, List.size_toArray]
  constructor
  · rintro ⟨start, inside, stop, _, rfl, _, ⟨rfl, atStart⟩, last, matched, _, ⟨rfl, atEnd⟩, rfl⟩
    obtain rfl := (holds_textStart_iff (by simpa using inside)).1 atStart
    have forward := matched.forward
    rw [List.size_toArray] at forward
    obtain rfl : last = text.length := by omega
    exact matched
  · intro matched
    refine ⟨0, Nat.zero_le _, text.length, 0, rfl, 0, ⟨rfl, ?_⟩, text.length, matched, _,
      ⟨rfl, Nat.le_refl _⟩, rfl⟩
    exact (holds_textStart_iff (Nat.zero_le _)).2 rfl

end Meaning

end RecordSearch.Regex
