import RecordSearch.Proofs.Outlines
import RecordSearch.Proofs.PlainPatterns

/-!
# Regular expressions for whole values

The literal for a regular expression puts the text of the expression between the parentheses of a
group.  If the text is an expression by itself, the literal asks for values that it matches from end
to end without regard to case.  But the text is put there as it stands: a comment at its end takes
the closing parenthesis with it, and a text that closes the group itself can be read there although
it is no expression.
-/

namespace RecordSearch

namespace Regex

variable {reader final : Reader} {body text : Text} {levels : Nat} {expression : Regex}
  {one other : Settings}

/-- The expression of a reader that is done, if its written form nests in so many levels. -/
def Reader.finishWithin (levels : Nat) (reader : Reader) : Option Regex :=
  if reader.groups = [] ∧ reader.brackets = [] ∧ reader.branches.close.depth ≤ levels then
    some reader.branches.close.expression
  else
    none

/-- Reads a written form under some settings, if it nests in so many levels. -/
def readWithin [PropertyTable] (levels : Nat) (settings : Settings) (text : Text) : Option Regex :=
  (Reader.run text.length { settings := settings } text).bind (Reader.finishWithin levels)

/-- The settings of an expression that is read without regard to case. -/
def caseless : Settings where
  ignoreCase := true

/-- The end of a whole form is part of a comment at the end of the body: where no group is open, its
parenthesis can be read nowhere else. -/
def EndsInComment [PropertyTable] (body : Text) : Prop :=
  (read (body ++ plainEnd)).isSome

instance [PropertyTable] : DecidablePred EndsInComment := fun _ =>
  inferInstanceAs (Decidable (_ = true))

section Levels

theorem finishWithin_eq_some_iff :
    reader.finishWithin levels = some expression ↔
      reader.groups = [] ∧ reader.brackets = [] ∧ reader.branches.close.depth ≤ levels ∧
        reader.branches.close.expression = expression := by
  rw [Reader.finishWithin, Option.ite_none_right_eq_some, Option.some.injEq, and_assoc, and_assoc]

theorem finishWithin_depthLimit (reader : Reader) :
    reader.finishWithin depthLimit = reader.finish := by
  ext expression
  rw [finishWithin_eq_some_iff, finish_eq_some_iff]

/-- Without settings of its own a written form is read within the limit. -/
theorem readWithin_depthLimit [PropertyTable] (text : Text) :
    readWithin depthLimit {} text = read text :=
  Option.bind_congr fun reader _ => finishWithin_depthLimit reader

theorem isSome_finishWithin_iff :
    (reader.finishWithin levels).isSome ↔
      reader.groups = [] ∧ reader.brackets = [] ∧ reader.branches.close.depth ≤ levels := by
  rw [Reader.finishWithin, Option.isSome_ite]

theorem isSome_finishWithin_of_outline {one other : Reader} (same : one.outline = other.outline)
    (levels : Nat) : (one.finishWithin levels).isSome = (other.finishWithin levels).isSome := by
  have alone (reader : Reader) :
      (reader.outline.finishWithin levels).isSome = (reader.finishWithin levels).isSome := by
    have depth : reader.outline.branches.close.depth = reader.branches.close.depth :=
      reader.branches.depth_close_outline
    rw [Bool.eq_iff_iff, isSome_finishWithin_iff, isSome_finishWithin_iff,
      groups_outline_eq_nil_iff, brackets_outline_eq_nil_iff, depth]
  rw [← alone one, same, alone other]

/-- Regard to case makes no difference to what can be read. -/
theorem isSome_readWithin [PropertyTable] (same : one.outline = other.outline) (levels : Nat)
    (text : Text) :
    (readWithin levels one text).isSome = (readWithin levels other text).isSome := by
  have start :
      ({ settings := one } : Reader).outline = ({ settings := other } : Reader).outline := by
    rw [Reader.outline, same]
    rfl
  have runs := outline_run start text.length text
  unfold readWithin
  cases first : Reader.run text.length { settings := one } text with
  | none =>
      rw [first, Option.map_none, eq_comm, Option.map_eq_none_iff] at runs
      rw [runs]
  | some final =>
      rw [first, Option.map_some, eq_comm, Option.map_eq_some_iff] at runs
      obtain ⟨otherFinal, second, finalSame⟩ := runs
      rw [second]
      exact isSome_finishWithin_of_outline finalSame.symm levels

theorem outline_caseless : caseless.outline = ({} : Settings).outline :=
  rfl

theorem isSome_readWithin_caseless [PropertyTable] (text : Text) :
    (readWithin depthLimit caseless text).isSome = (read text).isSome := by
  rw [← readWithin_depthLimit]
  exact isSome_readWithin outline_caseless depthLimit text

end Levels

section Bodies

theorem inside_nil (reader : Reader) : reader.inside [] = reader := by
  rw [Reader.inside, List.append_nil]

variable [PropertyTable]

theorem not_finish_run_plainEnd {bound : Nat} (ungrouped : reader.groups = [])
    (outside : reader.brackets = []) : Reader.run (bound + 1) reader plainEnd = none := by
  have refused : reader.step plainEnd = none := by
    rw [step_of_outside outside, skip_plainEnd]
    simp only [plainEnd, Reader.readPart, Reader.closeGroup, ungrouped]
    rfl
  change (reader.step plainEnd).bind _ = none
  rw [refused]
  rfl

/-- If the end is left behind a body that has been read, it is not part of a comment. -/
theorem endsInComment_iff {ending : Text}
    (finished : final.finishWithin depthLimit = some expression)
    (either : ending = [] ∨ ending = plainEnd)
    (onward : ∃ left ≥ 2, Reader.run (body.length + 2) { settings := caseless } (body ++ plainEnd) =
      Reader.run left final ending) :
    EndsInComment body ↔ ending = [] := by
  obtain ⟨left, enough, same⟩ := onward
  have length : (body ++ plainEnd).length = body.length + 2 := List.length_append
  rw [EndsInComment, ← isSome_readWithin_caseless, readWithin, length, same]
  rcases either with rfl | rfl
  · rw [run_nil, Option.bind_some, finished]
    exact iff_of_true rfl rfl
  · obtain ⟨ungrouped, outside, _⟩ := finishWithin_eq_some_iff.1 finished
    obtain ⟨left, rfl⟩ := Nat.exists_eq_succ_of_ne_zero (by omega : left ≠ 0)
    rw [not_finish_run_plainEnd ungrouped outside]
    exact iff_of_false nofun nofun

/-- The levels of a body that has been read fit within the two levels of the whole form. -/
theorem isSome_readWithin_inside_iff
    (run : Reader.run body.length { settings := caseless } body = some final)
    (ungrouped : final.groups = []) (outside : final.brackets = []) :
    (readWithin (depthLimit - 2) caseless body).isSome ↔
      (final.inside [wholeGroup]).branches.close.depth + 2 ≤ depthLimit := by
  have limit : 2 ≤ depthLimit := by decide
  rw [readWithin, run, Option.bind_some, isSome_finishWithin_iff]
  change _ ∧ _ ∧ final.branches.close.depth ≤ _ ↔ final.branches.close.depth + 2 ≤ _
  exact ⟨fun all => Nat.add_le_of_le_sub limit all.2.2,
    fun shallow => ⟨ungrouped, outside, Nat.le_sub_of_add_le shallow⟩⟩

/-- A body that is an expression is read in the group of its whole form, unless it ends in a comment
or its form nests too deeply there. -/
theorem readWhole_eq_of_read (readable : (read body).isSome) :
    ∃ expression, readWithin depthLimit caseless body = some expression ∧
      readWhole body =
        if ¬EndsInComment body ∧ (readWithin (depthLimit - 2) caseless body).isSome then
          (whole expression).fit
        else
          none := by
  rw [← isSome_readWithin_caseless] at readable
  obtain ⟨expression, read⟩ := Option.isSome_iff_exists.1 readable
  obtain ⟨final, run, finished⟩ := Option.bind_eq_some_iff.1 read
  obtain ⟨ungrouped, outside, _, equal⟩ := finishWithin_eq_some_iff.1 finished
  obtain ⟨ending, either, onward⟩ := (continued_append body).exists_ending run outside
  have alone := onward [] 2
  rw [inside_nil, inside_nil] at alone
  have comment : EndsInComment body ↔ ending = [] := endsInComment_iff finished either alone
  refine ⟨expression, read, ?_⟩
  obtain ⟨left, enough, inside⟩ := onward [wholeGroup] 7
  have start : ({ settings := caseless } : Reader).inside [wholeGroup] = wholeStart := rfl
  rw [readWhole_eq, ← start, inside]
  simp only [comment, isSome_readWithin_inside_iff run ungrouped outside]
  rcases either with rfl | rfl
  · rw [run_nil, Option.bind_some, finish_inside_eq_none (List.cons_ne_nil _ _),
      if_neg fun both => both.1 rfl]
    rfl
  · obtain ⟨left, rfl⟩ := Nat.exists_eq_add_of_le' (Nat.le_trans (by decide : 2 ≤ 7) enough)
    have closed : (final.inside [wholeGroup]).groups = [wholeGroup] := by
      rw [Reader.inside, ungrouped, List.nil_append]
    have stillOutside : (final.inside [wholeGroup]).brackets = [] := outside
    have left : plainEnd ≠ [] := List.cons_ne_nil _ _
    rw [run_plainEnd _ stillOutside closed, Option.bind_some, finish_closeWhole stillOutside,
      ← equal]
    by_cases shallow : (final.inside [wholeGroup]).branches.close.depth + 2 ≤ depthLimit
    · rw [if_pos shallow, if_pos ⟨left, shallow⟩]
      rfl
    · rw [if_neg shallow, if_neg fun both => shallow both.2]
      rfl

/-- A body that is no expression is read in the group of its whole form only if it closes it. -/
theorem strays_of_readWhole (unreadable : read body = none) (readable : (readWhole body).isSome) :
    Strays {} body := by
  obtain ⟨expression, whole⟩ := Option.isSome_iff_exists.1 readable
  rw [readWhole_eq] at whole
  obtain ⟨_, whole, _⟩ := Option.bind_eq_some_iff.1 whole
  obtain ⟨final, run, finished⟩ := Option.bind_eq_some_iff.1 whole
  have start : ({ settings := caseless } : Reader).inside [wholeGroup] = wholeStart := rfl
  have refused :
      (Reader.run body.length { settings := caseless } body).bind Reader.finish = none := by
    have same := isSome_readWithin_caseless body
    have finish : Reader.finishWithin depthLimit = Reader.finish :=
      funext finishWithin_depthLimit
    rwa [unreadable, Option.isSome_none, Option.isSome_eq_false_iff, Option.isNone_iff_eq_none,
      readWithin, finish] at same
  have strays := (continued_append body).strays (Nat.le_refl _) refused run finished
  exact strays.of_outline rfl

end Bodies

end Regex

namespace Matcher

open Regex (caseless depthLimit)

variable {body : Text}

/-- The literal for a text that is a regular expression by itself compiles unless the text ends in a
comment, or nests or grows too large with the group around it.  It accepts the values that the
expression matches from end to end without regard to case.  If a text is no regular expression but
the literal compiles, a parenthesis of the text closes the group around it. -/
theorem expression_matches_whole_value [PropertyTable] (trimmed : Text.trimEnd body = body) :
    ((Regex.read body).isSome →
      ∃ expression, Regex.readWithin depthLimit caseless body = some expression ∧
        ((compile .string (regexMark ++ body)).isSome ↔
          ¬Regex.EndsInComment body ∧
            (Regex.readWithin (depthLimit - 2) caseless body).isSome ∧
            (Regex.whole expression).fit.isSome) ∧
        ∀ matcher, compile .string (regexMark ++ body) = some matcher → ∀ text,
          (matcher.accepts (.string text) = true ↔
            Regex.Spans text.toArray expression 0 text.length)) ∧
    (Regex.read body = none → (compile .string (regexMark ++ body)).isSome →
      Regex.Strays {} body) := by
  rw [compile_expression trimmed, Option.isSome_map]
  refine ⟨fun readable => ?_, Regex.strays_of_readWhole⟩
  obtain ⟨expression, read, whole⟩ := Regex.readWhole_eq_of_read readable
  rw [whole]
  refine ⟨expression, read, ?_, fun matcher compiled text => ?_⟩
  · split
    next inside => simp only [inside, not_false_eq_true, true_and]
    next outside =>
      exact iff_of_false nofun fun all => outside ⟨all.1, all.2.1⟩
  · obtain ⟨pattern, fits, rfl⟩ := Option.map_eq_some_iff.1 compiled
    split at fits
    next =>
      obtain rfl := Regex.eq_of_fit fits
      exact Regex.matchesIn_whole_iff
    next => cases fits

end Matcher

namespace Samples

open Matcher

theorem expression_matches_whole_value_s :
    Text.trimEnd "s".toList = "s".toList ∧ ∃ matcher,
      compile .string (regexMark ++ "s".toList) = some matcher ∧
        matcher.accepts (.string "S".toList) = true := by
  have trimmed : Text.trimEnd "s".toList = "s".toList := by decide
  obtain ⟨valid, -⟩ := expression_matches_whole_value trimmed
  obtain ⟨expression, read, -, accepts⟩ := valid rfl
  obtain ⟨matcher, compiled⟩ := compile_escapedForm_s
  have letter : expression = Regex.letter true 's' := (Option.some.inj read).symm
  refine ⟨trimmed, matcher, compiled, (accepts matcher compiled _).2 ?_⟩
  rw [letter]
  exact Regex.spans_letter_iff.2 ⟨rfl, 'S', rfl, by decide +kernel⟩

/-- A text that is no regular expression closes the group around it and opens another one, and its
literal accepts a value that no part of it describes.  The end of another text is a comment, and
its literal does not compile although the text is a regular expression. -/
theorem whole_form_is_not_apart :
    (Regex.read ")|(?:".toList = none ∧
      ∃ matcher, compile .string (regexMark ++ ")|(?:".toList) = some matcher ∧
        matcher.accepts (.string "x".toList) = true) ∧
    (Regex.read "(?x)#".toList).isSome ∧
      compile .string (regexMark ++ "(?x)#".toList) = none := by
  have closing : Text.trimEnd ")|(?:".toList = ")|(?:".toList := by decide
  have comment : Text.trimEnd "(?x)#".toList = "(?x)#".toList := by decide
  rw [compile_expression closing, compile_expression comment]
  refine ⟨⟨by decide +kernel, ?_⟩, by decide +kernel, ?_⟩
  · have accepted : (Regex.readWhole ")|(?:".toList).any (Regex.matchesIn · "x".toList) = true := by
      decide +kernel
    obtain ⟨expression, read, accepts⟩ := (Option.any_eq_true (Regex.matchesIn · _) _).1 accepted
    exact ⟨.pattern expression, congrArg (Option.map _) read, accepts⟩
  · have refused : Regex.readWhole "(?x)#".toList = none := by decide +kernel
    exact congrArg (Option.map _) refused

end Samples

end RecordSearch
