import RecordSearch.Proofs.StepsAhead
import RecordSearch.Proofs.WholeForms

/-!
# Reading inside a frame

What is read does not depend on the groups around it, up to a parenthesis that closes one of them.
So a body is read inside a frame of open groups as it is read alone, unless a closing parenthesis of
its own strays: none of its groups is open there.
-/

namespace RecordSearch.Regex

variable {reader next final : Reader} {frame : List Group} {text narrow wide : Text}
  {bound more : Nat} {expression : Regex}

/-- The reader with some open groups around the ones that it has opened. -/
def Reader.inside (reader : Reader) (frame : List Group) : Reader :=
  { reader with groups := reader.groups ++ frame }

def framed (frame : List Group) (reading : Reader × Text) : Reader × Text :=
  (reading.1.inside frame, reading.2)

/-- The next part is a closing parenthesis, and no group is open. -/
structure StrayEnd (reader : Reader) (text : Text) : Prop where
  outside : reader.brackets = []
  ungrouped : reader.groups = []
  closing : ∃ rest, reader.settings.skip text = ')' :: rest

/-- Reading comes to a closing parenthesis when no group is open. -/
inductive Strays [PropertyTable] : Reader → Text → Prop
  | here {reader : Reader} {text : Text} : StrayEnd reader text → Strays reader text
  | later {reader next : Reader} {text rest : Text} :
      reader.step text = some (next, rest) → Strays next rest → Strays reader text

section Groups

theorem openNamed_inside (reader : Reader) (frame : List Group) (text : Text) :
    (reader.inside frame).openNamed text = (reader.openNamed text).map (framed frame) := by
  unfold Reader.openNamed
  cases Text.cutAt '>' text with
  | none => rfl
  | some cut =>
      obtain ⟨name, rest⟩ := cut
      cases name with
      | nil => rfl
      | cons first others =>
          simp only [Option.bind_eq_bind, Option.bind_some]
          by_cases proper : (Reader.beginsGroupName first && others.all Reader.inGroupName) = true
          · by_cases fresh : (!reader.names.contains (first :: others)) = true
            · simp only [proper, fresh, Reader.inside, guard_true]
              rfl
            · simp only [fresh, Reader.inside]
              simp
          · simp [proper]

theorem applySettings_inside (reader : Reader) (frame : List Group)
    (reading : (Settings × List Char × Char) × Text) :
    applySettings (reader.inside frame) reading =
      (applySettings reader reading).map (framed frame) := by
  unfold applySettings
  split
  split
  · rfl
  · split <;> rfl

theorem readFlags_inside (reader : Reader) (frame : List Group) (text : Text) :
    readFlags (reader.inside frame) text = (readFlags reader text).map (framed frame) := by
  rw [readFlags_eq, readFlags_eq, Option.map_bind]
  exact congrArg _ (funext (applySettings_inside reader frame))

theorem readAngle_inside (reader : Reader) (frame : List Group) (text : Text) :
    readAngle (reader.inside frame) text = (readAngle reader text).map (framed frame) := by
  unfold readAngle
  split
  · rfl
  · rfl
  · exact openNamed_inside reader frame _

theorem readQuestion_inside (reader : Reader) (frame : List Group) (text : Text) :
    readQuestion (reader.inside frame) text = (readQuestion reader text).map (framed frame) := by
  unfold readQuestion
  split
  · rfl
  · rfl
  · exact readAngle_inside reader frame _
  · exact openNamed_inside reader frame _
  · exact readFlags_inside reader frame _

theorem readGroup_inside (reader : Reader) (frame : List Group) (text : Text) :
    (reader.inside frame).readGroup text = (reader.readGroup text).map (framed frame) := by
  rw [readGroup_eq, readGroup_eq]
  change readOpening _ (reader.settings.skip text) = _
  unfold readOpening
  split
  · exact readQuestion_inside reader frame _
  · rfl

end Groups

section Repetitions

theorem repeatLast_inside (reader : Reader) (frame : List Group) (least : Nat)
    (most : Option Nat) (text : Text) :
    (reader.inside frame).repeatLast least most text =
      (reader.repeatLast least most text).map (framed frame) := by
  unfold Reader.repeatLast
  change (reader.branches.repeatLast least most).bind _ = _
  cases reader.branches.repeatLast least most <;> rfl

theorem readBounded_inside (reader : Reader) (frame : List Group) (least : Nat)
    (most : Option Nat) (text : Text) :
    readBounded (reader.inside frame) least most text =
      (readBounded reader least most text).map (framed frame) := by
  unfold readBounded
  split
  · exact repeatLast_inside reader frame _ _ _
  · rfl

theorem readGreatest_inside (reader : Reader) (frame : List Group) (least : Nat) (text : Text) :
    readGreatest (reader.inside frame) least text =
      (readGreatest reader least text).map (framed frame) := by
  unfold readGreatest
  change (Reader.readCount reader.settings text).bind _ = _
  cases Reader.readCount reader.settings text with
  | none => rfl
  | some count =>
      obtain ⟨most, rest⟩ := count
      cases most with
      | none => rfl
      | some most =>
          simp only [Option.bind_eq_bind, Option.bind_some, readBounded_inside]
          by_cases ordered : least ≤ most <;> simp [ordered]

theorem readUpper_inside (reader : Reader) (frame : List Group) (least : Nat) (text : Text) :
    readUpper (reader.inside frame) least text =
      (readUpper reader least text).map (framed frame) := by
  unfold readUpper
  split
  · exact repeatLast_inside reader frame _ _ _
  · exact readGreatest_inside reader frame least _

theorem readLower_inside (reader : Reader) (frame : List Group) (least : Nat) (text : Text) :
    readLower (reader.inside frame) least text =
      (readLower reader least text).map (framed frame) := by
  unfold readLower
  split
  · exact repeatLast_inside reader frame _ _ _
  · exact readUpper_inside reader frame least _
  · rfl

theorem readCounts_inside (reader : Reader) (frame : List Group) (text : Text) :
    (reader.inside frame).readCounts text = (reader.readCounts text).map (framed frame) := by
  rw [readCounts_eq, readCounts_eq]
  change (Reader.readCount reader.settings (reader.settings.skip text)).bind _ = _
  cases Reader.readCount reader.settings (reader.settings.skip text) with
  | none => rfl
  | some count =>
      obtain ⟨least, rest⟩ := count
      cases least with
      | none => rfl
      | some least => exact readLower_inside reader frame least rest

end Repetitions

section Steps

theorem guard_map {α β : Type} (make : α → β) (condition : Prop) [Decidable condition]
    (reading : Option α) :
    (do guard condition; reading.map make) = (do guard condition; reading).map make := by
  by_cases holds : condition <;> simp [holds]

theorem closeBracket_inside (reader : Reader) (frame : List Group) (bracket : Bracket)
    (outer : List Bracket) :
    (reader.inside frame).closeBracket bracket outer =
      (reader.closeBracket bracket outer).inside frame := by
  cases outer <;> rfl

theorem closeGroup_inside (grouped : reader.groups ≠ []) (frame : List Group) :
    (reader.inside frame).closeGroup = reader.closeGroup.map (Reader.inside · frame) := by
  obtain ⟨innermost, groups, opened⟩ := List.exists_cons_of_ne_nil grouped
  have openedInside : (reader.inside frame).groups = innermost :: (groups ++ frame) := by
    rw [Reader.inside, opened, List.cons_append]
  simp only [Reader.closeGroup, opened, openedInside]
  rfl

variable [PropertyTable]

theorem readPart_inside (frame : List Group)
    (enclosed : ∀ rest, text = ')' :: rest → reader.groups ≠ []) :
    (reader.inside frame).readPart text = (reader.readPart text).map (framed frame) := by
  unfold Reader.readPart
  split
  · rfl
  · exact readGroup_inside reader frame _
  next rest =>
    rw [closeGroup_inside (enclosed rest rfl)]
    cases reader.closeGroup <;> rfl
  · rfl
  · rfl
  · exact repeatLast_inside reader frame _ _ _
  · exact repeatLast_inside reader frame _ _ _
  · exact repeatLast_inside reader frame _ _ _
  · exact readCounts_inside reader frame _
  next rest =>
    change (readEscape reader.settings rest).bind _ = _
    cases readEscape reader.settings rest <;> rfl
  next rest =>
    change reader.settings.dot?.bind _ = _
    cases reader.settings.dot? <;> rfl
  · rfl
  · rfl
  · rfl

theorem readInside_inside (reader : Reader) (frame : List Group) (bracket : Bracket)
    (outer : List Bracket) (text : Text) :
    (reader.inside frame).readInside bracket outer text =
      (reader.readInside bracket outer text).map (framed frame) := by
  unfold Reader.readInside
  split
  · rfl
  next rest =>
    cases readNamedClass rest with
    | none => rfl
    | some named =>
        obtain ⟨negated, members, rest⟩ := named
        exact guard_map (framed frame) (reader.settings.mayNegate negated = true)
          (some (reader.addMembers bracket outer _, rest))
  next rest =>
    change (do
      guard (reader.settings.mayNegate bracket.negated = true)
      some ((reader.inside frame).closeBracket bracket outer, rest)) = _
    rw [closeBracket_inside]
    exact guard_map (framed frame) (reader.settings.mayNegate bracket.negated = true)
      (some (reader.closeBracket bracket outer, rest))
  · rfl
  · rfl
  · rfl
  next =>
    change (readRange reader.settings text).bind _ = _
    cases readRange reader.settings text <;> rfl

/-- A step inside a frame is the step without it, unless it would close a group of the frame. -/
theorem step_inside (frame : List Group) (kept : ¬StrayEnd reader text) :
    (reader.inside frame).step text = (reader.step text).map (framed frame) := by
  cases brackets : reader.brackets with
  | cons bracket outer =>
      have inside : (reader.inside frame).brackets = bracket :: outer := brackets
      rw [step_of_inside brackets, step_of_inside inside]
      exact readInside_inside reader frame bracket outer _
  | nil =>
      have outside : (reader.inside frame).brackets = [] := brackets
      rw [step_of_outside brackets, step_of_outside outside]
      exact readPart_inside frame fun rest closing ungrouped =>
        kept ⟨brackets, ungrouped, rest, closing⟩

end Steps

section Ends

/-- Blanks and comments in front of the end make no difference to a run. -/
theorem run_of_skip [PropertyTable] {ending : Text} (skipped : reader.settings.skip text = ending)
    (nonempty : text ≠ []) (endingNonempty : ending ≠ [])
    (still : reader.settings.skip ending = ending) :
    Reader.run bound reader text = Reader.run bound reader ending := by
  have same : reader.step text = reader.step ending := by
    unfold Reader.step
    rw [skipped, still]
  obtain ⟨first, behind, rfl⟩ := List.exists_cons_of_ne_nil nonempty
  obtain ⟨last, further, rfl⟩ := List.exists_cons_of_ne_nil endingNonempty
  cases bound with
  | zero => rfl
  | succ bound => simp only [Reader.run, same]

theorem not_run_plainEnd_inside [PropertyTable] (inside : reader.brackets ≠ []) :
    Reader.run bound reader plainEnd ≠ some final := by
  intro run
  have nonempty : plainEnd ≠ [] := List.cons_ne_nil _ _
  obtain ⟨_, next, rest, _, stepped, further⟩ := (run_eq_some_iff nonempty).1 run
  obtain ⟨bracket, outer, brackets⟩ := List.exists_cons_of_ne_nil inside
  have begins : BeginsItem plainEnd := ⟨nofun, nofun, nofun, nofun, nofun, nofun⟩
  rw [step_of_inside brackets, skip_plainEnd, Reader.readInside_item begins] at stepped
  obtain ⟨⟨members, behind⟩, ranges, equal⟩ := Option.map_eq_some_iff.1 stepped
  obtain ⟨rfl, rfl⟩ := Prod.mk.inj equal
  have dollar : behind = ['$'] := by
    rw [readRange_eq] at ranges
    change readBehind _ _ (reader.settings.skip ['$']) = _ at ranges
    rw [skip_past] at ranges
    have alone : itemMembers reader.settings (.letter ')') ['$'] = some (members, behind) := ranges
    exact rest_of_itemMembers alone
  rw [dollar] at further
  exact not_run_dollar_inside (List.cons_ne_nil _ _) further

theorem finish_inside_eq_none (grouped : frame ≠ []) : (reader.inside frame).finish = none := by
  rw [Option.eq_none_iff_forall_ne_some]
  intro expression finished
  have none := (finish_eq_some_iff.1 finished).1
  exact grouped (List.append_eq_nil_iff.1 none).2

variable [PropertyTable]

/-- From a place where it is stuck, a reader inside a frame never closes the frame. -/
theorem Stuck.finish_eq_none {reading : Reader × Text} (stuck : Stuck reading)
    (grouped : frame ≠ [])
    (run : Reader.run bound (reading.1.inside frame) reading.2 = some final) :
    final.finish = none := by
  obtain ⟨reader, rest⟩ := reading
  cases stuck with
  | atDollar dollar =>
      obtain rfl : rest = ['$'] := dollar
      by_cases outside : reader.brackets = []
      · have added := eq_of_run_dollar run outside
        subst added
        exact @finish_inside_eq_none
          (reader.add { expression := .edge reader.settings.lineEnd }) frame grouped
      · exact absurd run (not_run_dollar_inside outside)
  | unclosed inside ending =>
      obtain rfl : rest = plainEnd := ending
      exact absurd run (not_run_plainEnd_inside inside)
  | atBrace outside brace =>
      obtain ⟨behind, rfl, skipped⟩ := brace
      obtain ⟨_, _, _, _, stepped, _⟩ := (run_eq_some_iff (List.cons_ne_nil _ _)).1 run
      have brace : reader.settings.skip ('\x7B' :: behind) = '\x7B' :: behind := by
        unfold Settings.skip
        split <;> rfl
      have counts : (reader.inside frame).readCounts behind = none := by
        rw [readCounts_inside, readCounts_eq, skipped]
        rfl
      have still : (reader.inside frame).brackets = [] := outside
      rw [step_of_outside still] at stepped
      change (reader.inside frame).readPart (reader.settings.skip ('\x7B' :: behind)) = _ at stepped
      rw [brace] at stepped
      exact absurd (counts.symm.trans stepped) nofun

/-- The end of a whole form closes its group behind a body that can be read by itself. -/
theorem finish_isSome_of_run (run : Reader.run bound (reader.inside [wholeGroup]) text = some final)
    (finished : final.finish = some expression)
    (ending : reader.settings.skip text = plainEnd) : reader.finish.isSome := by
  have nonempty : text ≠ [] := ne_nil_of_skip ending (List.cons_ne_nil _ _)
  have endingInside : (reader.inside [wholeGroup]).settings.skip text = plainEnd := ending
  have still := skip_plainEnd (reader.inside [wholeGroup]).settings
  have atEnd : Reader.run bound (reader.inside [wholeGroup]) plainEnd = some final := by
    rw [← run, run_of_skip endingInside nonempty (List.cons_ne_nil _ _) still]
  by_cases outside : reader.brackets = []
  · obtain ⟨group, single, _⟩ := exists_group_of_run atEnd finished outside still
    have ungrouped : reader.groups = [] := by
      have lengths := congrArg List.length single
      rw [Reader.inside, List.length_append] at lengths
      exact List.length_eq_zero_iff.1 (Nat.succ.inj lengths)
    have closed : (reader.inside [wholeGroup]).groups = [wholeGroup] := by
      rw [Reader.inside, ungrouped, List.nil_append]
    have closes := run_unique atEnd (run_plainEnd 0 outside closed)
    subst closes
    have shallow : (reader.inside [wholeGroup]).branches.close.depth + 2 ≤ depthLimit := by
      by_contra deep
      have refused := @finish_closeWhole (reader.inside [wholeGroup]) outside
      rw [if_neg deep, finished] at refused
      cases refused
    have shallowAlone : reader.branches.close.depth ≤ depthLimit := Nat.le_of_add_right_le shallow
    rw [finish_eq_some_iff.2 ⟨ungrouped, outside, shallowAlone, rfl⟩]
    rfl
  · exact absurd atEnd (not_run_plainEnd_inside outside)

end Ends

section Runs

theorem Follows.exists_wide {limit : Nat} {past : Reader × Text → Prop} {rest : Text}
    {other : Option (Reader × Text)} (follows : Follows limit past (some (next, rest)) other) :
    ∃ wideRest, other = some (next, wideRest) ∧ Continued rest wideRest := by
  cases follows with
  | both _ continued _ => exact ⟨_, rfl, continued⟩

/-- As long as there is something to read, a parenthesis strays in both texts or in none. -/
theorem Continued.strayEnd (continued : Continued narrow wide)
    (nonempty : reader.settings.skip narrow ≠ []) (stray : StrayEnd reader wide) :
    StrayEnd reader narrow := by
  obtain ⟨outside, ungrouped, rest, closing⟩ := stray
  have skipped := continued.skip reader.settings
  rw [closing] at skipped
  generalize equal : reader.settings.skip narrow = first at *
  cases skipped with
  | atEnd => exact absurd rfl nonempty
  | cons _ _ => exact ⟨outside, ungrouped, _, equal⟩

variable [PropertyTable]

theorem not_strayEnd_of_step {reading : Reader × Text} (stepped : reader.step text = some reading) :
    ¬StrayEnd reader text := by
  rintro ⟨outside, ungrouped, rest, closing⟩
  rw [step_of_outside outside, closing, Reader.readPart, Reader.closeGroup, ungrouped] at stepped
  cases stepped

/-- Where only blanks and comments are left of a text, the reader is done with it or in brackets. -/
theorem run_of_skip_eq_nil (blank : reader.settings.skip text = [])
    (run : Reader.run bound reader text = some final) : final = reader := by
  by_cases empty : text = []
  · subst empty
    rw [run_nil] at run
    exact (Option.some.inj run).symm
  · obtain ⟨_, next, rest, _, stepped, further⟩ := (run_eq_some_iff empty).1 run
    cases brackets : reader.brackets with
    | cons bracket outer =>
        rw [step_of_inside brackets, blank] at stepped
        cases stepped
    | nil =>
        rw [step_of_outside brackets, blank] at stepped
        obtain ⟨rfl, rfl⟩ := Prod.mk.inj (Option.some.inj stepped)
        rw [run_nil] at further
        exact (Option.some.inj further).symm

/-- Where only blanks and comments are left of a text, a comment takes the end with it or the reader
comes to the end. -/
theorem Continued.exists_ending_of_blank (continued : Continued narrow wide)
    (blank : reader.settings.skip narrow = []) (outside : reader.brackets = [])
    (nonempty : wide ≠ []) :
    ∃ ending, (ending = [] ∨ ending = plainEnd) ∧ ∀ frame more, ∃ left ≥ more,
      Reader.run (more + 1) (reader.inside frame) wide =
        Reader.run left (reader.inside frame) ending := by
  have skipped := continued.skip reader.settings
  rw [blank] at skipped
  rcases skipped.of_nil with wideBlank | wideEnd
  · refine ⟨[], .inl rfl, fun frame more => ⟨more, Nat.le_refl _, ?_⟩⟩
    have stepped : (reader.inside frame).step wide = some (reader.inside frame, []) := by
      have still : (reader.inside frame).brackets = [] := outside
      rw [step_of_outside still]
      change (reader.inside frame).readPart (reader.settings.skip wide) = _
      rw [wideBlank]
      rfl
    rw [run_succ_of_step nonempty stepped]
  · exact ⟨plainEnd, .inr rfl, fun frame more => ⟨more + 1, Nat.le_succ more,
      run_of_skip wideEnd nonempty (List.cons_ne_nil _ _) (skip_plainEnd _)⟩⟩

/-- What can be read of a text is read inside any frame in front of the end, and the end either is
left or belongs to a comment. -/
theorem Continued.exists_ending (continued : Continued narrow wide)
    (run : Reader.run bound reader narrow = some final) (outside : final.brackets = []) :
    ∃ ending, (ending = [] ∨ ending = plainEnd) ∧ ∀ frame more, ∃ left ≥ more,
      Reader.run (bound + more) (reader.inside frame) wide =
        Reader.run left (final.inside frame) ending := by
  induction bound generalizing reader narrow wide with
  | zero =>
      cases narrow with
      | nil =>
          obtain rfl := Option.some.inj run
          exact ⟨wide, continued.of_nil,
            fun frame more => ⟨more, Nat.le_refl _, by rw [Nat.zero_add]⟩⟩
      | cons => cases run
  | succ bound induction =>
      have assoc (more : Nat) : bound + 1 + more = bound + more + 1 := by omega
      by_cases empty : narrow = []
      · subst empty
        rw [run_nil] at run
        obtain rfl := Option.some.inj run
        exact ⟨wide, continued.of_nil, fun frame more => ⟨bound + 1 + more, by omega, rfl⟩⟩
      have wideNonempty := continued.ne_nil empty
      by_cases blank : reader.settings.skip narrow = []
      · obtain rfl := run_of_skip_eq_nil blank run
        obtain ⟨ending, either, onward⟩ :=
          continued.exists_ending_of_blank blank outside wideNonempty
        refine ⟨ending, either, fun frame more => ?_⟩
        obtain ⟨left, enough, same⟩ := onward frame (bound + more)
        exact ⟨left, Nat.le_trans (Nat.le_add_left more bound) enough, by rw [assoc, same]⟩
      · obtain ⟨_, next, rest, equal, stepped, further⟩ := (run_eq_some_iff empty).1 run
        obtain rfl := Nat.succ.inj equal
        have follows := continued.step reader blank
        rw [stepped] at follows
        obtain ⟨wideRest, wideStepped, restContinued⟩ := follows.exists_wide
        have kept := not_strayEnd_of_step wideStepped
        obtain ⟨ending, either, onward⟩ := induction restContinued further
        refine ⟨ending, either, fun frame more => ?_⟩
        obtain ⟨left, enough, same⟩ := onward frame more
        have insideStepped : (reader.inside frame).step wide =
            some (next.inside frame, wideRest) := by
          rw [step_inside frame kept, wideStepped]
          rfl
        exact ⟨left, enough, by rw [assoc, run_succ_of_step wideNonempty insideStepped, same]⟩

theorem run_of_blank (outside : reader.brackets = []) (blank : reader.settings.skip text = [])
    (bound : Nat) : Reader.run (bound + 1) reader text = some reader := by
  by_cases empty : text = []
  · rw [empty, run_nil]
  · have stepped : reader.step text = some (reader, []) := by
      rw [step_of_outside outside, blank]
      rfl
    rw [run_succ_of_step empty stepped, run_nil]

/-- Behind a text that has been read and is refused, the frame is not closed either. -/
theorem Continued.finish_isSome_of_blank (continued : Continued narrow wide)
    (blank : reader.settings.skip narrow = [])
    (run : Reader.run bound (reader.inside [wholeGroup]) wide = some final)
    (finished : final.finish = some expression) : reader.finish.isSome := by
  have skipped := continued.skip reader.settings
  rw [blank] at skipped
  rcases skipped.of_nil with wideBlank | wideEnd
  · have none : (reader.inside [wholeGroup]).settings.skip wide = [] := wideBlank
    rw [run_of_skip_eq_nil none run, finish_inside_eq_none (List.cons_ne_nil _ _)] at finished
    cases finished
  · exact finish_isSome_of_run run finished wideEnd

/-- What cannot be read by itself cannot be read inside of the group of a whole form either, unless
it closes this group. -/
theorem Continued.strays (continued : Continued narrow wide) (enough : narrow.length ≤ bound)
    (refused : (Reader.run bound reader narrow).bind Reader.finish = none)
    (run : Reader.run more (reader.inside [wholeGroup]) wide = some final)
    (finished : final.finish = some expression) : Strays reader narrow := by
  have unread {bound : Nat} {reader : Reader} {narrow : Text}
      (refused : (Reader.run bound reader narrow).bind Reader.finish = none)
      (isSome : reader.finish.isSome) : Reader.run bound reader narrow ≠ some reader := by
    intro same
    rw [same, Option.bind_some] at refused
    rw [refused] at isSome
    cases isSome
  induction bound generalizing more reader narrow wide with
  | zero =>
      obtain rfl := List.length_eq_zero_iff.1 (Nat.le_zero.1 enough)
      have isSome := continued.finish_isSome_of_blank (skip_nil reader.settings) run finished
      exact absurd (run_nil 0 reader) (unread refused isSome)
  | succ bound induction =>
      by_cases blank : reader.settings.skip narrow = []
      · have isSome := continued.finish_isSome_of_blank blank run finished
        obtain ⟨expression, readAlone⟩ := Option.isSome_iff_exists.1 isSome
        have outside := (finish_eq_some_iff.1 readAlone).2.1
        exact absurd (run_of_blank outside blank bound) (unread refused isSome)
      by_cases stray : StrayEnd reader narrow
      · exact .here stray
      have nonempty : narrow ≠ [] := ne_nil_of_skip rfl blank
      have kept : ¬StrayEnd reader wide :=
        fun wideStray => stray (continued.strayEnd blank wideStray)
      obtain ⟨_, _, _, _, stepped, further⟩ := (run_eq_some_iff (continued.ne_nil nonempty)).1 run
      rw [step_inside _ kept] at stepped
      obtain ⟨⟨next, wideRest⟩, wideStepped, equal⟩ := Option.map_eq_some_iff.1 stepped
      obtain ⟨rfl, rfl⟩ := Prod.mk.inj equal
      have follows := continued.step reader blank
      rw [wideStepped] at follows
      generalize narrowStepped : reader.step narrow = outcome at follows
      cases follows with
      | both _ restContinued shorter =>
          rw [run_succ_of_step nonempty narrowStepped] at refused
          exact .later narrowStepped (induction restContinued (by omega) refused further)
      | strays strayed =>
          have stuck := (strayed _ rfl).finish_eq_none (List.cons_ne_nil _ _) further
          rw [finished] at stuck
          cases stuck

end Runs

end RecordSearch.Regex
