import RecordSearch.Pattern.Basic
import RecordSearch.Proofs.PartsInStep
import RecordSearch.Proofs.Widening

/-!
# A star behind an expression

If an expression can be read both with and without a star behind it, it matches at least as much
with the star.  For both forms are read in step up to their ends, where the star repeats the last
part of the group that is closed there.  Wherever the readings get out of step, one of them fails: a
parenthesis that an escape takes for itself is missing, and one in brackets leaves them open.
-/

namespace RecordSearch.Regex

variable {settings : Settings} {narrow wide text : Text} {reader first second : Reader}
  {bound more : Nat} {expression other : Regex}

theorem InStep.ne_nil (inStep : InStep narrow wide) (nonempty : narrow ≠ []) : wide ≠ [] := by
  rintro rfl
  cases inStep
  exact nonempty rfl

section Steps

variable [PropertyTable]

theorem step_of_outside (outside : reader.brackets = []) :
    reader.step text = reader.readPart (reader.settings.skip text) := by
  unfold Reader.step
  rw [outside]

theorem step_of_inside {bracket : Bracket} {outer : List Bracket}
    (inside : reader.brackets = bracket :: outer) :
    reader.step text = reader.readInside bracket outer (reader.settings.skip text) := by
  unfold Reader.step
  rw [inside]

inductive Onward (reader : Reader) (narrow wide : Text) (first second : Reader × Text) : Prop
  | abreast (abreast : Abreast first second)
  /-- The parenthesis is an item in brackets. -/
  | unclosed (rest : first.2 = ['$']) (inside : first.1.brackets ≠ [])
  /-- The parenthesis stands behind a backslash, or is the name of a property. -/
  | escaped (outside : reader.brackets = []) (narrowPiece widePiece : Piece)
      (narrowNext : first = (reader.add narrowPiece, ['$']))
      (wideNext : second = (reader.add widePiece, plainEnd))
  | ended (outside : reader.brackets = []) (narrowEnd : reader.settings.skip narrow = plainEnd)
      (wideEnd : reader.settings.skip wide = starEnd)

theorem InStep.step (inStep : InStep narrow wide) {first second : Reader × Text}
    (narrowStep : reader.step narrow = some first) (wideStep : reader.step wide = some second) :
    Onward reader narrow wide first second := by
  have skipped := inStep.skip reader.settings
  cases brackets : reader.brackets with
  | cons bracket outer =>
      rw [step_of_inside brackets] at narrowStep wideStep
      rcases skipped.readInside reader bracket outer _ _ narrowStep wideStep with
        abreast | ⟨rest, inside⟩
      · exact .abreast abreast
      · exact .unclosed rest inside
  | nil =>
      rw [step_of_outside brackets] at narrowStep wideStep
      generalize narrowEq : reader.settings.skip narrow = narrowText at *
      generalize wideEq : reader.settings.skip wide = wideText at *
      cases skipped with
      | same => exact .abreast (paced_same _ _ _ narrowStep wideStep)
      | atEnd => exact .ended brackets narrowEq wideEq
      | @cons character narrowRest wideRest rest =>
          rcases rest.readPart reader character _ _ narrowStep wideStep with
            abreast | ⟨narrowPiece, widePiece, narrowNext, wideNext⟩
          · exact .abreast abreast
          · exact .escaped brackets narrowPiece widePiece narrowNext wideNext

end Steps

section Runs

theorem finish_eq_some_iff :
    reader.finish = some expression ↔
      reader.groups = [] ∧ reader.brackets = [] ∧ reader.branches.close.depth ≤ depthLimit ∧
        reader.branches.close.expression = expression := by
  unfold Reader.finish
  simp only [Bool.and_eq_true, List.isEmpty_iff, decide_eq_true_eq, and_assoc,
    Option.ite_none_right_eq_some, Option.some.injEq]

theorem ne_nil_of_skip {ending : Text} {settings : Settings} (skipped : settings.skip text = ending)
    (nonempty : ending ≠ []) : text ≠ [] := by
  rintro rfl
  exact nonempty (skipped.symm.trans (skip_nil settings))

variable [PropertyTable]

theorem run_nil (bound : Nat) (reader : Reader) : Reader.run bound reader [] = some reader := by
  cases bound <;> rfl

theorem run_eq_some_iff (nonempty : text ≠ []) :
    Reader.run bound reader text = some first ↔
      ∃ fewer next rest, bound = fewer + 1 ∧ reader.step text = some (next, rest) ∧
        Reader.run fewer next rest = some first := by
  obtain ⟨character, text, rfl⟩ := List.exists_cons_of_ne_nil nonempty
  cases bound with
  | zero => simp [Reader.run]
  | succ bound =>
      simp only [Reader.run, Option.bind_eq_bind, Option.bind_eq_some_iff]
      constructor
      · rintro ⟨⟨next, rest⟩, stepped, run⟩
        exact ⟨bound, next, rest, rfl, stepped, run⟩
      · rintro ⟨fewer, next, rest, equal, stepped, run⟩
        obtain rfl := Nat.succ.inj equal
        exact ⟨(next, rest), stepped, run⟩

/-- The number of steps that are allowed makes no difference to what is read. -/
theorem run_unique (one : Reader.run bound reader text = some first)
    (other : Reader.run more reader text = some second) : first = second := by
  induction bound generalizing more reader text with
  | zero =>
      cases text with
      | nil =>
          rw [run_nil] at one other
          exact Option.some.inj (one.symm.trans other)
      | cons => cases one
  | succ bound induction =>
      cases text with
      | nil =>
          rw [run_nil] at one other
          exact Option.some.inj (one.symm.trans other)
      | cons character text =>
          have nonempty : character :: text ≠ [] := List.cons_ne_nil character text
          obtain ⟨_, _, _, equal, oneStep, oneRun⟩ := (run_eq_some_iff nonempty).1 one
          obtain ⟨_, _, _, _, otherStep, otherRun⟩ := (run_eq_some_iff nonempty).1 other
          obtain rfl := Nat.succ.inj equal
          obtain ⟨rfl, rfl⟩ := Prod.mk.inj (Option.some.inj (oneStep.symm.trans otherStep))
          exact induction oneRun otherRun

theorem readRange_dollar (settings : Settings) : readRange settings ['$'] = none := by
  rw [readRange_eq]
  change readBehind settings (.letter '$') (settings.skip []) = none
  rw [skip_nil]
  rfl

theorem not_run_dollar_inside (inside : reader.brackets ≠ []) :
    Reader.run bound reader ['$'] ≠ some first := by
  intro run
  obtain ⟨_, _, _, _, stepped, _⟩ := (run_eq_some_iff (List.cons_ne_nil _ _)).1 run
  obtain ⟨bracket, outer, brackets⟩ := List.exists_cons_of_ne_nil inside
  have begins : BeginsItem ['$'] := ⟨nofun, nofun, nofun, nofun, nofun, nofun⟩
  rw [step_of_inside brackets, skip_past, Reader.readInside_item begins,
    readRange_dollar] at stepped
  cases stepped

theorem eq_of_run_dollar (run : Reader.run bound reader ['$'] = some first)
    (outside : reader.brackets = []) :
    first = reader.add { expression := .edge reader.settings.lineEnd } := by
  obtain ⟨_, _, _, _, stepped, rest⟩ := (run_eq_some_iff (List.cons_ne_nil _ _)).1 run
  rw [step_of_outside outside, skip_past] at stepped
  obtain ⟨rfl, rfl⟩ := Prod.mk.inj (Option.some.inj stepped)
  rw [run_nil] at rest
  exact (Option.some.inj rest).symm

theorem exists_group_of_run (run : Reader.run bound reader text = some first)
    (finished : first.finish = some expression) (outside : reader.brackets = [])
    (atEnd : reader.settings.skip text = plainEnd) :
    ∃ group, reader.groups = [group] ∧
      expression = ((group.outer.add (group.enclose reader.branches.close)).add
        { expression := .edge group.settings.lineEnd }).close.expression := by
  have nonempty : text ≠ [] := ne_nil_of_skip atEnd (List.cons_ne_nil _ _)
  obtain ⟨_, closed, _, _, stepped, closedRun⟩ := (run_eq_some_iff nonempty).1 run
  rw [step_of_outside outside, atEnd] at stepped
  obtain ⟨closed, closes, equal⟩ := Option.bind_eq_some_iff.1 stepped
  obtain ⟨rfl, rfl⟩ := Prod.mk.inj (Option.some.inj equal)
  unfold Reader.closeGroup at closes
  split at closes
  next => cases closes
  next group groups opened =>
    obtain rfl := Option.some.inj closes
    obtain rfl := eq_of_run_dollar closedRun outside
    obtain ⟨single, _, _, rfl⟩ := finish_eq_some_iff.1 finished
    obtain rfl : groups = [] := single
    exact ⟨group, opened, rfl⟩

theorem exists_repeated_of_run (run : Reader.run bound reader text = some first)
    (finished : first.finish = some expression) (outside : reader.brackets = [])
    (atEnd : reader.settings.skip text = starEnd) :
    ∃ group repeated, reader.groups = [group] ∧
      reader.branches.repeatLast 0 none = some repeated ∧
      expression = ((group.outer.add (group.enclose repeated.close)).add
        { expression := .edge group.settings.lineEnd }).close.expression := by
  have nonempty : text ≠ [] := ne_nil_of_skip atEnd (List.cons_ne_nil _ _)
  obtain ⟨_, _, _, _, stepped, rest⟩ := (run_eq_some_iff nonempty).1 run
  rw [step_of_outside outside, atEnd] at stepped
  obtain ⟨repeated, repeats, equal⟩ := Option.bind_eq_some_iff.1 stepped
  obtain ⟨rfl, rfl⟩ := Prod.mk.inj (Option.some.inj equal)
  obtain ⟨group, single, closed⟩ :=
    exists_group_of_run rest finished outside (skip_plainEnd reader.settings)
  exact ⟨group, repeated, single, repeats, closed⟩

theorem InStep.wider (inStep : InStep narrow wide)
    (narrowRun : Reader.run bound reader narrow = some first)
    (wideRun : Reader.run more reader wide = some second)
    (narrowFinished : first.finish = some expression) (wideFinished : second.finish = some other) :
    Wider expression other := by
  have alike (same : first = second) : Wider expression other := by
    subst same
    obtain rfl := Option.some.inj (narrowFinished.symm.trans wideFinished)
    exact wider_refl expression
  induction bound generalizing more reader narrow wide with
  | zero =>
      cases inStep with
      | same => exact alike (run_unique narrowRun wideRun)
      | atEnd => cases narrowRun
      | cons => cases narrowRun
  | succ bound induction =>
      by_cases empty : narrow = []
      · subst empty
        cases inStep
        exact alike (run_unique narrowRun wideRun)
      obtain ⟨_, narrowNext, narrowRest, equal, narrowStep, narrowRun'⟩ :=
        (run_eq_some_iff empty).1 narrowRun
      obtain rfl := Nat.succ.inj equal
      obtain ⟨_, wideNext, wideRest, _, wideStep, wideRun'⟩ :=
        (run_eq_some_iff (inStep.ne_nil empty)).1 wideRun
      cases inStep.step narrowStep wideStep with
      | abreast abreast =>
          obtain ⟨same, rest⟩ := abreast
          obtain rfl : narrowNext = wideNext := same
          exact induction rest narrowRun' wideRun'
      | unclosed rest inside =>
          obtain rfl : narrowRest = ['$'] := rest
          exact absurd narrowRun' (not_run_dollar_inside inside)
      | escaped outside narrowPiece widePiece narrowNext wideNext =>
          obtain ⟨rfl, rfl⟩ := Prod.mk.inj narrowNext
          obtain ⟨rfl, rfl⟩ := Prod.mk.inj wideNext
          obtain rfl := eq_of_run_dollar narrowRun' outside
          obtain ⟨closed, _⟩ := finish_eq_some_iff.1 narrowFinished
          obtain ⟨group, opened, _⟩ :=
            exists_group_of_run wideRun' wideFinished outside (skip_plainEnd _)
          have none : reader.groups = [] := closed
          have single : reader.groups = [group] := opened
          cases none.symm.trans single
      | ended outside narrowEnd wideEnd =>
          obtain ⟨group, opened, rfl⟩ :=
            exists_group_of_run narrowRun narrowFinished outside narrowEnd
          obtain ⟨sameGroup, repeated, wideOpened, repeats, rfl⟩ :=
            exists_repeated_of_run wideRun wideFinished outside wideEnd
          obtain rfl : group = sameGroup :=
            (List.cons.inj (opened.symm.trans wideOpened)).1
          have inside := group.wider_enclose (Branches.wider_repeatLast repeats).close
          exact (((Branches.Wider.refl group.outer).add inside).add (wider_refl _)).close

end Runs

theorem eq_of_fit (fits : expression.fit = some other) : expression = other := by
  unfold fit at fits
  split at fits
  · exact Option.some.inj fits
  · cases fits

/-- A star behind a body loses no matches, if the body can be read with it. -/
theorem wider_readWhole [PropertyTable] {body : Text} (read : readWhole body = some expression)
    (repeated : readWhole (body ++ ['*']) = some other) : Wider expression other := by
  unfold readWhole at read repeated
  obtain ⟨narrow, narrowRead, narrowFits⟩ := Option.bind_eq_some_iff.1 read
  obtain ⟨wide, wideRead, wideFits⟩ := Option.bind_eq_some_iff.1 repeated
  obtain rfl := eq_of_fit narrowFits
  obtain rfl := eq_of_fit wideFits
  obtain ⟨first, narrowRun, narrowFinished⟩ := Option.bind_eq_some_iff.1 narrowRead
  obtain ⟨second, wideRun, wideFinished⟩ := Option.bind_eq_some_iff.1 wideRead
  have written : "(?i)^(?:".toList ++ (body ++ ['*']) ++ ")$".toList =
      ("(?i)^(?:".toList ++ body) ++ starEnd := by
    simp [starEnd, plainEnd]
  rw [written] at wideRun
  exact (inStep_append _).wider narrowRun wideRun narrowFinished wideFinished

end RecordSearch.Regex
