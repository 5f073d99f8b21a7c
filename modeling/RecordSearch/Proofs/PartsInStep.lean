import RecordSearch.Proofs.BracketsInStep

/-!
# Reading parts in step

Outside of brackets every part is read alike up to the ends: groups and the settings in them, counts
of repetitions, and single characters.
-/

namespace RecordSearch.Regex

variable {α : Type} {settings : Settings} {character : Char} {narrow wide : Text} {reader : Reader}

section Inside

variable {bracket : Bracket} {outer : List Bracket}

/-- Both texts begin with the two marks, or none of them does. -/
theorem InStep.pair (inStep : InStep narrow wide) (first second : Char)
    (firstApart : first ≠ ')' ∧ first ≠ '*') (secondApart : second ≠ ')' ∧ second ≠ '*') :
    (∃ narrowRest wideRest, narrow = first :: second :: narrowRest ∧
      wide = first :: second :: wideRest ∧ InStep narrowRest wideRest) ∨
    ((∀ rest, narrow ≠ first :: second :: rest) ∧ ∀ rest, wide ≠ first :: second :: rest) := by
  rcases inStep.head first firstApart with ⟨_, _, rfl, rfl, rest⟩ | ⟨narrowOther, wideOther⟩
  · rcases rest.head second secondApart with ⟨_, _, rfl, rfl, behind⟩ | ⟨narrowSingle, wideSingle⟩
    · exact .inl ⟨_, _, rfl, rfl, behind⟩
    · refine .inr ⟨fun rest equal => ?_, fun rest equal => ?_⟩
      · exact narrowSingle rest (List.cons.inj equal).2
      · exact wideSingle rest (List.cons.inj equal).2
  · exact .inr ⟨fun rest => narrowOther (second :: rest), fun rest => wideOther (second :: rest)⟩

theorem InStep.not_head {mark : Char} (inStep : InStep narrow wide)
    (apart : mark ≠ ')' ∧ mark ≠ '*') (other : ∀ rest, narrow ≠ mark :: rest) :
    ∀ rest, wide ≠ mark :: rest := by
  rcases inStep.head mark apart with ⟨rest, _, marked, _⟩ | ⟨_, wideOther⟩
  · exact absurd marked (other rest)
  · exact wideOther

theorem InStep.not_pair {mark : Char} (inStep : InStep narrow wide)
    (apart : mark ≠ ')' ∧ mark ≠ '*') (other : ∀ rest, narrow ≠ mark :: mark :: rest) :
    ∀ rest, wide ≠ mark :: mark :: rest := by
  rcases inStep.pair mark mark apart apart with ⟨rest, _, marked, _⟩ | ⟨_, wideOther⟩
  · exact absurd marked (other rest)
  · exact wideOther

/-- A text in brackets begins with an item or a range. -/
structure BeginsItem (text : Text) : Prop where
  nonempty : text ≠ []
  notOpening : ∀ rest, text ≠ '[' :: rest
  notClosing : ∀ rest, text ≠ ']' :: rest
  notIntersection : ∀ rest, text ≠ '&' :: '&' :: rest
  notDifference : ∀ rest, text ≠ '-' :: '-' :: rest
  notSymmetric : ∀ rest, text ≠ '~' :: '~' :: rest

theorem Reader.readInside_item [PropertyTable] {text : Text} (begins : BeginsItem text) :
    reader.readInside bracket outer text =
      (readRange reader.settings text).map fun (members, rest) =>
        (reader.addMembers bracket outer members, rest) := by
  obtain ⟨nonempty, notOpening, notClosing, notIntersection, notDifference, notSymmetric⟩ := begins
  unfold readInside
  split
  next => exact absurd rfl nonempty
  next rest => exact absurd rfl (notOpening rest)
  next rest => exact absurd rfl (notClosing rest)
  next rest => exact absurd rfl (notIntersection rest)
  next rest => exact absurd rfl (notDifference rest)
  next rest => exact absurd rfl (notSymmetric rest)
  next =>
    cases readRange reader.settings text <;> rfl

/-- Both readings are abreast, or the first one ran over the parenthesis in open brackets. -/
def PacedInside (narrow wide : Option (Reader × Text)) : Prop :=
  ∀ first second, narrow = some first → wide = some second →
    Abreast first second ∨ first.2 = ['$'] ∧ first.1.brackets ≠ []

theorem Paced.inside {one other : Option (Reader × Text)} (paced : Paced one other) :
    PacedInside one other :=
  fun _ _ narrow wide => .inl (paced _ _ narrow wide)

theorem InStep.beginsItem (inStep : InStep narrow wide) (begins : BeginsItem narrow) :
    BeginsItem wide := by
  obtain ⟨nonempty, notOpening, notClosing, notIntersection, notDifference, notSymmetric⟩ := begins
  refine ⟨?_, inStep.not_head (by decide) notOpening, inStep.not_head (by decide) notClosing,
    inStep.not_pair (by decide) notIntersection, inStep.not_pair (by decide) notDifference,
    inStep.not_pair (by decide) notSymmetric⟩
  rintro rfl
  cases inStep
  exact nonempty rfl

theorem InStep.readInside [PropertyTable] (reader : Reader) (bracket : Bracket)
    (outer : List Bracket) (inStep : InStep narrow wide) :
    PacedInside (reader.readInside bracket outer narrow)
      (reader.readInside bracket outer wide) := by
  rcases inStep.head '[' (by decide) with ⟨narrowRest, wideRest, rfl, rfl, rest⟩ | ⟨notOpening, _⟩
  · apply Paced.inside
    unfold Reader.readInside
    rcases rest.readNamedClass with
      ⟨narrowNone, wideNone⟩ | ⟨negated, members, _, _, narrowSome, wideSome, behind⟩
    · obtain ⟨same, behind⟩ := rest.openBracket reader.settings
      simp only [narrowNone, wideNone, same]
      exact paced_some behind
    · simp only [narrowSome, wideSome]
      exact (paced_some behind).guard _
  rcases inStep.head ']' (by decide) with ⟨_, _, rfl, rfl, rest⟩ | ⟨notClosing, _⟩
  · exact ((paced_some rest).guard _).inside
  rcases inStep.pair '&' '&' (by decide) (by decide) with
    ⟨_, _, rfl, rfl, rest⟩ | ⟨notIntersection, _⟩
  · exact (paced_some rest).inside
  rcases inStep.pair '-' '-' (by decide) (by decide) with
    ⟨_, _, rfl, rfl, rest⟩ | ⟨notDifference, _⟩
  · exact (paced_some rest).inside
  rcases inStep.pair '~' '~' (by decide) (by decide) with
    ⟨_, _, rfl, rfl, rest⟩ | ⟨notSymmetric, _⟩
  · exact (paced_some rest).inside
  cases narrow with
  | nil => exact paced_none_left.inside
  | cons first rest =>
      have begins : BeginsItem (first :: rest) := ⟨List.cons_ne_nil first rest, notOpening,
        notClosing, notIntersection, notDifference, notSymmetric⟩
      rw [Reader.readInside_item begins, Reader.readInside_item (inStep.beginsItem begins)]
      intro one other narrowRead wideRead
      obtain ⟨_, narrowRange, rfl⟩ := Option.map_eq_some_iff.1 narrowRead
      obtain ⟨_, wideRange, rfl⟩ := Option.map_eq_some_iff.1 wideRead
      rcases inStep.readRange reader.settings _ _ narrowRange wideRange with ⟨same, rest⟩ | past
      · exact .inl ⟨congrArg (reader.addMembers bracket outer) same, rest⟩
      · exact .inr ⟨past, List.cons_ne_nil _ _⟩

end Inside

section Groups

variable {on : Bool} {seen : List Char} {rest : Text}

/-- Both readings give the same settings and stop at the same place. -/
def PacedSettings (narrow wide : Option (Settings × List Char × Char × Text)) : Prop :=
  ∀ first second, narrow = some first → wide = some second →
    first.1 = second.1 ∧ first.2.1 = second.2.1 ∧ Abreast first.2.2 second.2.2

theorem pacedSettings_same (reading : Option (Settings × List Char × Char × Text)) :
    PacedSettings reading reading := by
  intro first second one other
  obtain rfl := Option.some.inj (one.symm.trans other)
  exact ⟨rfl, rfl, abreast_same _⟩

theorem pacedSettings_none_left {other : Option (Settings × List Char × Char × Text)} :
    PacedSettings none other :=
  fun _ _ impossible _ => nomatch impossible

theorem pacedSettings_none_right {one : Option (Settings × List Char × Char × Text)} :
    PacedSettings one none :=
  fun _ _ _ impossible => nomatch impossible

theorem pacedSettings_some {first second : Char × Text} (abreast : Abreast first second) :
    PacedSettings (some (settings, seen, first)) (some (settings, seen, second)) := by
  intro _ _ narrow wide
  obtain rfl := Option.some.inj narrow
  obtain rfl := Option.some.inj wide
  exact ⟨rfl, rfl, abreast⟩

theorem InStep.not_closing (inStep : InStep narrow wide) (closing : ∀ rest, narrow ≠ ')' :: rest) :
    ∀ rest, wide ≠ ')' :: rest := by
  cases inStep with
  | same => exact closing
  | atEnd => exact absurd rfl (closing ['$'])
  | cons character inStep =>
      intro rest equal
      exact closing _ (by rw [(List.cons.inj equal).1])

theorem readSettings_minus_eq_none
    (refused : on = false ∨ (∃ behind, rest = ':' :: behind) ∨ ∃ behind, rest = ')' :: behind) :
    Reader.readSettings settings on seen ('-' :: rest) = none := by
  unfold Reader.readSettings
  cases on with
  | false => rfl
  | true =>
      rcases refused with impossible | ⟨behind, rfl⟩ | ⟨behind, rfl⟩
      · cases impossible
      · rfl
      · rfl

theorem readSettings_minus (notColon : ∀ behind, rest ≠ ':' :: behind)
    (notClosing : ∀ behind, rest ≠ ')' :: behind) :
    Reader.readSettings settings true seen ('-' :: rest) =
      Reader.readSettings settings false ('-' :: seen) rest := by
  rw [Reader.readSettings]
  · rfl
  · exact notColon
  · exact notClosing

theorem readSettings_letter (notColon : character ≠ ':') (notClosing : character ≠ ')')
    (notMinus : character ≠ '-') :
    Reader.readSettings settings on seen (character :: rest) =
      if character ∈ seen then none
      else (settings.switch character on).bind fun settings =>
        Reader.readSettings settings on (character :: seen) rest := by
  rw [Reader.readSettings]
  · by_cases member : character ∈ seen
    · simp only [member, not_true_eq_false, guard_false, if_true]
      rfl
    · simp [member]
  · exact notColon
  · exact notClosing
  · exact notMinus

theorem InStep.readSettings_minus (inStep : InStep narrow wide) (settings : Settings) (on : Bool)
    (seen : List Char)
    (further : PacedSettings (Reader.readSettings settings false ('-' :: seen) narrow)
      (Reader.readSettings settings false ('-' :: seen) wide)) :
    PacedSettings (Reader.readSettings settings on seen ('-' :: narrow))
      (Reader.readSettings settings on seen ('-' :: wide)) := by
  by_cases refused :
      on = false ∨ (∃ behind, narrow = ':' :: behind) ∨ ∃ behind, narrow = ')' :: behind
  · rw [readSettings_minus_eq_none refused]
    exact pacedSettings_none_left
  · simp only [not_or, not_exists, Bool.not_eq_false] at refused
    obtain ⟨rfl, narrowColon, narrowClosing⟩ := refused
    rw [Regex.readSettings_minus narrowColon narrowClosing,
      Regex.readSettings_minus (inStep.not_head (by decide) narrowColon)
        (inStep.not_closing narrowClosing)]
    exact further

theorem InStep.readSettings (inStep : InStep narrow wide) (settings : Settings) (on : Bool)
    (seen : List Char) :
    PacedSettings (Reader.readSettings settings on seen narrow)
      (Reader.readSettings settings on seen wide) := by
  induction inStep generalizing settings on seen with
  | same => exact pacedSettings_same _
  | atEnd =>
      rw [starEnd, readSettings_letter (by decide) (by decide) (by decide)]
      split
      · exact pacedSettings_none_right
      · exact pacedSettings_none_right
  | cons character inStep induction =>
      by_cases colon : character = ':'
      · subst colon
        exact pacedSettings_some ⟨rfl, inStep⟩
      by_cases closing : character = ')'
      · subst closing
        exact pacedSettings_some ⟨rfl, inStep⟩
      by_cases minus : character = '-'
      · subst minus
        exact inStep.readSettings_minus settings on seen (induction settings false ('-' :: seen))
      rw [readSettings_letter colon closing minus, readSettings_letter colon closing minus]
      split
      · exact pacedSettings_none_left
      · cases settings.switch character on with
        | none => exact pacedSettings_none_left
        | some settings => exact induction settings on (character :: seen)

theorem InStep.openNamed (inStep : InStep narrow wide) (reader : Reader) :
    Paced (reader.openNamed narrow) (reader.openNamed wide) := by
  unfold Reader.openNamed
  rcases inStep.cutAt '>' (by decide) with
    ⟨narrowNone, _⟩ | ⟨name, _, _, narrowSome, wideSome, rest⟩
  · rw [narrowNone]
    exact paced_none_left
  · rw [narrowSome, wideSome]
    cases name with
    | nil => exact paced_none_left
    | cons first others => exact ((paced_some rest).guard _).guard _

/-- What is read of settings behind the question mark of a group. -/
def readFlags (reader : Reader) (text : Text) : Option (Reader × Text) := do
  let (settings, seen, mark, rest) ← Reader.readSettings reader.settings true [] text
  if mark = ':' then
    return (reader.openGroup settings false, rest)
  else
    guard (seen ≠ [])
    let branches := { reader.branches with parts := .change :: reader.branches.parts }
    return ({ reader with branches, settings }, rest)

theorem InStep.readFlags (inStep : InStep narrow wide) (reader : Reader) :
    Paced (Regex.readFlags reader narrow) (Regex.readFlags reader wide) := by
  have paced := inStep.readSettings reader.settings true []
  unfold Regex.readFlags
  cases narrowRead : Reader.readSettings reader.settings true [] narrow with
  | none => exact paced_none_left
  | some first =>
      cases wideRead : Reader.readSettings reader.settings true [] wide with
      | none => exact paced_none_right
      | some second =>
          obtain ⟨settings, seen, mark, narrowRest⟩ := first
          obtain ⟨_, _, _, wideRest⟩ := second
          obtain ⟨rfl, rfl, rfl, rest⟩ := paced _ _ narrowRead wideRead
          by_cases colon : mark = ':'
          · simp only [Option.bind_eq_bind, Option.bind_some, if_pos colon]
            exact paced_some rest
          · simp only [Option.bind_eq_bind, Option.bind_some, if_neg colon]
            exact (paced_some rest).guard _

/-- What is read behind the angle bracket of a group: a name, unless it looks behind. -/
def readAngle (reader : Reader) : Text → Option (Reader × Text)
  | '=' :: _ => none
  | '!' :: _ => none
  | rest => reader.openNamed rest

/-- What is read behind the question mark of a group: a name or settings, unless it looks ahead. -/
def readQuestion (reader : Reader) : Text → Option (Reader × Text)
  | '=' :: _ => none
  | '!' :: _ => none
  | '<' :: rest => readAngle reader rest
  | 'P' :: '<' :: rest => reader.openNamed rest
  | rest => readFlags reader rest

def readOpening (reader : Reader) : Text → Option (Reader × Text)
  | '?' :: rest => readQuestion reader rest
  | text => some (reader.openGroup reader.settings true, text)

theorem readAngle_of_ne {text : Text} (ahead : ∀ rest, text ≠ '=' :: rest)
    (notAhead : ∀ rest, text ≠ '!' :: rest) : readAngle reader text = reader.openNamed text := by
  unfold readAngle
  split
  next rest => exact absurd rfl (ahead rest)
  next rest => exact absurd rfl (notAhead rest)
  next => rfl

theorem readQuestion_of_ne {text : Text} (ahead : ∀ rest, text ≠ '=' :: rest)
    (notAhead : ∀ rest, text ≠ '!' :: rest) (angle : ∀ rest, text ≠ '<' :: rest)
    (named : ∀ rest, text ≠ 'P' :: '<' :: rest) :
    readQuestion reader text = readFlags reader text := by
  unfold readQuestion
  split
  next rest => exact absurd rfl (ahead rest)
  next rest => exact absurd rfl (notAhead rest)
  next rest => exact absurd rfl (angle rest)
  next rest => exact absurd rfl (named rest)
  next => rfl

theorem readOpening_of_ne {text : Text} (plain : ∀ rest, text ≠ '?' :: rest) :
    readOpening reader text = some (reader.openGroup reader.settings true, text) := by
  unfold readOpening
  split
  next rest => exact absurd rfl (plain rest)
  next => rfl

theorem readGroup_eq (reader : Reader) (text : Text) :
    reader.readGroup text = readOpening reader (reader.settings.skip text) := by
  unfold Reader.readGroup
  generalize reader.settings.skip text = text
  split
  next => rfl
  next => rfl
  next => rfl
  next => rfl
  next => rfl
  next rest ahead notAhead => exact (readAngle_of_ne ahead notAhead).symm
  next rest ahead notAhead _ _ named angle =>
    exact (readQuestion_of_ne ahead notAhead angle named).symm
  next plain => exact (readOpening_of_ne plain).symm

theorem InStep.readAngle (inStep : InStep narrow wide) (reader : Reader) :
    Paced (Regex.readAngle reader narrow) (Regex.readAngle reader wide) := by
  rcases inStep.head '=' (by decide) with ⟨_, _, rfl, rfl, _⟩ | ⟨narrowAhead, wideAhead⟩
  · exact paced_none_left
  rcases inStep.head '!' (by decide) with ⟨_, _, rfl, rfl, _⟩ | ⟨narrowNotAhead, wideNotAhead⟩
  · exact paced_none_left
  rw [readAngle_of_ne narrowAhead narrowNotAhead, readAngle_of_ne wideAhead wideNotAhead]
  exact inStep.openNamed reader

theorem InStep.readQuestion (inStep : InStep narrow wide) (reader : Reader) :
    Paced (Regex.readQuestion reader narrow) (Regex.readQuestion reader wide) := by
  rcases inStep.head '=' (by decide) with ⟨_, _, rfl, rfl, _⟩ | ⟨narrowAhead, wideAhead⟩
  · exact paced_none_left
  rcases inStep.head '!' (by decide) with ⟨_, _, rfl, rfl, _⟩ | ⟨narrowNotAhead, wideNotAhead⟩
  · exact paced_none_left
  rcases inStep.head '<' (by decide) with ⟨_, _, rfl, rfl, rest⟩ | ⟨narrowAngle, wideAngle⟩
  · exact rest.readAngle reader
  rcases inStep.pair 'P' '<' (by decide) (by decide) with
    ⟨_, _, rfl, rfl, rest⟩ | ⟨narrowNamed, wideNamed⟩
  · exact rest.openNamed reader
  rw [readQuestion_of_ne narrowAhead narrowNotAhead narrowAngle narrowNamed,
    readQuestion_of_ne wideAhead wideNotAhead wideAngle wideNamed]
  exact inStep.readFlags reader

theorem InStep.readGroup (inStep : InStep narrow wide) (reader : Reader) :
    Paced (reader.readGroup narrow) (reader.readGroup wide) := by
  have skipped := inStep.skip reader.settings
  rw [readGroup_eq, readGroup_eq]
  rcases skipped.head '?' (by decide) with ⟨_, _, narrowEq, wideEq, rest⟩ | ⟨narrowPlain, widePlain⟩
  · rw [narrowEq, wideEq]
    exact rest.readQuestion reader
  · rw [readOpening_of_ne narrowPlain, readOpening_of_ne widePlain]
    exact paced_some skipped

end Groups

section Repetitions

variable {least : Nat} {most : Option Nat}

theorem skipReluctant_of_ne {text : Text} (plain : ∀ rest, text ≠ '?' :: rest) :
    Reader.skipReluctant text = text := by
  unfold Reader.skipReluctant
  split
  next rest => exact absurd rfl (plain rest)
  next => rfl

theorem InStep.skipReluctant (inStep : InStep narrow wide) :
    InStep (Reader.skipReluctant narrow) (Reader.skipReluctant wide) := by
  rcases inStep.head '?' (by decide) with ⟨_, _, rfl, rfl, rest⟩ | ⟨narrowPlain, widePlain⟩
  · exact rest
  · rwa [skipReluctant_of_ne narrowPlain, skipReluctant_of_ne widePlain]

theorem InStep.repeatLast (inStep : InStep narrow wide) (reader : Reader) (least : Nat)
    (most : Option Nat) :
    Paced (reader.repeatLast least most narrow) (reader.repeatLast least most wide) := by
  unfold Reader.repeatLast
  cases reader.branches.repeatLast least most with
  | none => exact paced_none_left
  | some branches => exact paced_some inStep.skipReluctant

theorem InStep.readCount (inStep : InStep narrow wide) (settings : Settings) :
    Paced (Reader.readCount settings narrow) (Reader.readCount settings wide) := by
  have blanks {narrow wide : Text} (inStep : InStep narrow wide) :
      InStep (narrow.dropWhile Text.isBlank) (wide.dropWhile Text.isBlank) :=
    inStep.dropWhile Text.isBlank (by decide) (by decide)
  obtain ⟨digits, rest⟩ := (blanks inStep).span settings Char.isDigit (by decide) (by decide)
  unfold Reader.readCount
  dsimp only
  rw [digits]
  split
  · exact paced_some (blanks rest)
  · split
    · exact paced_some (blanks rest)
    · exact paced_none_left

/-- A repetition whose bounds end here. -/
def readBounded (reader : Reader) (least : Nat) (most : Option Nat) : Text → Option (Reader × Text)
  | '\x7D' :: rest => reader.repeatLast least most (reader.settings.skip rest)
  | _ => none

/-- A repetition with a greatest count, which is no smaller than the least. -/
def readGreatest (reader : Reader) (least : Nat) (text : Text) : Option (Reader × Text) := do
  let (most, rest) ← Reader.readCount reader.settings text
  let most ← most
  guard (least ≤ most)
  readBounded reader least (some most) rest

/-- What is read behind the comma of a repetition. -/
def readUpper (reader : Reader) (least : Nat) : Text → Option (Reader × Text)
  | '\x7D' :: rest => reader.repeatLast least none (reader.settings.skip rest)
  | rest => readGreatest reader least rest

/-- What is read behind the first count of a repetition. -/
def readLower (reader : Reader) (least : Nat) : Text → Option (Reader × Text)
  | '\x7D' :: rest => reader.repeatLast least (some least) (reader.settings.skip rest)
  | ',' :: rest => readUpper reader least (reader.settings.skip rest)
  | _ => none

theorem readBounded_of_ne {text : Text} (unclosed : ∀ rest, text ≠ '\x7D' :: rest) :
    readBounded reader least most text = none := by
  unfold readBounded
  split
  next rest => exact absurd rfl (unclosed rest)
  next => rfl

theorem readUpper_of_ne {text : Text} (unclosed : ∀ rest, text ≠ '\x7D' :: rest) :
    readUpper reader least text = readGreatest reader least text := by
  unfold readUpper
  split
  next rest => exact absurd rfl (unclosed rest)
  next => rfl

theorem readLower_of_ne {text : Text} (unclosed : ∀ rest, text ≠ '\x7D' :: rest)
    (single : ∀ rest, text ≠ ',' :: rest) : readLower reader least text = none := by
  unfold readLower
  split
  next rest => exact absurd rfl (unclosed rest)
  next rest => exact absurd rfl (single rest)
  next => rfl

theorem readCounts_eq (reader : Reader) (text : Text) :
    reader.readCounts text = (do
      let (least, rest) ← Reader.readCount reader.settings (reader.settings.skip text)
      let least ← least
      readLower reader least rest) :=
  rfl

theorem InStep.readBounded (inStep : InStep narrow wide) (reader : Reader) (least : Nat)
    (most : Option Nat) :
    Paced (Regex.readBounded reader least most narrow)
      (Regex.readBounded reader least most wide) := by
  rcases inStep.head '\x7D' (by decide) with ⟨_, _, rfl, rfl, rest⟩ | ⟨narrowOpen, _⟩
  · exact (rest.skip reader.settings).repeatLast reader least most
  · rw [readBounded_of_ne narrowOpen]
    exact paced_none_left

theorem InStep.readGreatest (inStep : InStep narrow wide) (reader : Reader) (least : Nat) :
    Paced (Regex.readGreatest reader least narrow) (Regex.readGreatest reader least wide) := by
  apply (inStep.readCount reader.settings).bind
  intro most narrow wide rest
  cases most with
  | none => exact paced_none_left
  | some most => exact (rest.readBounded reader least (some most)).guard _

theorem InStep.readUpper (inStep : InStep narrow wide) (reader : Reader) (least : Nat) :
    Paced (Regex.readUpper reader least narrow) (Regex.readUpper reader least wide) := by
  rcases inStep.head '\x7D' (by decide) with ⟨_, _, rfl, rfl, rest⟩ | ⟨narrowOpen, wideOpen⟩
  · exact (rest.skip reader.settings).repeatLast reader least none
  · rw [readUpper_of_ne narrowOpen, readUpper_of_ne wideOpen]
    exact inStep.readGreatest reader least

theorem InStep.readLower (inStep : InStep narrow wide) (reader : Reader) (least : Nat) :
    Paced (Regex.readLower reader least narrow) (Regex.readLower reader least wide) := by
  rcases inStep.head '\x7D' (by decide) with ⟨_, _, rfl, rfl, rest⟩ | ⟨narrowOpen, _⟩
  · exact (rest.skip reader.settings).repeatLast reader least (some least)
  rcases inStep.head ',' (by decide) with ⟨_, _, rfl, rfl, rest⟩ | ⟨narrowSingle, _⟩
  · exact (rest.skip reader.settings).readUpper reader least
  rw [readLower_of_ne narrowOpen narrowSingle]
  exact paced_none_left

theorem InStep.readCounts (inStep : InStep narrow wide) (reader : Reader) :
    Paced (reader.readCounts narrow) (reader.readCounts wide) := by
  rw [readCounts_eq, readCounts_eq]
  apply ((inStep.skip reader.settings).readCount reader.settings).bind
  intro least narrow wide rest
  cases least with
  | none => exact paced_none_left
  | some least => exact rest.readLower reader least

end Repetitions

section Parts

/-- The characters that are not a part of their own. -/
def partMarks : Text :=
  ['(', ')', '|', '[', '?', '*', '+', '\x7B', '\\', '.', '^', '$']

/-- Both readings are abreast, or a part of each took the first character of its end. -/
def PacedOutside (reader : Reader) (narrow wide : Option (Reader × Text)) : Prop :=
  ∀ first second, narrow = some first → wide = some second →
    Abreast first second ∨ ∃ narrowPiece widePiece,
      first = (reader.add narrowPiece, ['$']) ∧ second = (reader.add widePiece, plainEnd)

theorem Paced.outside {one other : Option (Reader × Text)} (paced : Paced one other) :
    PacedOutside reader one other :=
  fun _ _ narrow wide => .inl (paced _ _ narrow wide)

variable [PropertyTable]

theorem readPart_letter (plain : character ∉ partMarks) (rest : Text) :
    reader.readPart (character :: rest) =
      some (reader.add { expression := reader.settings.letter character }, rest) := by
  rw [Reader.readPart]
  all_goals
    rintro rfl
    exact plain (by decide)

theorem InStep.readPart (inStep : InStep narrow wide) (reader : Reader) (character : Char) :
    PacedOutside reader (reader.readPart (character :: narrow))
      (reader.readPart (character :: wide)) := by
  by_cases escapes : character = '\\'
  · subst escapes
    intro first second narrowRead wideRead
    obtain ⟨⟨escape, narrowRest⟩, narrowEscape, narrowAdd⟩ := Option.bind_eq_some_iff.1 narrowRead
    obtain ⟨⟨other, wideRest⟩, wideEscape, wideAdd⟩ := Option.bind_eq_some_iff.1 wideRead
    obtain rfl := Option.some.inj narrowAdd
    obtain rfl := Option.some.inj wideAdd
    rcases inStep.readEscape reader.settings _ _ narrowEscape wideEscape with
      ⟨same, rest⟩ | ⟨narrowApart, wideApart⟩
    · obtain rfl : escape = other := same
      exact .inl ⟨rfl, rest⟩
    · obtain rfl : narrowRest = ['$'] := narrowApart
      obtain rfl : wideRest = plainEnd := wideApart
      exact .inr ⟨_, _, rfl, rfl⟩
  apply Paced.outside
  by_cases marked : character ∈ partMarks
  · simp only [partMarks, List.mem_cons, List.not_mem_nil, or_false] at marked
    rcases marked with
      rfl | rfl | rfl | rfl | rfl | rfl | rfl | rfl | rfl | rfl | rfl | rfl
    · exact inStep.readGroup reader
    · unfold Reader.readPart
      cases reader.closeGroup with
      | none => exact paced_none_left
      | some closed => exact paced_some inStep
    · exact paced_some inStep
    · obtain ⟨same, rest⟩ := inStep.openBracket reader.settings
      refine paced_some_iff.2 ⟨?_, rest⟩
      exact congrArg (fun bracket => { reader with brackets := [bracket] }) same
    · exact inStep.repeatLast reader 0 (some 1)
    · exact inStep.repeatLast reader 0 none
    · exact inStep.repeatLast reader 1 none
    · exact inStep.readCounts reader
    · exact absurd rfl escapes
    · unfold Reader.readPart
      cases reader.settings.dot? with
      | none => exact paced_none_left
      | some characters => exact paced_some inStep
    · exact paced_some inStep
    · exact paced_some inStep
  · rw [readPart_letter marked, readPart_letter marked]
    exact paced_some inStep

end Parts

end RecordSearch.Regex
