import RecordSearch.Proofs.ReadAhead

/-!
# Steps ahead of the end

A step of the reader on a continued text follows the step on the text itself.  If only the step on
the continued text succeeds, it has come to a place from which the group around the body cannot be
closed any more.
-/

namespace RecordSearch.Regex

variable {α : Type} {settings : Settings} {character : Char} {narrow wide : Text} {limit : Nat}
  {reader : Reader}

section Classes

/-- Without a way past the end, both readings succeed or none does. -/
theorem Follows.alike {one other : Option (α × Text)}
    (follows : Follows limit (fun _ => False) one other) :
    (one = none ∧ other = none) ∨
      ∃ first second, one = some first ∧ other = some second ∧ Alongside limit first second := by
  cases follows with
  | both result continued shorter => exact .inr ⟨_, _, rfl, rfl, rfl, continued, shorter⟩
  | strays strayed =>
      refine .inl ⟨rfl, ?_⟩
      cases other with
      | none => rfl
      | some reading => exact (strayed reading rfl).elim

theorem Continued.cutAt (continued : Continued narrow wide) (mark : Char)
    (absent : mark ∉ plainEnd) :
    Follows narrow.length (fun _ => False) (Text.cutAt mark narrow) (Text.cutAt mark wide) := by
  induction continued with
  | taken => exact follows_none
  | atEnd =>
      simp only [plainEnd, List.mem_cons, List.not_mem_nil, or_false, not_or] at absent
      obtain ⟨closing, dollar⟩ := absent
      have uncut : Text.cutAt mark plainEnd = none := by
        simp [plainEnd, Text.cutAt, Ne.symm closing, Ne.symm dollar]
      rw [uncut]
      exact follows_none
  | @cons character narrow wide continued induction =>
      by_cases marked : character = mark
      · rw [Text.cutAt, if_pos marked, Text.cutAt, if_pos marked]
        exact .both [] continued (Nat.le_succ _)
      · rw [Text.cutAt, if_neg marked, Text.cutAt, if_neg marked]
        exact (induction.map (List.cons character) fun _ _ => False.elim).mono (Nat.le_succ _)

/-- Both texts begin with the same named class, or none of them begins with one. -/
def ClassesAlike (limit : Nat) (narrow wide : Option (Bool × CharSet × Text)) : Prop :=
  (narrow = none ∧ wide = none) ∨
    ∃ negated members narrowRest wideRest, narrow = some (negated, members, narrowRest) ∧
      wide = some (negated, members, wideRest) ∧ Continued narrowRest wideRest ∧
      narrowRest.length ≤ limit

theorem classesAlike_none : ClassesAlike limit none none :=
  .inl ⟨rfl, rfl⟩

theorem Continued.classEnd (continued : Continued narrow wide) (shorter : narrow.length ≤ limit)
    (negated : Bool) (members : CharSet) :
    ClassesAlike limit (Regex.classEnd negated members narrow)
      (Regex.classEnd negated members wide) := by
  rcases continued.head ']' (by decide) with ⟨_, _, rfl, rfl, rest⟩ | ⟨narrowOpen, wideOpen⟩
  · exact .inr ⟨negated, members, _, _, rfl, rfl, rest, Nat.le_of_succ_le shorter⟩
  · rw [classEnd_of_ne narrowOpen, classEnd_of_ne wideOpen]
    exact classesAlike_none

theorem Continued.classBehind (continued : Continued narrow wide)
    (shorter : narrow.length ≤ limit) (negated : Bool) :
    ClassesAlike limit (Regex.classBehind negated narrow) (Regex.classBehind negated wide) := by
  unfold Regex.classBehind
  rcases (continued.cutAt ':' (by decide)).alike with
    ⟨narrowNone, wideNone⟩ | ⟨⟨name, _⟩, ⟨_, _⟩, narrowSome, wideSome, rfl, rest, fewer⟩
  · rw [narrowNone, wideNone]
    exact classesAlike_none
  · rw [narrowSome, wideSome]
    simp only [Option.bind_eq_bind, Option.bind_some]
    cases CharSet.asciiClass? name with
    | none => exact classesAlike_none
    | some members => exact rest.classEnd (Nat.le_trans fewer shorter) negated members

theorem Continued.readNamedClass (continued : Continued narrow wide) :
    ClassesAlike narrow.length (Regex.readNamedClass narrow) (Regex.readNamedClass wide) := by
  rcases continued.head ':' (by decide) with
    ⟨narrowRest, _, rfl, rfl, rest⟩ | ⟨narrowOther, wideOther⟩
  · rcases rest.head '^' (by decide) with ⟨_, _, rfl, rfl, behind⟩ | ⟨narrowPlain, widePlain⟩
    · exact behind.classBehind (Nat.le_add_right _ 2) true
    · rw [readNamedClass_of_ne narrowPlain, readNamedClass_of_ne widePlain]
      exact rest.classBehind (Nat.le_succ _) false
  · rw [readNamedClass_eq_none narrowOther, readNamedClass_eq_none wideOther]
    exact classesAlike_none

end Classes

section Opening

theorem Continued.takeHyphens (settings : Settings) (bracket : Bracket) (bound : Nat)
    (continued : Continued narrow wide) :
    Alongside narrow.length (Regex.takeHyphens settings bracket bound narrow)
      (Regex.takeHyphens settings bracket bound wide) := by
  induction bound generalizing bracket narrow wide with
  | zero => exact ⟨rfl, continued, Nat.le_refl _⟩
  | succ bound induction =>
      rcases continued.head '-' (by decide) with
        ⟨narrowRest, _, rfl, rfl, rest⟩ | ⟨narrowOther, wideOther⟩
      · exact (induction (bracket.addSingle '-') (rest.skip settings)).mono
          (Nat.le_succ_of_le (skip_length_le settings narrowRest))
      · rw [takeHyphens_of_ne settings bracket _ narrowOther,
          takeHyphens_of_ne settings bracket _ wideOther]
        exact ⟨rfl, continued, Nat.le_refl _⟩

theorem Continued.bracketSign (settings : Settings) (continued : Continued narrow wide) :
    Alongside narrow.length (Regex.bracketSign settings narrow)
      (Regex.bracketSign settings wide) := by
  rcases continued.head '^' (by decide) with
    ⟨narrowRest, _, rfl, rfl, rest⟩ | ⟨narrowPlain, widePlain⟩
  · exact ⟨rfl, rest.skip settings, Nat.le_succ_of_le (skip_length_le settings narrowRest)⟩
  · rw [bracketSign_of_ne narrowPlain, bracketSign_of_ne widePlain]
    exact ⟨rfl, continued, Nat.le_refl _⟩

theorem Continued.bracketStart (settings : Settings) (negated : Bool)
    (continued : Continued narrow wide) :
    Alongside narrow.length (Regex.bracketStart settings negated narrow)
      (Regex.bracketStart settings negated wide) := by
  rcases continued.head ']' (by decide) with
    ⟨narrowRest, _, rfl, rfl, rest⟩ | ⟨narrowOpen, wideOpen⟩
  · exact ⟨rfl, rest.skip settings, Nat.le_succ_of_le (skip_length_le settings narrowRest)⟩
  · rw [bracketStart_of_ne narrowOpen, bracketStart_of_ne wideOpen,
      ← takeHyphens_eq (Nat.lt_succ_self narrow.length) (Nat.succ_le_succ continued.length_le)]
    exact continued.takeHyphens settings _ _

theorem Continued.openBracket (settings : Settings) (continued : Continued narrow wide) :
    Alongside narrow.length (Regex.openBracket settings narrow)
      (Regex.openBracket settings wide) := by
  obtain ⟨sign, rest, shorter⟩ := (continued.skip settings).bracketSign settings
  rw [openBracket_eq, openBracket_eq, sign]
  exact (rest.bracketStart settings _).mono
    (Nat.le_trans shorter (skip_length_le settings narrow))

end Opening

section Groups

variable {on : Bool} {seen : List Char}

/-- The settings of a group, its letters and the mark behind them as one result. -/
def settingsRead :
    Settings × List Char × Char × Text → (Settings × List Char × Char) × Text
  | (settings, seen, mark, rest) => ((settings, seen, mark), rest)

def lettersRead (settings : Settings) (on : Bool) (seen : List Char) (text : Text) :
    Option ((Settings × List Char × Char) × Text) :=
  (Reader.readSettings settings on seen text).map settingsRead

theorem lettersRead_letter {text : Text} (colon : character ≠ ':') (closing : character ≠ ')')
    (minus : character ≠ '-') :
    lettersRead settings on seen (character :: text) =
      if character ∈ seen then none
      else (settings.switch character on).bind fun settings =>
        lettersRead settings on (character :: seen) text := by
  rw [lettersRead, readSettings_letter colon closing minus]
  split
  · rfl
  · exact Option.map_bind

/-- A reading that has taken the parenthesis. -/
def AtDollar (reading : α × Text) : Prop :=
  reading.2 = ['$']

theorem follows_minus (continued : Continued narrow wide)
    (further : Follows narrow.length AtDollar (lettersRead settings false ('-' :: seen) narrow)
      (lettersRead settings false ('-' :: seen) wide)) :
    Follows narrow.length AtDollar (lettersRead settings on seen ('-' :: narrow))
      (lettersRead settings on seen ('-' :: wide)) := by
  have refused {one other : Text} (first : Reader.readSettings settings on seen ('-' :: one) = none)
      (second : Reader.readSettings settings on seen ('-' :: other) = none) :
      Follows narrow.length AtDollar (lettersRead settings on seen ('-' :: one))
        (lettersRead settings on seen ('-' :: other)) := by
    rw [lettersRead, first, lettersRead, second]
    exact follows_none
  cases on with
  | false =>
      exact refused (readSettings_minus_eq_none (.inl rfl)) (readSettings_minus_eq_none (.inl rfl))
  | true =>
      cases continued with
      | taken => exact refused rfl rfl
      | atEnd => exact refused rfl rfl
      | @cons character narrow wide continued =>
          by_cases colon : character = ':'
          · subst colon
            exact refused rfl rfl
          by_cases closing : character = ')'
          · subst closing
            exact refused rfl rfl
          have notColon (text behind : Text) : character :: text ≠ ':' :: behind :=
            fun equal => colon (List.cons.inj equal).1
          have notClosing (text behind : Text) : character :: text ≠ ')' :: behind :=
            fun equal => closing (List.cons.inj equal).1
          rw [lettersRead, readSettings_minus (notColon _) (notClosing _), lettersRead,
            readSettings_minus (notColon _) (notClosing _)]
          exact further

theorem Continued.lettersRead (continued : Continued narrow wide) (settings : Settings) (on : Bool)
    (seen : List Char) :
    Follows narrow.length AtDollar (Regex.lettersRead settings on seen narrow)
      (Regex.lettersRead settings on seen wide) := by
  induction continued generalizing settings on seen with
  | taken => exact follows_none
  | atEnd =>
      refine .strays fun reading read => ?_
      obtain rfl := Option.some.inj read
      rfl
  | @cons character narrow wide continued induction =>
      by_cases colon : character = ':'
      · subst colon
        exact .both (settings, seen, ':') continued (Nat.le_succ _)
      by_cases closing : character = ')'
      · subst closing
        exact .both (settings, seen, ')') continued (Nat.le_succ _)
      refine Follows.mono ?_ (Nat.le_succ narrow.length)
      by_cases minus : character = '-'
      · subst minus
        exact follows_minus continued (induction settings false ('-' :: seen))
      rw [lettersRead_letter colon closing minus, lettersRead_letter colon closing minus]
      split
      · exact follows_none
      · cases settings.switch character on with
        | none => exact follows_none
        | some settings => exact induction settings on (character :: seen)

theorem Continued.openNamed (continued : Continued narrow wide) (reader : Reader) :
    Follows narrow.length AtDollar (reader.openNamed narrow) (reader.openNamed wide) := by
  unfold Reader.openNamed
  refine (continued.cutAt '>' (by decide)).bind (fun name narrow wide rest shorter => ?_) nofun
  cases name with
  | nil => exact follows_none
  | cons first others =>
      have opened := @Follows.both _ _ AtDollar
        { reader.openGroup reader.settings true with names := (first :: others) :: reader.names }
        _ _ rest shorter
      exact (opened.guard _).guard _

def applySettings (reader : Reader) :
    (Settings × List Char × Char) × Text → Option (Reader × Text)
  | ((settings, seen, mark), rest) =>
      if mark = ':' then
        some (reader.openGroup settings false, rest)
      else if seen = [] then
        none
      else
        some ({ reader with
          branches := { reader.branches with parts := .change :: reader.branches.parts }
          settings := settings }, rest)

theorem readFlags_eq (reader : Reader) (text : Text) :
    readFlags reader text =
      (lettersRead reader.settings true [] text).bind (applySettings reader) := by
  unfold readFlags lettersRead
  cases Reader.readSettings reader.settings true [] text with
  | none => rfl
  | some reading =>
      obtain ⟨settings, seen, mark, rest⟩ := reading
      simp only [Option.bind_eq_bind, Option.bind_some, Option.map_some, settingsRead,
        applySettings]
      by_cases colon : mark = ':'
      · rw [if_pos colon, if_pos colon]
        rfl
      · rw [if_neg colon, if_neg colon]
        by_cases empty : seen = []
        · simp [empty]
        · simp [empty]

theorem Continued.readFlags (continued : Continued narrow wide) (reader : Reader) :
    Follows narrow.length AtDollar (Regex.readFlags reader narrow)
      (Regex.readFlags reader wide) := by
  rw [readFlags_eq, readFlags_eq]
  refine (continued.lettersRead reader.settings true []).bind
    (fun result narrow wide rest shorter => ?_) fun reading past further applied => ?_
  · obtain ⟨settings, seen, mark⟩ := result
    unfold applySettings
    dsimp only
    split
    · exact .both _ rest shorter
    · split
      · exact follows_none
      · exact .both _ rest shorter
  · obtain ⟨⟨settings, seen, mark⟩, rest⟩ := reading
    unfold applySettings at applied
    dsimp only at applied
    split at applied
    · obtain rfl := Option.some.inj applied
      exact past
    · split at applied
      · cases applied
      · obtain rfl := Option.some.inj applied
        exact past

theorem Continued.readAngle (continued : Continued narrow wide) (reader : Reader) :
    Follows narrow.length AtDollar (Regex.readAngle reader narrow)
      (Regex.readAngle reader wide) := by
  rcases continued.head '=' (by decide) with ⟨_, _, rfl, rfl, _⟩ | ⟨narrowAhead, wideAhead⟩
  · exact follows_none
  rcases continued.head '!' (by decide) with ⟨_, _, rfl, rfl, _⟩ | ⟨narrowNotAhead, wideNotAhead⟩
  · exact follows_none
  rw [readAngle_of_ne narrowAhead narrowNotAhead, readAngle_of_ne wideAhead wideNotAhead]
  exact continued.openNamed reader

theorem Continued.readQuestion (continued : Continued narrow wide) (reader : Reader) :
    Follows narrow.length AtDollar (Regex.readQuestion reader narrow)
      (Regex.readQuestion reader wide) := by
  rcases continued.head '=' (by decide) with ⟨_, _, rfl, rfl, _⟩ | ⟨narrowAhead, wideAhead⟩
  · exact follows_none
  rcases continued.head '!' (by decide) with ⟨_, _, rfl, rfl, _⟩ | ⟨narrowNotAhead, wideNotAhead⟩
  · exact follows_none
  rcases continued.head '<' (by decide) with ⟨_, _, rfl, rfl, rest⟩ | ⟨narrowAngle, wideAngle⟩
  · exact (rest.readAngle reader).mono (Nat.le_succ _)
  rcases continued.pair 'P' '<' (by decide) (by decide) with
    ⟨_, _, rfl, rfl, rest⟩ | ⟨narrowNamed, wideNamed⟩
  · exact (rest.openNamed reader).mono (Nat.le_add_right _ 2)
  rw [readQuestion_of_ne narrowAhead narrowNotAhead narrowAngle narrowNamed,
    readQuestion_of_ne wideAhead wideNotAhead wideAngle wideNamed]
  exact continued.readFlags reader

theorem Continued.readGroup (continued : Continued narrow wide) (reader : Reader) :
    Follows narrow.length AtDollar (reader.readGroup narrow) (reader.readGroup wide) := by
  have skipped := continued.skip reader.settings
  have shorter := skip_length_le reader.settings narrow
  rw [readGroup_eq, readGroup_eq]
  rcases skipped.head '?' (by decide) with
    ⟨_, _, narrowEq, wideEq, rest⟩ | ⟨narrowPlain, widePlain⟩
  · rw [narrowEq] at shorter
    rw [narrowEq, wideEq]
    exact (rest.readQuestion reader).mono (Nat.le_of_succ_le shorter)
  · rw [readOpening_of_ne narrowPlain, readOpening_of_ne widePlain]
    exact .both _ skipped shorter

end Groups

section Repetitions

variable {past : Reader × Text → Prop}

theorem Continued.skipReluctant (continued : Continued narrow wide) :
    Continued (Reader.skipReluctant narrow) (Reader.skipReluctant wide) := by
  rcases continued.head '?' (by decide) with ⟨_, _, rfl, rfl, rest⟩ | ⟨narrowPlain, widePlain⟩
  · exact rest
  · rwa [skipReluctant_of_ne narrowPlain, skipReluctant_of_ne widePlain]

theorem skipReluctant_length_le (text : Text) :
    (Reader.skipReluctant text).length ≤ text.length := by
  unfold Reader.skipReluctant
  split
  · exact Nat.le_succ _
  · exact Nat.le_refl _

theorem Continued.repeatLast (continued : Continued narrow wide) (shorter : narrow.length ≤ limit)
    (reader : Reader) (least : Nat) (most : Option Nat) :
    Follows limit past (reader.repeatLast least most narrow)
      (reader.repeatLast least most wide) := by
  unfold Reader.repeatLast
  cases reader.branches.repeatLast least most with
  | none => exact follows_none
  | some branches =>
      exact .both _ continued.skipReluctant (Nat.le_trans (skipReluctant_length_le narrow) shorter)

theorem Continued.readCount (continued : Continued narrow wide) (settings : Settings) :
    Follows narrow.length (fun _ => False) (Reader.readCount settings narrow)
      (Reader.readCount settings wide) := by
  have blanks {narrow wide : Text} (continued : Continued narrow wide) :
      Continued (narrow.dropWhile Text.isBlank) (wide.dropWhile Text.isBlank) :=
    continued.dropWhile Text.isBlank (by decide)
  have fewer (text : Text) : (text.dropWhile Text.isBlank).length ≤ text.length :=
    (List.dropWhile_sublist _).length_le
  obtain ⟨digits, rest, shorter⟩ := (blanks continued).span settings Char.isDigit (by decide)
  have bounded := Nat.le_trans (fewer _) (Nat.le_trans shorter (fewer narrow))
  unfold Reader.readCount
  dsimp only
  rw [digits]
  split
  · exact .both none (blanks rest) bounded
  · split
    · exact .both _ (blanks rest) bounded
    · exact follows_none

theorem Continued.readBounded (continued : Continued narrow wide)
    (shorter : narrow.length ≤ limit) (reader : Reader) (least : Nat) (most : Option Nat) :
    Follows limit past (Regex.readBounded reader least most narrow)
      (Regex.readBounded reader least most wide) := by
  rcases continued.head '\x7D' (by decide) with
    ⟨narrowRest, _, rfl, rfl, rest⟩ | ⟨narrowOpen, wideOpen⟩
  · have skipped := skip_length_le reader.settings narrowRest
    exact (rest.skip reader.settings).repeatLast
      (Nat.le_trans skipped (Nat.le_of_succ_le shorter)) reader least most
  · rw [readBounded_of_ne narrowOpen, readBounded_of_ne wideOpen]
    exact follows_none

theorem Continued.readGreatest (continued : Continued narrow wide)
    (shorter : narrow.length ≤ limit) (reader : Reader) (least : Nat) :
    Follows limit past (Regex.readGreatest reader least narrow)
      (Regex.readGreatest reader least wide) := by
  refine (continued.readCount reader.settings).bind (fun most narrow wide rest fewer => ?_) nofun
  cases most with
  | none => exact follows_none
  | some most =>
      exact (rest.readBounded (Nat.le_trans fewer shorter) reader least (some most)).guard _

theorem Continued.readUpper (continued : Continued narrow wide) (shorter : narrow.length ≤ limit)
    (reader : Reader) (least : Nat) :
    Follows limit past (Regex.readUpper reader least narrow)
      (Regex.readUpper reader least wide) := by
  rcases continued.head '\x7D' (by decide) with
    ⟨narrowRest, _, rfl, rfl, rest⟩ | ⟨narrowOpen, wideOpen⟩
  · have skipped := skip_length_le reader.settings narrowRest
    exact (rest.skip reader.settings).repeatLast
      (Nat.le_trans skipped (Nat.le_of_succ_le shorter)) reader least none
  · rw [readUpper_of_ne narrowOpen, readUpper_of_ne wideOpen]
    exact continued.readGreatest shorter reader least

theorem Continued.readLower (continued : Continued narrow wide) (shorter : narrow.length ≤ limit)
    (reader : Reader) (least : Nat) :
    Follows limit past (Regex.readLower reader least narrow)
      (Regex.readLower reader least wide) := by
  rcases continued.head '\x7D' (by decide) with
    ⟨narrowRest, _, rfl, rfl, rest⟩ | ⟨narrowOpen, wideOpen⟩
  · have skipped := skip_length_le reader.settings narrowRest
    exact (rest.skip reader.settings).repeatLast
      (Nat.le_trans skipped (Nat.le_of_succ_le shorter)) reader least (some least)
  rcases continued.head ',' (by decide) with
    ⟨narrowRest, _, rfl, rfl, rest⟩ | ⟨narrowSingle, wideSingle⟩
  · have skipped := skip_length_le reader.settings narrowRest
    exact (rest.skip reader.settings).readUpper
      (Nat.le_trans skipped (Nat.le_of_succ_le shorter)) reader least
  rw [readLower_of_ne narrowOpen narrowSingle, readLower_of_ne wideOpen wideSingle]
  exact follows_none

theorem Continued.readCounts (continued : Continued narrow wide) (reader : Reader) :
    Follows narrow.length past (reader.readCounts narrow) (reader.readCounts wide) := by
  rw [readCounts_eq, readCounts_eq]
  refine ((continued.skip reader.settings).readCount reader.settings).bind
    (fun least narrow wide rest fewer => ?_) nofun
  cases least with
  | none => exact follows_none
  | some least =>
      exact rest.readLower (Nat.le_trans fewer (skip_length_le reader.settings _)) reader least

end Repetitions

section Steps

variable {bracket : Bracket} {outer : List Bracket}

/-- The parenthesis behind the body is not read as the end of a group from here: it has been taken,
or it stands in brackets, or behind a brace. -/
inductive Stuck (reading : Reader × Text) : Prop
  | atDollar (rest : AtDollar reading)
  | unclosed (inside : reading.1.brackets ≠ []) (rest : reading.2 = plainEnd)
  | atBrace (outside : reading.1.brackets = []) (rest : AtBrace reading.1.settings reading.2)

theorem Continued.not_head {mark : Char} (continued : Continued narrow wide) (apart : mark ≠ ')')
    (other : ∀ rest, narrow ≠ mark :: rest) : ∀ rest, wide ≠ mark :: rest := by
  rcases continued.head mark apart with ⟨rest, _, marked, _⟩ | ⟨_, wideOther⟩
  · exact absurd marked (other rest)
  · exact wideOther

theorem Continued.not_pair {mark : Char} (continued : Continued narrow wide) (apart : mark ≠ ')')
    (other : ∀ rest, narrow ≠ mark :: mark :: rest) : ∀ rest, wide ≠ mark :: mark :: rest := by
  rcases continued.pair mark mark apart apart with ⟨rest, _, marked, _⟩ | ⟨_, wideOther⟩
  · exact absurd marked (other rest)
  · exact wideOther

theorem Continued.beginsItem (continued : Continued narrow wide) (begins : BeginsItem narrow) :
    BeginsItem wide := by
  obtain ⟨nonempty, notOpening, notClosing, notIntersection, notDifference, notSymmetric⟩ := begins
  exact ⟨continued.ne_nil nonempty, continued.not_head (by decide) notOpening,
    continued.not_head (by decide) notClosing, continued.not_pair (by decide) notIntersection,
    continued.not_pair (by decide) notDifference, continued.not_pair (by decide) notSymmetric⟩

variable [PropertyTable]

theorem Continued.readPart (continued : Continued narrow wide) (outside : reader.brackets = [])
    (character : Char) :
    Follows narrow.length Stuck (reader.readPart (character :: narrow))
      (reader.readPart (character :: wide)) := by
  by_cases marked : character ∈ partMarks
  · simp only [partMarks, List.mem_cons, List.not_mem_nil, or_false] at marked
    rcases marked with
      rfl | rfl | rfl | rfl | rfl | rfl | rfl | rfl | rfl | rfl | rfl | rfl
    · exact (continued.readGroup reader).weaken fun _ => .atDollar
    · unfold Reader.readPart
      cases reader.closeGroup with
      | none => exact follows_none
      | some closed => exact .both closed continued (Nat.le_refl _)
    · exact .both _ continued (Nat.le_refl _)
    · obtain ⟨same, rest, shorter⟩ := continued.openBracket reader.settings
      refine Alongside.follows ⟨?_, rest, shorter⟩
      exact congrArg (fun bracket => { reader with brackets := [bracket] }) same
    · exact continued.repeatLast (Nat.le_refl _) reader 0 (some 1)
    · exact continued.repeatLast (Nat.le_refl _) reader 0 none
    · exact continued.repeatLast (Nat.le_refl _) reader 1 none
    · exact continued.readCounts reader
    · refine ((continued.readEscape reader.settings).mono (Nat.sub_le _ 1)).bind
        (fun _ _ _ rest shorter => .both _ rest shorter) fun reading past further read => ?_
      obtain rfl := Option.some.inj read
      rcases past with atDollar | ⟨_, atBrace⟩
      · exact .atDollar atDollar
      · exact .atBrace outside atBrace
    · unfold Reader.readPart
      cases reader.settings.dot? with
      | none => exact follows_none
      | some characters => exact .both _ continued (Nat.le_refl _)
    · exact .both _ continued (Nat.le_refl _)
    · exact .both _ continued (Nat.le_refl _)
  · rw [readPart_letter marked, readPart_letter marked]
    exact .both _ continued (Nat.le_refl _)

theorem Continued.readInside (continued : Continued narrow wide) (reader : Reader)
    (bracket : Bracket) (outer : List Bracket) :
    Follows (narrow.length - 1) Stuck (reader.readInside bracket outer narrow)
      (reader.readInside bracket outer wide) := by
  rcases continued.head '[' (by decide) with
    ⟨narrowRest, _, rfl, rfl, rest⟩ | ⟨notOpening, _⟩
  · unfold Reader.readInside
    rcases rest.readNamedClass with
      ⟨narrowNone, wideNone⟩ | ⟨negated, members, _, _, narrowSome, wideSome, behind, shorter⟩
    · obtain ⟨same, behind, shorter⟩ := rest.openBracket reader.settings
      simp only [narrowNone, wideNone, same]
      exact .both _ behind shorter
    · simp only [narrowSome, wideSome]
      exact Follows.guard (.both _ behind shorter) _
  rcases continued.head ']' (by decide) with ⟨_, _, rfl, rfl, rest⟩ | ⟨notClosing, _⟩
  · exact Follows.guard (.both _ rest (Nat.le_refl _)) _
  rcases continued.pair '&' '&' (by decide) (by decide) with
    ⟨_, _, rfl, rfl, rest⟩ | ⟨notIntersection, _⟩
  · exact .both _ rest (Nat.le_succ _)
  rcases continued.pair '-' '-' (by decide) (by decide) with
    ⟨_, _, rfl, rfl, rest⟩ | ⟨notDifference, _⟩
  · exact .both _ rest (Nat.le_succ _)
  rcases continued.pair '~' '~' (by decide) (by decide) with
    ⟨_, _, rfl, rfl, rest⟩ | ⟨notSymmetric, _⟩
  · exact .both _ rest (Nat.le_succ _)
  let addMembers (reading : CharSet × Text) : Reader × Text :=
    (reader.addMembers bracket outer reading.1, reading.2)
  have items : Follows (narrow.length - 1) Stuck
      ((Regex.readRange reader.settings narrow).map addMembers)
      ((Regex.readRange reader.settings wide).map addMembers) :=
    (continued.readRange reader.settings).map (reader.addMembers bracket outer)
      fun members rest past => past.elim (fun atDollar => .atDollar atDollar) fun atEnd =>
        .unclosed (List.cons_ne_nil _ _) atEnd
  cases continued with
  | taken => exact follows_none
  | atEnd =>
      have begins : BeginsItem plainEnd := ⟨nofun, nofun, nofun, nofun, nofun, nofun⟩
      rw [Reader.readInside_item begins]
      exact items
  | cons character continued =>
      have begins : BeginsItem (character :: _) := ⟨List.cons_ne_nil character _, notOpening,
        notClosing, notIntersection, notDifference, notSymmetric⟩
      rw [Reader.readInside_item begins,
        Reader.readInside_item ((Continued.cons character continued).beginsItem begins)]
      exact items

/-- The steps on both texts, as long as there is something to read of the first one. -/
theorem Continued.step (continued : Continued narrow wide) (reader : Reader)
    (nonempty : reader.settings.skip narrow ≠ []) :
    Follows (narrow.length - 1) Stuck (reader.step narrow) (reader.step wide) := by
  have skipped := continued.skip reader.settings
  have shorter := Nat.sub_le_sub_right (skip_length_le reader.settings narrow) 1
  cases brackets : reader.brackets with
  | cons bracket outer =>
      rw [step_of_inside brackets, step_of_inside brackets]
      exact (skipped.readInside reader bracket outer).mono shorter
  | nil =>
      rw [step_of_outside brackets, step_of_outside brackets]
      generalize reader.settings.skip narrow = narrow at *
      generalize reader.settings.skip wide = wide at *
      cases skipped with
      | taken => exact absurd rfl nonempty
      | atEnd => exact absurd rfl nonempty
      | cons character skipped => exact (skipped.readPart brackets character).mono shorter

end Steps

end RecordSearch.Regex
