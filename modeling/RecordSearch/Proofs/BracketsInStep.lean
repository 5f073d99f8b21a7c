import RecordSearch.Proofs.InStep

/-!
# Reading brackets in step

What stands in brackets is read alike up to the ends, except that an item takes the first character
of an end for itself.  The brackets are still open then, and no end has a bracket to close them.
-/

namespace RecordSearch.Regex

variable {α β : Type} {settings : Settings} {character : Char} {narrow wide : Text}

section Items

variable {one other : Option (α × Text)}

/-- If both readings succeed, they are abreast, or the first one ran over the parenthesis. -/
def PacedOrPast (narrow wide : Option (α × Text)) : Prop :=
  ∀ first second, narrow = some first → wide = some second →
    Abreast first second ∨ first.2 = ['$']

theorem Paced.orPast (paced : Paced one other) : PacedOrPast one other :=
  fun _ _ narrow wide => .inl (paced _ _ narrow wide)

theorem PacedOrApart.orPast (paced : PacedOrApart one other) : PacedOrPast one other :=
  fun _ _ narrow wide => (paced _ _ narrow wide).imp_right And.left

theorem pacedOrPast_of_past {result : α} : PacedOrPast (some (result, ['$'])) other := by
  intro first second narrow wide
  obtain rfl := Option.some.inj narrow
  exact .inr rfl

def itemMembers (settings : Settings) (item : Escape) (rest : Text) : Option (CharSet × Text) :=
  (item.characters? settings).map fun members => (members, rest)

/-- The range between two items. -/
def rangeMembers (settings : Settings) : Escape → Escape × Text → Option (CharSet × Text)
  | .letter first, (.letter last, rest) =>
      if first ≤ last && settings.allows last then some (settings.fold (.range first last), rest)
      else none
  | _, _ => none

theorem paced_itemMembers (settings : Settings) (item : Escape) (rest : InStep narrow wide) :
    Paced (itemMembers settings item narrow) (itemMembers settings item wide) := by
  unfold itemMembers
  cases item.characters? settings with
  | none => exact paced_none_left
  | some members => exact paced_some rest

theorem paced_rangeMembers (settings : Settings) (item last : Escape) (rest : InStep narrow wide) :
    Paced (rangeMembers settings item (last, narrow))
      (rangeMembers settings item (last, wide)) := by
  cases item with
  | letter first =>
      cases last with
      | letter last =>
          by_cases ordered : (first ≤ last && settings.allows last) = true
          · simp only [rangeMembers, if_pos ordered]
            exact paced_some rest
          · simp only [rangeMembers, if_neg ordered]
            exact paced_none_left
      | _ => exact paced_none_left
  | _ => exact paced_none_left

theorem rest_of_rangeMembers {item : Escape} {read : Escape × Text} {range : CharSet × Text}
    (ranges : rangeMembers settings item read = some range) : range.2 = read.2 := by
  unfold rangeMembers at ranges
  split at ranges
  next =>
    split at ranges
    · obtain rfl := Option.some.inj ranges
      rfl
    · cases ranges
  next => cases ranges

theorem rest_of_itemMembers {item : Escape} {rest : Text} {members : CharSet × Text}
    (single : itemMembers settings item rest = some members) : members.2 = rest := by
  obtain ⟨_, _, rfl⟩ := Option.map_eq_some_iff.1 single
  rfl

theorem PacedOrPast.bind {next : α × Text → Option (β × Text)} (paced : PacedOrPast one other)
    (further : ∀ result narrow wide, InStep narrow wide →
      PacedOrPast (next (result, narrow)) (next (result, wide)))
    (past : ∀ result rest, next (result, ['$']) = some rest → rest.2 = ['$']) :
    PacedOrPast (one.bind next) (other.bind next) := by
  intro first second narrowRead wideRead
  obtain ⟨⟨result, narrow⟩, oneRead, narrowRead⟩ := Option.bind_eq_some_iff.1 narrowRead
  obtain ⟨⟨_, wide⟩, otherRead, wideRead⟩ := Option.bind_eq_some_iff.1 wideRead
  rcases paced _ _ oneRead otherRead with ⟨rfl, inStep⟩ | strayed
  · exact further _ _ _ inStep _ _ narrowRead wideRead
  · obtain rfl : narrow = ['$'] := strayed
    exact .inr (past _ _ narrowRead)

section Tables

variable [PropertyTable]

theorem readItem_of_ne (settings : Settings) (plain : character ≠ '\\') (rest : Text) :
    readItem settings (character :: rest) = some (.letter character, rest) := by
  unfold readItem
  split
  next equal => cases equal
  next equal => exact absurd (List.cons.inj equal).1 plain
  next equal =>
    obtain ⟨rfl, rfl⟩ := List.cons.inj equal
    rfl

theorem InStep.readItem (settings : Settings) (inStep : InStep narrow wide) :
    PacedOrPast (Regex.readItem settings narrow) (Regex.readItem settings wide) := by
  cases inStep with
  | same => exact (paced_same _).orPast
  | atEnd => exact pacedOrPast_of_past
  | cons character inStep =>
      by_cases escapes : character = '\\'
      · subst escapes
        exact (inStep.readEscape settings).orPast
      · rw [readItem_of_ne settings escapes, readItem_of_ne settings escapes]
        exact (paced_some inStep).orPast

/-- What is read behind the hyphen that follows an item. -/
def readLast (settings : Settings) (item : Escape) (whole : Text) :
    Text → Option (CharSet × Text)
  | ']' :: _ => itemMembers settings item whole
  | '-' :: _ => itemMembers settings item whole
  | behind => (readItem settings behind).bind (rangeMembers settings item)

def readBehind (settings : Settings) (item : Escape) (rest : Text) : Option (CharSet × Text) :=
  match rest with
  | [] => none
  | '-' :: behind => readLast settings item rest (settings.skip behind)
  | rest => itemMembers settings item rest

theorem readLast_of_ne (settings : Settings) (item : Escape) (whole : Text) {behind : Text}
    (unclosed : ∀ rest, behind ≠ ']' :: rest) (single : ∀ rest, behind ≠ '-' :: rest) :
    readLast settings item whole behind =
      (readItem settings behind).bind (rangeMembers settings item) := by
  unfold readLast
  split
  next rest => exact absurd rfl (unclosed rest)
  next rest => exact absurd rfl (single rest)
  next => rfl

theorem readBehind_of_ne (settings : Settings) (item : Escape) {rest : Text} (nonempty : rest ≠ [])
    (single : ∀ behind, rest ≠ '-' :: behind) :
    readBehind settings item rest = itemMembers settings item rest := by
  unfold readBehind
  split
  next => exact absurd rfl nonempty
  next behind => exact absurd rfl (single behind)
  next => rfl

theorem readRange_eq (settings : Settings) (text : Text) :
    readRange settings text = (readItem settings text).bind fun (item, rest) =>
      readBehind settings item (settings.skip rest) := by
  unfold readRange
  cases readItem settings text with
  | none => rfl
  | some read =>
      obtain ⟨item, rest⟩ := read
      simp only [Option.bind_eq_bind, Option.bind_some]
      generalize settings.skip rest = rest
      have members (rest : Text) :
          (item.characters? settings).bind (fun set => pure (set, rest)) =
            itemMembers settings item rest := by
        unfold itemMembers
        cases item.characters? settings <;> rfl
      simp only [members]
      split
      next => rfl
      next behind =>
        change _ = readLast settings item ('-' :: behind) (settings.skip behind)
        generalize settings.skip behind = next
        split
        next => rfl
        next => rfl
        next unclosed single =>
          rw [readLast_of_ne settings item _ unclosed single]
          cases item with
          | letter first =>
              cases readItem settings next with
              | none => rfl
              | some read =>
                  obtain ⟨last, rest⟩ := read
                  cases last with
                  | letter last =>
                      simp only [Option.bind_some, rangeMembers]
                      by_cases ordered : (first ≤ last && settings.allows last) = true
                      · rw [if_pos ordered, guard, if_pos ordered]
                        rfl
                      · rw [if_neg ordered, guard, if_neg ordered]
                        rfl
                  | _ => rfl
          | _ => cases readItem settings next <;> rfl
      next nonempty single => exact (readBehind_of_ne settings item nonempty single).symm

theorem InStep.readLast (settings : Settings) (item : Escape) {narrowWhole wideWhole : Text}
    (inStep : InStep narrow wide) (whole : InStep narrowWhole wideWhole) :
    PacedOrPast (Regex.readLast settings item narrowWhole narrow)
      (Regex.readLast settings item wideWhole wide) := by
  have single := paced_itemMembers settings item whole
  rcases inStep.head ']' (by decide) with ⟨_, _, rfl, rfl, _⟩ | ⟨narrowOpen, wideOpen⟩
  · exact single.orPast
  · rcases inStep.head '-' (by decide) with ⟨_, _, rfl, rfl, _⟩ | ⟨narrowSingle, wideSingle⟩
    · exact single.orPast
    · rw [readLast_of_ne settings item narrowWhole narrowOpen narrowSingle,
        readLast_of_ne settings item wideWhole wideOpen wideSingle]
      apply (inStep.readItem settings).bind
      · intro last narrow wide rest
        exact (paced_rangeMembers settings item last rest).orPast
      · intro last range ranges
        exact rest_of_rangeMembers ranges

theorem InStep.readBehind (settings : Settings) (item : Escape) (inStep : InStep narrow wide) :
    PacedOrPast (Regex.readBehind settings item narrow) (Regex.readBehind settings item wide) := by
  rcases inStep.head '-' (by decide) with ⟨_, _, rfl, rfl, rest⟩ | ⟨narrowSingle, wideSingle⟩
  · exact (rest.skip settings).readLast settings item inStep
  · cases narrow with
    | nil => exact paced_none_left.orPast
    | cons first rest =>
        have wideNonempty : wide ≠ [] := by
          rintro rfl
          cases inStep
        rw [readBehind_of_ne settings item (List.cons_ne_nil first rest) narrowSingle,
          readBehind_of_ne settings item wideNonempty wideSingle]
        exact (paced_itemMembers settings item inStep).orPast

/-- An item in brackets takes the parenthesis as its last character, but what follows remains. -/
theorem InStep.readRange (settings : Settings) (inStep : InStep narrow wide) :
    PacedOrPast (Regex.readRange settings narrow) (Regex.readRange settings wide) := by
  rw [readRange_eq, readRange_eq]
  apply (inStep.readItem settings).bind
  · intro item narrow wide rest
    exact (rest.skip settings).readBehind settings item
  · intro item members single
    dsimp only at single
    rw [skip_past] at single
    have alone : itemMembers settings item ['$'] = some members := single
    exact rest_of_itemMembers alone

end Tables

end Items

section Classes

theorem InStep.cutAt (inStep : InStep narrow wide) (mark : Char) (absent : mark ∉ starEnd) :
    (Text.cutAt mark narrow = none ∧ Text.cutAt mark wide = none) ∨
      ∃ front narrowRest wideRest, Text.cutAt mark narrow = some (front, narrowRest) ∧
        Text.cutAt mark wide = some (front, wideRest) ∧ InStep narrowRest wideRest := by
  induction inStep with
  | same text =>
      cases Text.cutAt mark text with
      | none => exact .inl ⟨rfl, rfl⟩
      | some parts => exact .inr ⟨parts.1, parts.2, parts.2, rfl, rfl, .same _⟩
  | atEnd =>
      simp only [starEnd, plainEnd, List.mem_cons, List.not_mem_nil, or_false, not_or] at absent
      obtain ⟨star, closing, dollar⟩ := absent
      refine .inl ⟨?_, ?_⟩
      · simp [plainEnd, Text.cutAt, Ne.symm closing, Ne.symm dollar]
      · simp [starEnd, plainEnd, Text.cutAt, Ne.symm star, Ne.symm closing, Ne.symm dollar]
  | cons character inStep induction =>
      by_cases marked : character = mark
      · refine .inr ⟨[], _, _, ?_, ?_, inStep⟩
        · rw [Text.cutAt, if_pos marked]
        · rw [Text.cutAt, if_pos marked]
      · simp only [Text.cutAt, if_neg marked]
        rcases induction with ⟨narrowNone, wideNone⟩ | ⟨front, _, _, narrowSome, wideSome, rest⟩
        · rw [narrowNone, wideNone]
          exact .inl ⟨rfl, rfl⟩
        · rw [narrowSome, wideSome]
          exact .inr ⟨character :: front, _, _, rfl, rfl, rest⟩

/-- What is read of a named class behind its second colon. -/
def classEnd (negated : Bool) (members : CharSet) : Text → Option (Bool × CharSet × Text)
  | ']' :: rest => some (negated, members, rest)
  | _ => none

def classBehind (negated : Bool) (text : Text) : Option (Bool × CharSet × Text) := do
  let (name, rest) ← Text.cutAt ':' text
  let members ← CharSet.asciiClass? name
  classEnd negated members rest

theorem readNamedClass_of_ne {rest : Text} (plain : ∀ behind, rest ≠ '^' :: behind) :
    readNamedClass (':' :: rest) = classBehind false rest := by
  simp only [readNamedClass]
  rfl

theorem readNamedClass_eq_none {text : Text} (unnamed : ∀ rest, text ≠ ':' :: rest) :
    readNamedClass text = none := by
  unfold readNamedClass
  split
  next rest => exact absurd rfl (unnamed rest)
  next => rfl

/-- Both texts begin with a named class, and with the same one, or none of them does. -/
def SameClass (narrow wide : Option (Bool × CharSet × Text)) : Prop :=
  (narrow = none ∧ wide = none) ∨
    ∃ negated members narrowRest wideRest, narrow = some (negated, members, narrowRest) ∧
      wide = some (negated, members, wideRest) ∧ InStep narrowRest wideRest

theorem sameClass_none : SameClass none none :=
  .inl ⟨rfl, rfl⟩

theorem classEnd_of_ne {negated : Bool} {members : CharSet} {text : Text}
    (unclosed : ∀ rest, text ≠ ']' :: rest) : classEnd negated members text = none := by
  unfold classEnd
  split
  next rest => exact absurd rfl (unclosed rest)
  next => rfl

theorem InStep.classEnd (inStep : InStep narrow wide) (negated : Bool) (members : CharSet) :
    SameClass (Regex.classEnd negated members narrow) (Regex.classEnd negated members wide) := by
  rcases inStep.head ']' (by decide) with ⟨_, _, rfl, rfl, rest⟩ | ⟨narrowOpen, wideOpen⟩
  · exact .inr ⟨negated, members, _, _, rfl, rfl, rest⟩
  · rw [classEnd_of_ne narrowOpen, classEnd_of_ne wideOpen]
    exact sameClass_none

theorem InStep.classBehind (inStep : InStep narrow wide) (negated : Bool) :
    SameClass (Regex.classBehind negated narrow) (Regex.classBehind negated wide) := by
  unfold Regex.classBehind
  rcases inStep.cutAt ':' (by decide) with
    ⟨narrowNone, wideNone⟩ | ⟨name, _, _, narrowSome, wideSome, rest⟩
  · rw [narrowNone, wideNone]
    exact sameClass_none
  · rw [narrowSome, wideSome]
    simp only [Option.bind_eq_bind, Option.bind_some]
    cases CharSet.asciiClass? name with
    | none => exact sameClass_none
    | some members => exact rest.classEnd negated members

theorem InStep.readNamedClass (inStep : InStep narrow wide) :
    SameClass (Regex.readNamedClass narrow) (Regex.readNamedClass wide) := by
  rcases inStep.head ':' (by decide) with ⟨_, _, rfl, rfl, rest⟩ | ⟨narrowOther, wideOther⟩
  · rcases rest.head '^' (by decide) with ⟨_, _, rfl, rfl, behind⟩ | ⟨narrowPlain, widePlain⟩
    · exact behind.classBehind true
    · rw [readNamedClass_of_ne narrowPlain, readNamedClass_of_ne widePlain]
      exact rest.classBehind false
  · rw [readNamedClass_eq_none narrowOther, readNamedClass_eq_none wideOther]
    exact sameClass_none

end Classes

section Opening

variable {bracket : Bracket} {bound more : Nat} {text : Text}

theorem takeHyphens_of_ne (settings : Settings) (bracket : Bracket) (bound : Nat)
    (other : ∀ rest, text ≠ '-' :: rest) :
    takeHyphens settings bracket bound text = (bracket, text) := by
  cases bound with
  | zero => rfl
  | succ bound =>
      unfold takeHyphens
      split
      next rest => exact absurd rfl (other rest)
      next => rfl

theorem takeHyphens_eq (enough : text.length < bound) (fewer : bound ≤ more) :
    takeHyphens settings bracket more text = takeHyphens settings bracket bound text := by
  induction bound generalizing bracket more text with
  | zero => cases enough
  | succ bound induction =>
      obtain ⟨more, rfl⟩ := Nat.exists_eq_succ_of_ne_zero (by omega : more ≠ 0)
      by_cases hyphen : ∃ rest, text = '-' :: rest
      · obtain ⟨rest, rfl⟩ := hyphen
        have skipped := skip_length_le settings rest
        have shorter : (settings.skip rest).length < bound := by
          rw [List.length_cons] at enough
          omega
        exact induction shorter (Nat.le_of_succ_le_succ fewer)
      · have other := not_exists.1 hyphen
        rw [takeHyphens_of_ne settings bracket _ other, takeHyphens_of_ne settings bracket _ other]

theorem InStep.takeHyphens (settings : Settings) (bracket : Bracket) (bound : Nat)
    (inStep : InStep narrow wide) :
    Abreast (Regex.takeHyphens settings bracket bound narrow)
      (Regex.takeHyphens settings bracket bound wide) := by
  induction bound generalizing bracket narrow wide with
  | zero => exact ⟨rfl, inStep⟩
  | succ bound induction =>
      rcases inStep.head '-' (by decide) with ⟨_, _, rfl, rfl, rest⟩ | ⟨narrowOther, wideOther⟩
      · exact induction (bracket.addSingle '-') (rest.skip settings)
      · rw [takeHyphens_of_ne settings bracket _ narrowOther,
          takeHyphens_of_ne settings bracket _ wideOther]
        exact ⟨rfl, inStep⟩

/-- Whether brackets are negated, and what follows. -/
def bracketSign (settings : Settings) : Text → Bool × Text
  | '^' :: rest => (true, settings.skip rest)
  | text => (false, text)

/-- The characters at the start of brackets that stand for themselves. -/
def bracketStart (settings : Settings) (negated : Bool) : Text → Bracket × Text
  | ']' :: rest => (({ negated := negated } : Bracket).addSingle ']', settings.skip rest)
  | text => Regex.takeHyphens settings { negated := negated } (text.length + 1) text

theorem openBracket_eq (settings : Settings) (text : Text) :
    openBracket settings text =
      bracketStart settings (bracketSign settings (settings.skip text)).1
        (bracketSign settings (settings.skip text)).2 :=
  rfl

theorem bracketSign_of_ne {text : Text} (plain : ∀ rest, text ≠ '^' :: rest) :
    bracketSign settings text = (false, text) := by
  unfold bracketSign
  split
  next rest => exact absurd rfl (plain rest)
  next => rfl

theorem bracketStart_of_ne {negated : Bool} {text : Text} (isOpen : ∀ rest, text ≠ ']' :: rest) :
    bracketStart settings negated text =
      takeHyphens settings { negated := negated } (text.length + 1) text := by
  unfold bracketStart
  split
  next rest => exact absurd rfl (isOpen rest)
  next => rfl

theorem InStep.bracketSign (settings : Settings) (inStep : InStep narrow wide) :
    Abreast (Regex.bracketSign settings narrow) (Regex.bracketSign settings wide) := by
  rcases inStep.head '^' (by decide) with ⟨_, _, rfl, rfl, rest⟩ | ⟨narrowPlain, widePlain⟩
  · exact ⟨rfl, rest.skip settings⟩
  · rw [bracketSign_of_ne narrowPlain, bracketSign_of_ne widePlain]
    exact ⟨rfl, inStep⟩

theorem InStep.bracketStart (settings : Settings) (negated : Bool) (inStep : InStep narrow wide) :
    Abreast (Regex.bracketStart settings negated narrow)
      (Regex.bracketStart settings negated wide) := by
  rcases inStep.head ']' (by decide) with ⟨_, _, rfl, rfl, rest⟩ | ⟨narrowOpen, wideOpen⟩
  · exact ⟨rfl, rest.skip settings⟩
  · rw [bracketStart_of_ne narrowOpen, bracketStart_of_ne wideOpen,
      ← takeHyphens_eq (Nat.lt_succ_self narrow.length) (Nat.succ_le_succ inStep.length_le)]
    exact inStep.takeHyphens settings _ _

theorem InStep.openBracket (settings : Settings) (inStep : InStep narrow wide) :
    Abreast (Regex.openBracket settings narrow) (Regex.openBracket settings wide) := by
  obtain ⟨sign, rest⟩ := (inStep.skip settings).bracketSign settings
  rw [openBracket_eq, openBracket_eq, sign]
  exact rest.bracketStart settings _

end Opening

end RecordSearch.Regex
