import RecordSearch.Proofs.FramedReading

/-!
# Outlines of what is read

Whether case is ignored makes a difference to the expressions that are read, and to nothing else.
The outline of a reader leaves the expressions, the sets and this setting out and keeps the groups,
the brackets and the depths.  Readers of the same outline take the same steps, so the same texts can
be read with and without regard to case.
-/

namespace RecordSearch.Regex

variable {α β : Type} {reader one other final : Reader} {text : Text} {settings : Settings}
  {least : Nat} {most : Option Nat}

section Definitions

/-- The settings but for the regard to case. -/
def Settings.outline (settings : Settings) : Settings :=
  { settings with ignoreCase := false }

/-- A piece without its expression. -/
def Piece.outline (piece : Piece) : Piece where
  expression := .nothing
  depth := piece.depth

def Part.outline : Part → Part
  | .term piece => .term piece.outline
  | .change => .change

def Branches.outline (branches : Branches) : Branches where
  parts := branches.parts.map Part.outline
  finished := branches.finished.map Piece.outline

def Group.outline (group : Group) : Group where
  outer := group.outer.outline
  settings := group.settings.outline
  numbered := group.numbered

/-- Members without their set. -/
def Members.outline (members : Members) : Members where
  set := .none
  depth := members.depth

def Bracket.outline (bracket : Bracket) : Bracket where
  negated := bracket.negated
  items := bracket.items.map Members.outline
  pending := bracket.pending.map fun (members, operator) => (members.outline, operator)

def Reader.outline (reader : Reader) : Reader where
  branches := reader.branches.outline
  groups := reader.groups.map Group.outline
  brackets := reader.brackets.map Bracket.outline
  settings := reader.settings.outline
  names := reader.names

def outlined (reading : Reader × Text) : Reader × Text :=
  (reading.1.outline, reading.2)

end Definitions

section Idempotence

@[simp]
theorem Settings.outline_outline (settings : Settings) :
    settings.outline.outline = settings.outline :=
  rfl

@[simp]
theorem Piece.outline_outline (piece : Piece) : piece.outline.outline = piece.outline :=
  rfl

@[simp]
theorem Part.outline_outline (part : Part) : part.outline.outline = part.outline := by
  cases part <;> rfl

@[simp]
theorem Branches.outline_outline (branches : Branches) :
    branches.outline.outline = branches.outline := by
  simp [Branches.outline]

@[simp]
theorem Group.outline_outline (group : Group) : group.outline.outline = group.outline := by
  simp [Group.outline]

@[simp]
theorem Members.outline_outline (members : Members) : members.outline.outline = members.outline :=
  rfl

@[simp]
theorem Bracket.outline_outline (bracket : Bracket) :
    bracket.outline.outline = bracket.outline := by
  cases pending : bracket.pending <;> simp [Bracket.outline, pending]

@[simp]
theorem Reader.outline_outline (reader : Reader) : reader.outline.outline = reader.outline := by
  simp [Reader.outline]

end Idempotence

section Depths

theorem Branches.depth_current_outline (branches : Branches) :
    branches.outline.current.depth = branches.current.depth := by
  have depths (part : Part) : part.outline.piece.depth = part.piece.depth := by
    cases part <;> rfl
  simp [Branches.current, Branches.outline, Function.comp_def, depths]

theorem Branches.depth_close (branches : Branches) :
    branches.close.depth =
      layered (((branches.current :: branches.finished).reverse).map (·.depth)) := by
  unfold Branches.close
  split
  next none => rw [none]; rfl
  next some => rw [some]

theorem Branches.depth_close_outline (branches : Branches) :
    branches.outline.close.depth = branches.close.depth := by
  have finished : branches.outline.finished.map (·.depth) = branches.finished.map (·.depth) := by
    simp [Branches.outline, Function.comp_def, Piece.outline]
  rw [depth_close, depth_close, List.map_reverse, List.map_reverse, List.map_cons, List.map_cons,
    depth_current_outline, finished]

theorem Piece.outline_congr {one other : Piece} (same : one.depth = other.depth) :
    one.outline = other.outline := by
  rw [Piece.outline, same]
  rfl

theorem Branches.outline_close (branches : Branches) :
    branches.outline.close.outline = branches.close.outline :=
  Piece.outline_congr branches.depth_close_outline

theorem Branches.outline_next (branches : Branches) :
    branches.outline.next.outline = branches.next.outline := by
  have current : branches.outline.current.outline = branches.current.outline :=
    Piece.outline_congr branches.depth_current_outline
  have finished : branches.outline.finished.map Piece.outline =
      branches.finished.map Piece.outline := by
    simp [Branches.outline]
  change ({ finished := _ :: _ } : Branches) = { finished := _ :: _ }
  rw [current, finished]

theorem Branches.outline_add {one other : Branches} {first second : Piece}
    (same : one.outline = other.outline) (depths : first.depth = second.depth) :
    (one.add first).outline = (other.add second).outline := by
  have parts : one.parts.map Part.outline = other.parts.map Part.outline :=
    congrArg Branches.parts same
  have finished : one.finished.map Piece.outline = other.finished.map Piece.outline :=
    congrArg Branches.finished same
  simp only [Branches.add, Branches.outline, List.map_cons, Part.outline, parts, finished,
    Piece.outline_congr depths]

theorem Branches.outline_repeatLast (branches : Branches) (least : Nat) (most : Option Nat) :
    (branches.outline.repeatLast least most).map Branches.outline =
      (branches.repeatLast least most).map Branches.outline := by
  obtain ⟨parts, finished⟩ := branches
  cases parts with
  | nil => rfl
  | cons part parts =>
      cases part with
      | change => rfl
      | term piece =>
          have still : (parts.map Part.outline).map Part.outline = parts.map Part.outline := by simp
          have stillFinished : (finished.map Piece.outline).map Piece.outline =
              finished.map Piece.outline := by simp
          simp only [Branches.repeatLast, Branches.outline, List.map_cons, Part.outline, still,
            stillFinished, Option.map_some, Piece.outline]

theorem Bracket.depth_gathered_outline (bracket : Bracket) :
    bracket.outline.gathered.depth = bracket.gathered.depth := by
  simp [Bracket.gathered, Bracket.outline, Function.comp_def, Members.outline]

theorem Bracket.depth_operand_outline (bracket : Bracket) :
    bracket.outline.operand.depth = bracket.operand.depth := by
  have gathered := bracket.depth_gathered_outline
  cases pending : bracket.pending with
  | none =>
      have none : bracket.outline.pending = none := by rw [Bracket.outline, pending]; rfl
      simp only [Bracket.operand, pending, none, gathered]
  | some operation =>
      have some : bracket.outline.pending =
          some (operation.1.outline, operation.2) := by
        rw [Bracket.outline, pending]
        rfl
      simp only [Bracket.operand, pending, some, gathered]
      rfl

theorem Members.outline_congr {one other : Members} (same : one.depth = other.depth) :
    one.outline = other.outline := by
  rw [Members.outline, same]
  rfl

theorem Bracket.outline_close (bracket : Bracket) :
    bracket.outline.close.outline = bracket.close.outline :=
  Members.outline_congr (congrArg (· + 1) bracket.depth_operand_outline)

theorem Bracket.outline_add {one other : Bracket} {first second : Members}
    (same : one.outline = other.outline) (depths : first.depth = second.depth) :
    (one.add first).outline = (other.add second).outline := by
  have negated : one.outline.negated = other.outline.negated := congrArg Bracket.negated same
  have items : one.outline.items = other.outline.items := congrArg Bracket.items same
  have pending : one.outline.pending = other.outline.pending := congrArg Bracket.pending same
  simp only [Bracket.outline] at negated items pending
  simp only [Bracket.add, Bracket.outline, List.map_cons, negated, items, pending,
    Members.outline_congr depths]

theorem Bracket.outline_operate (bracket : Bracket) (operator : SetOperator) :
    (bracket.outline.operate operator).outline = (bracket.operate operator).outline := by
  have operand : bracket.outline.operand.outline = bracket.operand.outline :=
    Members.outline_congr bracket.depth_operand_outline
  simp only [Bracket.operate, Bracket.outline, Option.map_some] at operand ⊢
  rw [operand]

end Depths

section Letters

variable {test : Char → Bool} {character : Char}

theorem skip_outline (settings : Settings) (text : Text) :
    settings.outline.skip text = settings.skip text :=
  rfl

theorem ascii_outline (settings : Settings) : settings.outline.ascii = settings.ascii :=
  rfl

theorem takeSpaced_outline (settings : Settings) (count : Nat) (text : Text) :
    settings.outline.takeSpaced count text = settings.takeSpaced count text := by
  induction count generalizing text with
  | zero => rfl
  | succ count induction =>
      cases text with
      | nil => rfl
      | cons => simp only [Settings.takeSpaced, induction, skip_outline]

theorem spanWithin_outline (settings : Settings) (test : Char → Bool) (bound : Nat) (text : Text) :
    settings.outline.spanWithin test bound text = settings.spanWithin test bound text := by
  induction bound generalizing text with
  | zero => rw [spanWithin_zero, spanWithin_zero]
  | succ bound induction =>
      cases text with
      | nil => rfl
      | cons => simp only [Settings.spanWithin, induction, skip_outline]

theorem span_outline (settings : Settings) (test : Char → Bool) (text : Text) :
    settings.outline.span test text = settings.span test text :=
  spanWithin_outline settings test _ text

theorem readHex_outline (settings : Settings) (count : Nat) (text : Text) :
    readHex settings.outline count text = readHex settings count text := by
  simp only [readHex, skip_outline, span_outline, takeSpaced_outline]
  rfl

theorem readPropertyName_outline (settings : Settings) (text : Text) :
    readPropertyName settings.outline text = readPropertyName settings text := by
  simp only [readPropertyName, skip_outline, span_outline]

theorem readBoundaryName_outline (settings : Settings) (text : Text) :
    readBoundaryName settings.outline text = readBoundaryName settings text := by
  simp only [readBoundaryName, skip_outline, span_outline, ascii_outline]

end Letters

section Outlined

variable {γ δ : Type}

/-- Readings that are the same in outline go on to readings that are so too. -/
theorem map_bind_congr {view : α → β} {onward : γ → δ} {one other : Option α}
    {next further : α → Option γ} (same : one.map view = other.map view)
    (alike : ∀ first second, view first = view second →
      (next first).map onward = (further second).map onward) :
    (one.bind next).map onward = (other.bind further).map onward := by
  cases one with
  | none =>
      cases other with
      | none => rfl
      | some second => cases same
  | some first =>
      cases other with
      | none => cases same
      | some second => exact alike first second (Option.some.inj same)

theorem map_bind_of_forall {onward : γ → δ} {next further : α → Option γ} (reading : Option α)
    (alike : ∀ first, (next first).map onward = (further first).map onward) :
    (reading.bind next).map onward = (reading.bind further).map onward := by
  cases reading with
  | none => rfl
  | some first => exact alike first

def Escape.outline : Escape → Escape
  | .letter character => .letter character
  | .set _ => .set .none
  | .edge boundary => .edge boundary

def outlinedEscape (reading : Escape × Text) : Escape × Text :=
  (reading.1.outline, reading.2)

theorem outlinedEscape_readProperty [PropertyTable] (settings : Settings) (negated : Bool)
    (text : Text) :
    (readProperty settings.outline negated text).map outlinedEscape =
      (readProperty settings negated text).map outlinedEscape := by
  rw [readProperty_eq, readProperty_eq, readPropertyName_outline]
  refine map_bind_of_forall _ fun reading => ?_
  unfold Settings.property?
  rw [ascii_outline]
  cases settings.ascii with
  | true => rfl
  | false =>
      generalize askedFor negated reading.1 = asked
      obtain ⟨negated, name⟩ := asked
      dsimp only
      cases PropertyTable.find? name <;> rfl

theorem outlinedEscape_readEscape [PropertyTable] (settings : Settings) (text : Text) :
    (readEscape settings.outline text).map outlinedEscape =
      (readEscape settings text).map outlinedEscape := by
  cases text with
  | nil => rfl
  | cons character rest =>
      by_cases opens : character ∈ openEscapes
      · simp only [openEscapes, List.mem_cons, List.not_mem_nil, or_false] at opens
        rcases opens with rfl | rfl | rfl | rfl | rfl | rfl
        · simp only [readEscape, readHex_outline]
        · simp only [readEscape, readHex_outline]
        · simp only [readEscape, readHex_outline]
        · simp only [readEscape, readBoundaryName_outline]
        · exact outlinedEscape_readProperty settings false rest
        · exact outlinedEscape_readProperty settings true rest
      · have alone : settings.outline.escape? character = settings.escape? character := rfl
        rw [readEscape_of_alone _ opens, readEscape_of_alone _ opens, alone]

theorem outlinedEscape_readItem [PropertyTable] (settings : Settings) (text : Text) :
    (readItem settings.outline text).map outlinedEscape =
      (readItem settings text).map outlinedEscape := by
  unfold readItem
  split
  · rfl
  · exact outlinedEscape_readEscape settings _
  · rfl

/-- What a reading leaves of its text. -/
def remainder (reading : Option (α × Text)) : Option Text :=
  reading.map (·.2)

theorem remainder_itemMembers (settings : Settings) {item other : Escape}
    (same : item.outline = other.outline) (rest : Text) :
    remainder (itemMembers settings.outline item rest) =
      remainder (itemMembers settings other rest) := by
  have alone (item : Escape) : remainder (itemMembers settings.outline item rest) =
      remainder (itemMembers settings item rest) := by
    cases item with
    | letter character =>
        by_cases allowed : settings.allows character = true
        · have outlineAllowed : settings.outline.allows character = true := allowed
          simp only [itemMembers, Escape.characters?, if_pos allowed, if_pos outlineAllowed]
          rfl
        · have outlineRefused : ¬settings.outline.allows character = true := allowed
          simp only [itemMembers, Escape.characters?, if_neg allowed, if_neg outlineRefused]
    | set => rfl
    | edge => rfl
  rw [alone]
  cases item <;> cases other <;> cases same <;> rfl

theorem remainder_rangeMembers (settings : Settings) {item other : Escape}
    (same : item.outline = other.outline) {reading further : Escape × Text}
    (alike : outlinedEscape reading = outlinedEscape further) :
    remainder (rangeMembers settings.outline item reading) =
      remainder (rangeMembers settings other further) := by
  obtain ⟨last, rest⟩ := reading
  obtain ⟨otherLast, _⟩ := further
  obtain ⟨lastSame, rfl⟩ := Prod.mk.inj alike
  cases item <;> cases other <;> cases same <;> try rfl
  rename_i first
  cases last <;> cases otherLast <;> cases lastSame <;> try rfl
  rename_i last
  by_cases ordered : (first ≤ last && settings.allows last) = true
  · have outlineOrdered : (first ≤ last && settings.outline.allows last) = true := ordered
    simp only [rangeMembers, if_pos ordered, if_pos outlineOrdered]
    rfl
  · have outlineApart : ¬(first ≤ last && settings.outline.allows last) = true := ordered
    simp only [rangeMembers, if_neg ordered, if_neg outlineApart]

section Tables

variable [PropertyTable]

theorem remainder_readLast (settings : Settings) {item other : Escape}
    (same : item.outline = other.outline) (whole behind : Text) :
    remainder (readLast settings.outline item whole behind) =
      remainder (readLast settings other whole behind) := by
  unfold readLast
  split
  · exact remainder_itemMembers settings same whole
  · exact remainder_itemMembers settings same whole
  · exact map_bind_congr (outlinedEscape_readItem settings _) fun _ _ =>
      remainder_rangeMembers settings same

theorem remainder_readBehind (settings : Settings) {item other : Escape}
    (same : item.outline = other.outline) (rest : Text) :
    remainder (readBehind settings.outline item rest) =
      remainder (readBehind settings other rest) := by
  unfold readBehind
  split
  · rfl
  · exact remainder_readLast settings same _ _
  · exact remainder_itemMembers settings same _

theorem remainder_readRange (settings : Settings) (text : Text) :
    remainder (readRange settings.outline text) = remainder (readRange settings text) := by
  rw [readRange_eq, readRange_eq]
  refine map_bind_congr (outlinedEscape_readItem settings text) fun first second alike => ?_
  obtain ⟨item, rest⟩ := first
  obtain ⟨other, _⟩ := second
  obtain ⟨same, rfl⟩ := Prod.mk.inj alike
  exact remainder_readBehind settings same (settings.skip rest)

end Tables

theorem takeHyphens_outline (settings : Settings) (bracket : Bracket) (bound : Nat) (text : Text) :
    takeHyphens settings.outline bracket bound text = takeHyphens settings bracket bound text := by
  induction bound generalizing bracket text with
  | zero => rfl
  | succ bound induction => simp only [takeHyphens, skip_outline, induction]

theorem openBracket_outline (settings : Settings) (text : Text) :
    openBracket settings.outline text = openBracket settings text := by
  simp only [openBracket, skip_outline, takeHyphens_outline]

end Outlined

section Groups

variable {one other : Settings}

theorem outline_switch (same : one.outline = other.outline) (letter : Char) (on : Bool) :
    (one.switch letter on).map Settings.outline =
      (other.switch letter on).map Settings.outline := by
  have alone (settings : Settings) : (settings.outline.switch letter on).map Settings.outline =
      (settings.switch letter on).map Settings.outline := by
    unfold Settings.switch
    split <;> rfl
  rw [← alone one, same, alone other]

/-- The letters of settings and the mark behind them, without regard to case. -/
def lettersOutlined (reading : (Settings × List Char × Char) × Text) :
    (Settings × List Char × Char) × Text :=
  ((reading.1.1.outline, reading.1.2), reading.2)

theorem outlined_lettersRead (same : one.outline = other.outline) (on : Bool) (seen : List Char)
    (text : Text) :
    (lettersRead one on seen text).map lettersOutlined =
      (lettersRead other on seen text).map lettersOutlined := by
  induction text generalizing one other on seen with
  | nil => rfl
  | cons character text induction =>
      have ended (mark : Char) : some (lettersOutlined ((one, seen, mark), text)) =
          some (lettersOutlined ((other, seen, mark), text)) := by
        rw [lettersOutlined, same]
        rfl
      by_cases colon : character = ':'
      · subst colon
        exact ended ':'
      by_cases closing : character = ')'
      · subst closing
        exact ended ')'
      by_cases minus : character = '-'
      · subst minus
        by_cases refused :
            on = false ∨ (∃ behind, text = ':' :: behind) ∨ ∃ behind, text = ')' :: behind
        · rw [lettersRead, readSettings_minus_eq_none refused, lettersRead,
            readSettings_minus_eq_none refused]
        · simp only [not_or, not_exists, Bool.not_eq_false] at refused
          obtain ⟨rfl, notColon, notClosing⟩ := refused
          rw [lettersRead, readSettings_minus notColon notClosing, lettersRead,
            readSettings_minus notColon notClosing]
          exact induction same false ('-' :: seen)
      rw [lettersRead_letter colon closing minus, lettersRead_letter colon closing minus]
      split
      · rfl
      · exact map_bind_congr (outline_switch same character on) fun first second alike =>
          induction alike on (character :: seen)

theorem outline_openGroup (reader : Reader) (same : one.outline = other.outline)
    (numbered : Bool) :
    (reader.outline.openGroup one numbered).outline =
      (reader.openGroup other numbered).outline := by
  simp [Reader.openGroup, Reader.outline, Group.outline, same]

theorem outlined_applySettings (reader : Reader)
    {first second : (Settings × List Char × Char) × Text}
    (same : lettersOutlined first = lettersOutlined second) :
    (applySettings reader.outline first).map outlined =
      (applySettings reader second).map outlined := by
  obtain ⟨⟨one, seen, mark⟩, rest⟩ := first
  obtain ⟨⟨other, _, _⟩, _⟩ := second
  simp only [lettersOutlined, Prod.mk.injEq] at same
  obtain ⟨⟨settings, rfl, rfl⟩, rfl⟩ := same
  unfold applySettings
  dsimp only
  split
  · simp only [Option.map_some, outlined, outline_openGroup reader settings]
  · split
    · rfl
    · simp [outlined, Reader.outline, Branches.outline, settings]

theorem outlined_openNamed (reader : Reader) (text : Text) :
    (reader.outline.openNamed text).map outlined = (reader.openNamed text).map outlined := by
  unfold Reader.openNamed
  refine map_bind_of_forall _ fun (name, rest) => ?_
  cases name with
  | nil => rfl
  | cons first others =>
      refine map_bind_of_forall _ fun _ => map_bind_of_forall _ fun _ => ?_
      have opened := outline_openGroup reader (reader.settings.outline_outline) true
      exact congrArg (fun opened : Reader =>
        some ({ opened with names := (first :: others) :: reader.names }, rest)) opened

theorem outlined_readFlags (reader : Reader) (text : Text) :
    (readFlags reader.outline text).map outlined = (readFlags reader text).map outlined := by
  rw [readFlags_eq, readFlags_eq]
  exact map_bind_congr (outlined_lettersRead reader.settings.outline_outline true [] text)
    fun _ _ same => outlined_applySettings reader same

theorem outlined_readAngle (reader : Reader) (text : Text) :
    (readAngle reader.outline text).map outlined = (readAngle reader text).map outlined := by
  unfold readAngle
  split
  · rfl
  · rfl
  · exact outlined_openNamed reader _

theorem outlined_readQuestion (reader : Reader) (text : Text) :
    (readQuestion reader.outline text).map outlined =
      (readQuestion reader text).map outlined := by
  unfold readQuestion
  split
  · rfl
  · rfl
  · exact outlined_readAngle reader _
  · exact outlined_openNamed reader _
  · exact outlined_readFlags reader _

theorem outlined_readGroup (reader : Reader) (text : Text) :
    (reader.outline.readGroup text).map outlined = (reader.readGroup text).map outlined := by
  rw [readGroup_eq, readGroup_eq]
  change (readOpening _ (reader.settings.skip text)).map outlined = _
  unfold readOpening
  split
  · exact outlined_readQuestion reader _
  · exact congrArg (fun opened => some (opened, _))
      (outline_openGroup reader reader.settings.outline_outline true)

end Groups

section Repetitions

theorem outline_setBranches (reader : Reader) {one other : Branches}
    (same : one.outline = other.outline) :
    ({ reader.outline with branches := one } : Reader).outline =
      ({ reader with branches := other } : Reader).outline := by
  simp [Reader.outline, same]

theorem outlined_repeatLast (reader : Reader) (least : Nat) (most : Option Nat) (text : Text) :
    (reader.outline.repeatLast least most text).map outlined =
      (reader.repeatLast least most text).map outlined := by
  exact map_bind_congr (reader.branches.outline_repeatLast least most) fun _ _ same =>
    congrArg (fun reader => some (reader, Reader.skipReluctant text))
      (outline_setBranches reader same)

theorem readCount_outline (settings : Settings) (text : Text) :
    Reader.readCount settings.outline text = Reader.readCount settings text := by
  simp only [Reader.readCount, span_outline]

theorem outlined_readBounded (reader : Reader) (least : Nat) (most : Option Nat) (text : Text) :
    (readBounded reader.outline least most text).map outlined =
      (readBounded reader least most text).map outlined := by
  unfold readBounded
  split
  · exact outlined_repeatLast reader _ _ _
  · rfl

theorem outlined_readGreatest (reader : Reader) (least : Nat) (text : Text) :
    (readGreatest reader.outline least text).map outlined =
      (readGreatest reader least text).map outlined := by
  have count : Reader.readCount reader.outline.settings text =
      Reader.readCount reader.settings text := readCount_outline reader.settings text
  unfold readGreatest
  rw [count]
  exact map_bind_of_forall _ fun (most, rest) => map_bind_of_forall _ fun most =>
    map_bind_of_forall _ fun _ => outlined_readBounded reader least (some most) rest

theorem outlined_readUpper (reader : Reader) (least : Nat) (text : Text) :
    (readUpper reader.outline least text).map outlined =
      (readUpper reader least text).map outlined := by
  unfold readUpper
  split
  · exact outlined_repeatLast reader _ _ _
  · exact outlined_readGreatest reader least _

theorem outlined_readLower (reader : Reader) (least : Nat) (text : Text) :
    (readLower reader.outline least text).map outlined =
      (readLower reader least text).map outlined := by
  unfold readLower
  split
  · exact outlined_repeatLast reader _ _ _
  · exact outlined_readUpper reader least _
  · rfl

theorem outlined_readCounts (reader : Reader) (text : Text) :
    (reader.outline.readCounts text).map outlined = (reader.readCounts text).map outlined := by
  have count : Reader.readCount reader.outline.settings (reader.outline.settings.skip text) =
      Reader.readCount reader.settings (reader.settings.skip text) :=
    readCount_outline reader.settings _
  rw [readCounts_eq, readCounts_eq, count]
  exact map_bind_of_forall _ fun (least, rest) => map_bind_of_forall _ fun least =>
    outlined_readLower reader least rest

end Repetitions

section Steps

theorem outline_add (reader : Reader) {first second : Piece} (depths : first.depth = second.depth) :
    (reader.outline.add first).outline = (reader.add second).outline :=
  outline_setBranches reader (Branches.outline_add reader.branches.outline_outline depths)

theorem outline_closeGroup (reader : Reader) :
    reader.outline.closeGroup.map Reader.outline = reader.closeGroup.map Reader.outline := by
  unfold Reader.closeGroup
  cases opened : reader.groups with
  | nil =>
      have none : reader.outline.groups = [] := by rw [Reader.outline, opened]; rfl
      rw [none]
  | cons innermost groups =>
      have some : reader.outline.groups = innermost.outline :: groups.map Group.outline := by
        rw [Reader.outline, opened]
        rfl
      have branches : (innermost.outline.outer.add
          (innermost.outline.enclose reader.outline.branches.close)).outline =
            (innermost.outer.add (innermost.enclose reader.branches.close)).outline :=
        Branches.outline_add innermost.outer.outline_outline
          (congrArg (· + 1) reader.branches.depth_close_outline)
      rw [some]
      simp only [Option.map_some, Option.some.injEq]
      rw [Reader.outline, branches]
      simp [Reader.outline, Group.outline]

theorem outline_setBrackets (reader : Reader) {one other : List Bracket}
    (same : one.map Bracket.outline = other.map Bracket.outline) :
    ({ reader.outline with brackets := one } : Reader).outline =
      ({ reader with brackets := other } : Reader).outline := by
  simp [Reader.outline, same]

variable [PropertyTable]

theorem outlined_readPart (reader : Reader) (text : Text) :
    (reader.outline.readPart text).map outlined = (reader.readPart text).map outlined := by
  have reached {one other : Reader} (same : one.outline = other.outline) (rest : Text) :
      some (outlined (one, rest)) = some (outlined (other, rest)) :=
    congrArg (fun reader => some (reader, rest)) same
  have added {first second : Piece} (depths : first.depth = second.depth) (rest : Text) :=
    reached (outline_add reader depths) rest
  unfold Reader.readPart
  split
  · exact reached reader.outline_outline []
  · exact outlined_readGroup reader _
  next rest =>
    exact map_bind_congr (outline_closeGroup reader) fun first second same => reached same rest
  · exact reached (outline_setBranches reader reader.branches.outline_next) _
  next rest =>
    have opened : openBracket reader.outline.settings rest = openBracket reader.settings rest :=
      openBracket_outline reader.settings rest
    simp only [opened]
    exact reached (outline_setBrackets reader rfl) _
  · exact outlined_repeatLast reader _ _ _
  · exact outlined_repeatLast reader _ _ _
  · exact outlined_repeatLast reader _ _ _
  · exact outlined_readCounts reader _
  next rest =>
    refine map_bind_congr (outlinedEscape_readEscape reader.settings rest)
      fun first second alike => ?_
    obtain ⟨escape, behind⟩ := first
    obtain rfl : behind = second.2 := congrArg Prod.snd alike
    exact added rfl _
  · exact map_bind_of_forall reader.settings.dot? fun _ => added rfl _
  · exact added rfl _
  · exact added rfl _
  · exact added rfl _

theorem outlined_readInside (reader : Reader) (bracket : Bracket) (outer : List Bracket)
    (text : Text) :
    (reader.outline.readInside bracket.outline (outer.map Bracket.outline) text).map outlined =
      (reader.readInside bracket outer text).map outlined := by
  have outers : (outer.map Bracket.outline).map Bracket.outline = outer.map Bracket.outline := by
    simp
  have inside {one other : Bracket} (same : one.outline = other.outline) (rest : Text) :
      some (outlined ({ reader.outline with brackets := one :: outer.map Bracket.outline }, rest)) =
        some (outlined ({ reader with brackets := other :: outer }, rest)) := by
    have brackets : (one :: outer.map Bracket.outline).map Bracket.outline =
        (other :: outer).map Bracket.outline := by
      rw [List.map_cons, List.map_cons, same, outers]
    exact congrArg (fun reader => some (reader, rest)) (outline_setBrackets reader brackets)
  have added {first second : Members} (depths : first.depth = second.depth) (rest : Text) :=
    inside (Bracket.outline_add bracket.outline_outline depths) rest
  unfold Reader.readInside
  split
  · rfl
  next rest =>
    cases readNamedClass rest with
    | none =>
        have opened : openBracket reader.outline.settings rest = openBracket reader.settings rest :=
          openBracket_outline reader.settings rest
        have brackets (inner : Bracket) :
            (inner :: bracket.outline :: outer.map Bracket.outline).map Bracket.outline =
              (inner :: bracket :: outer).map Bracket.outline := by
          simp
        simp only [opened]
        exact congrArg (fun reader => some (reader, _)) (outline_setBrackets reader (brackets _))
    | some named => exact map_bind_of_forall _ fun _ => added rfl _
  next rest =>
    have depths : bracket.outline.close.depth = bracket.close.depth :=
      congrArg (· + 1) bracket.depth_operand_outline
    refine map_bind_of_forall _ fun _ => ?_
    cases outer with
    | nil =>
        exact congrArg (fun reader => some (reader, rest))
          (outline_add { reader with brackets := [] } depths)
    | cons parent outer =>
        have brackets : (parent.outline.add bracket.outline.close ::
            outer.map Bracket.outline).map Bracket.outline =
              (parent.add bracket.close :: outer).map Bracket.outline := by
          rw [List.map_cons, List.map_cons, Bracket.outline_add parent.outline_outline depths]
          simp
        exact congrArg (fun reader => some (reader, rest)) (outline_setBrackets reader brackets)
  · exact inside (bracket.outline_operate _) _
  · exact inside (bracket.outline_operate _) _
  · exact inside (bracket.outline_operate _) _
  · refine map_bind_congr (remainder_readRange reader.settings text) fun first second same => ?_
    obtain ⟨members, rest⟩ := first
    obtain rfl : rest = second.2 := same
    exact added rfl _

theorem outlined_step_outline (reader : Reader) (text : Text) :
    (reader.outline.step text).map outlined = (reader.step text).map outlined := by
  cases brackets : reader.brackets with
  | nil =>
      have outside : reader.outline.brackets = [] := by rw [Reader.outline, brackets]; rfl
      rw [step_of_outside brackets, step_of_outside outside]
      exact outlined_readPart reader _
  | cons bracket outer =>
      have inside : reader.outline.brackets = bracket.outline :: outer.map Bracket.outline := by
        rw [Reader.outline, brackets]
        rfl
      rw [step_of_inside brackets, step_of_inside inside]
      exact outlined_readInside reader bracket outer _

theorem outlined_step (same : one.outline = other.outline) (text : Text) :
    (one.step text).map outlined = (other.step text).map outlined := by
  rw [← outlined_step_outline one, same, outlined_step_outline other]

/-- What is read by readers of the same outline has the same outline. -/
theorem outline_run (same : one.outline = other.outline) (bound : Nat) (text : Text) :
    (Reader.run bound one text).map Reader.outline =
      (Reader.run bound other text).map Reader.outline := by
  induction bound generalizing one other text with
  | zero =>
      cases text with
      | nil => exact congrArg some same
      | cons => rfl
  | succ bound induction =>
      cases text with
      | nil => exact congrArg some same
      | cons character text =>
          refine map_bind_congr (outlined_step same (character :: text))
            fun first second alike => ?_
          obtain ⟨next, rest⟩ := first
          obtain ⟨nextSame, rfl⟩ := Prod.mk.inj alike
          exact induction nextSame _

end Steps

section Strays

theorem groups_outline_eq_nil_iff : reader.outline.groups = [] ↔ reader.groups = [] :=
  List.map_eq_nil_iff

theorem brackets_outline_eq_nil_iff : reader.outline.brackets = [] ↔ reader.brackets = [] :=
  List.map_eq_nil_iff

theorem StrayEnd.of_outline (stray : StrayEnd one text) (same : one.outline = other.outline) :
    StrayEnd other text := by
  have skipped : one.outline.settings.skip text = other.outline.settings.skip text := by rw [same]
  obtain ⟨outside, ungrouped, rest, closing⟩ := stray
  rw [← brackets_outline_eq_nil_iff, same, brackets_outline_eq_nil_iff] at outside
  rw [← groups_outline_eq_nil_iff, same, groups_outline_eq_nil_iff] at ungrouped
  exact ⟨outside, ungrouped, rest, skipped.symm.trans closing⟩

theorem Strays.of_outline [PropertyTable] (strays : Strays one text)
    (same : one.outline = other.outline) : Strays other text := by
  induction strays generalizing other with
  | here stray => exact .here (stray.of_outline same)
  | @later one next text rest stepped _ induction =>
      have steps := outlined_step same text
      rw [stepped] at steps
      obtain ⟨⟨further, behind⟩, otherStepped, alike⟩ := Option.map_eq_some_iff.1 steps.symm
      obtain ⟨nextSame, rfl⟩ := Prod.mk.inj alike
      exact .later otherStepped (induction nextSame.symm)

end Strays

end RecordSearch.Regex
