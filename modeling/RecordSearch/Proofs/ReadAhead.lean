import RecordSearch.Proofs.RepeatedEnd

/-!
# Reading ahead of the end

The body of a whole form is read like the body alone up to the parenthesis behind it.  What the
functions of the reader make of the continued text follows from what they make of the body: the same
result and the same place, unless a comment takes the end with it.  Where the body breaks off in the
middle of something, the parenthesis does not complete it, or it is taken for something else than
the end of the group.
-/

namespace RecordSearch.Regex

variable {α β : Type} {settings : Settings} {character : Char} {narrow wide : Text}
  {limit count : Nat}

/-- The second text goes on with the end of a whole form, unless a comment has taken this end. -/
inductive Continued : Text → Text → Prop
  | taken : Continued [] []
  | atEnd : Continued [] plainEnd
  | cons (character : Char) {narrow wide : Text} :
      Continued narrow wide → Continued (character :: narrow) (character :: wide)

/-- Both readings gave the same, and the second one stopped where the first one did. -/
structure Alongside (limit : Nat) (narrow wide : α × Text) : Prop where
  same : narrow.1 = wide.1
  continued : Continued narrow.2 wide.2
  shorter : narrow.2.length ≤ limit

/-- The readings of a text and of a continued one.  If only the second one succeeds, it goes past
the end of the text. -/
inductive Follows (limit : Nat) (past : α × Text → Prop) :
    Option (α × Text) → Option (α × Text) → Prop
  | both (result : α) {narrow wide : Text} :
      Continued narrow wide → narrow.length ≤ limit →
      Follows limit past (some (result, narrow)) (some (result, wide))
  | strays {wide : Option (α × Text)} :
      (∀ reading, wide = some reading → past reading) → Follows limit past none wide

section Follows

variable {past : α × Text → Prop} {pastNext : β × Text → Prop} {one other : Option (α × Text)}
  {result : α} {more : Nat}

theorem continued_append (body : Text) : Continued body (body ++ plainEnd) := by
  induction body with
  | nil => exact .atEnd
  | cons character body induction => exact .cons character induction

theorem Continued.ne_nil (continued : Continued narrow wide) (nonempty : narrow ≠ []) :
    wide ≠ [] := by
  rintro rfl
  cases continued
  exact nonempty rfl

/-- Behind a text that is done the end is left, or nothing is left at all. -/
theorem Continued.of_nil (continued : Continued [] wide) : wide = [] ∨ wide = plainEnd := by
  cases continued with
  | taken => exact .inl rfl
  | atEnd => exact .inr rfl

theorem Continued.length_le (continued : Continued narrow wide) :
    narrow.length ≤ wide.length := by
  induction continued with
  | taken => exact Nat.le_refl _
  | atEnd => exact Nat.zero_le _
  | cons _ _ induction => exact Nat.succ_le_succ induction

/-- Both texts begin with a mark other than the parenthesis, or none of them does. -/
theorem Continued.head (continued : Continued narrow wide) (mark : Char) (apart : mark ≠ ')') :
    (∃ narrowRest wideRest, narrow = mark :: narrowRest ∧ wide = mark :: wideRest ∧
      Continued narrowRest wideRest) ∨
    ((∀ rest, narrow ≠ mark :: rest) ∧ ∀ rest, wide ≠ mark :: rest) := by
  have other {first : Char} {rest : Text} (differs : first ≠ mark) (text : Text) :
      first :: rest ≠ mark :: text := fun equal => differs (List.cons.inj equal).1
  cases continued with
  | taken => exact .inr ⟨nofun, nofun⟩
  | atEnd => exact .inr ⟨nofun, other apart.symm⟩
  | cons character continued =>
      by_cases marked : character = mark
      · subst marked
        exact .inl ⟨_, _, rfl, rfl, continued⟩
      · exact .inr ⟨other marked, other marked⟩

/-- Both texts begin with two marks, or none of them does. -/
theorem Continued.pair (continued : Continued narrow wide) (first second : Char)
    (firstApart : first ≠ ')') (secondApart : second ≠ ')') :
    (∃ narrowRest wideRest, narrow = first :: second :: narrowRest ∧
      wide = first :: second :: wideRest ∧ Continued narrowRest wideRest) ∨
    ((∀ rest, narrow ≠ first :: second :: rest) ∧ ∀ rest, wide ≠ first :: second :: rest) := by
  rcases continued.head first firstApart with ⟨_, _, rfl, rfl, rest⟩ | ⟨narrowOther, wideOther⟩
  · rcases rest.head second secondApart with ⟨_, _, rfl, rfl, behind⟩ | ⟨narrowSingle, wideSingle⟩
    · exact .inl ⟨_, _, rfl, rfl, behind⟩
    · refine .inr ⟨fun rest equal => ?_, fun rest equal => ?_⟩
      · exact narrowSingle rest (List.cons.inj equal).2
      · exact wideSingle rest (List.cons.inj equal).2
  · exact .inr ⟨fun rest => narrowOther (second :: rest), fun rest => wideOther (second :: rest)⟩

theorem Alongside.mono {first second : α × Text} (alongside : Alongside limit first second)
    (larger : limit ≤ more) : Alongside more first second :=
  ⟨alongside.same, alongside.continued, Nat.le_trans alongside.shorter larger⟩

theorem Alongside.follows {first second : α × Text} (alongside : Alongside limit first second) :
    Follows limit past (some first) (some second) := by
  obtain ⟨result, narrow⟩ := first
  obtain ⟨_, wide⟩ := second
  obtain ⟨rfl, continued, shorter⟩ := alongside
  exact .both result continued shorter

theorem follows_none : Follows limit past none none :=
  .strays nofun

theorem Follows.mono (follows : Follows limit past one other) (larger : limit ≤ more) :
    Follows more past one other := by
  cases follows with
  | both result continued shorter => exact .both result continued (Nat.le_trans shorter larger)
  | strays strayed => exact .strays strayed

theorem Follows.weaken {wider : α × Text → Prop} (follows : Follows limit past one other)
    (implies : ∀ reading, past reading → wider reading) : Follows limit wider one other := by
  cases follows with
  | both result continued shorter => exact .both result continued shorter
  | strays strayed => exact .strays fun reading read => implies reading (strayed reading read)

theorem Follows.bind {next : α × Text → Option (β × Text)} (follows : Follows limit past one other)
    (further : ∀ result narrow wide, Continued narrow wide → narrow.length ≤ limit →
      Follows more pastNext (next (result, narrow)) (next (result, wide)))
    (still : ∀ reading, past reading → ∀ further, next reading = some further →
      pastNext further) :
    Follows more pastNext (one.bind next) (other.bind next) := by
  cases follows with
  | both result continued shorter => exact further _ _ _ continued shorter
  | strays strayed =>
      refine .strays fun reading read => ?_
      obtain ⟨first, firstRead, nextRead⟩ := Option.bind_eq_some_iff.1 read
      exact still first (strayed first firstRead) reading nextRead

/-- What is made of a result makes no difference to the place where it is read. -/
theorem Follows.map (make : α → β) (follows : Follows limit past one other)
    (still : ∀ result rest, past (result, rest) → pastNext (make result, rest)) :
    Follows limit pastNext (one.map fun reading => (make reading.1, reading.2))
      (other.map fun reading => (make reading.1, reading.2)) := by
  cases follows with
  | both result continued shorter => exact .both (make result) continued shorter
  | strays strayed =>
      refine .strays fun reading read => ?_
      obtain ⟨first, firstRead, rfl⟩ := Option.map_eq_some_iff.1 read
      exact still _ _ (strayed first firstRead)

theorem Follows.guard (follows : Follows limit past one other) (condition : Prop)
    [Decidable condition] :
    Follows limit past (do guard condition; one) (do guard condition; other) := by
  by_cases holds : condition
  · simpa [holds] using follows
  · simp only [holds, guard_false]
    exact follows_none

end Follows

section Blanks

theorem Continued.dropWhile (continued : Continued narrow wide) (test : Char → Bool)
    (closing : test ')' = false) : Continued (narrow.dropWhile test) (wide.dropWhile test) := by
  induction continued with
  | taken => exact .taken
  | atEnd =>
      rw [plainEnd, List.dropWhile_cons_of_neg (by simp [closing])]
      exact .atEnd
  | cons character continued induction =>
      cases holds : test character with
      | true => rwa [List.dropWhile_cons_of_pos holds, List.dropWhile_cons_of_pos holds]
      | false =>
          rw [List.dropWhile_cons_of_neg (by simp [holds]),
            List.dropWhile_cons_of_neg (by simp [holds])]
          exact .cons character continued

/-- A comment that does not end before the end takes it. -/
theorem Continued.skipComment (continued : Continued narrow wide) :
    Continued (Regex.skipComment narrow) (Regex.skipComment wide) := by
  unfold Regex.skipComment
  induction continued with
  | taken => exact .taken
  | atEnd => exact .taken
  | cons character continued induction =>
      by_cases newline : character = '\n'
      · subst newline
        exact .cons '\n' continued
      · simpa [newline] using induction

theorem Continued.skipWithin (bound : Nat) (continued : Continued narrow wide) :
    Continued (Regex.skipWithin bound narrow) (Regex.skipWithin bound wide) := by
  induction bound generalizing narrow wide with
  | zero => exact continued
  | succ bound induction =>
      have dropped := continued.dropWhile Text.isBlank (by decide)
      rcases dropped.head '#' (by decide) with
        ⟨_, _, narrowEq, wideEq, rest⟩ | ⟨narrowOther, wideOther⟩
      · simp only [Regex.skipWithin, narrowEq, wideEq]
        exact induction rest.skipComment
      · have plain {text : Text} (other : ∀ rest, text.dropWhile Text.isBlank ≠ '#' :: rest) :
            Regex.skipWithin (bound + 1) text = text.dropWhile Text.isBlank := by
          rcases skipWithin_succ bound text with ⟨rest, equal, _⟩ | ⟨_, skipped⟩
          · exact absurd equal (other rest)
          · exact skipped
        rw [plain narrowOther, plain wideOther]
        exact dropped

theorem Continued.skip (settings : Settings) (continued : Continued narrow wide) :
    Continued (settings.skip narrow) (settings.skip wide) := by
  unfold Settings.skip
  split
  · rw [← skipWithin_eq (Nat.lt_succ_self narrow.length) (Nat.succ_le_succ continued.length_le)]
    exact continued.skipWithin _
  · exact continued

end Blanks

section Spans

variable {test : Char → Bool} {bound : Nat} {text : Text}

theorem Continued.spanWithin (settings : Settings) (continued : Continued narrow wide)
    (bound : Nat) (closing : test ')' = false) :
    Alongside narrow.length (settings.spanWithin test bound narrow)
      (settings.spanWithin test bound wide) := by
  induction bound generalizing narrow wide with
  | zero =>
      rw [spanWithin_zero, spanWithin_zero]
      exact ⟨rfl, continued, Nat.le_refl _⟩
  | succ bound induction =>
      cases continued with
      | taken => exact ⟨rfl, .taken, Nat.le_refl _⟩
      | atEnd =>
          simp only [plainEnd, Settings.spanWithin, closing]
          exact ⟨rfl, .atEnd, Nat.le_refl _⟩
      | @cons character narrow wide continued =>
          simp only [Settings.spanWithin]
          cases test character with
          | true =>
              obtain ⟨same, rest, shorter⟩ := induction (continued.skip settings)
              have skipped := skip_length_le settings narrow
              exact ⟨congrArg (List.cons character) same, rest,
                Nat.le_succ_of_le (Nat.le_trans shorter skipped)⟩
          | false => exact ⟨rfl, .cons character continued, Nat.le_refl _⟩

theorem Continued.span (settings : Settings) (continued : Continued narrow wide)
    (test : Char → Bool) (closing : test ')' = false) :
    Alongside narrow.length (settings.span test narrow) (settings.span test wide) := by
  unfold Settings.span
  rw [← spanWithin_eq (Nat.le_refl narrow.length) continued.length_le]
  exact continued.spanWithin settings _ closing

/-- Characters for which a test holds are taken alike, or to the end if it holds of the end. -/
theorem Continued.spanWithin_over (settings : Settings) (continued : Continued narrow wide)
    (holds : HoldsOfEnds test) (enough : wide.length ≤ bound) :
    Alongside narrow.length (settings.spanWithin test bound narrow)
        (settings.spanWithin test bound wide) ∨
      (settings.spanWithin test bound narrow).2 = [] ∧
        (settings.spanWithin test bound wide).2 = [] := by
  induction bound generalizing narrow wide with
  | zero =>
      rw [spanWithin_zero, spanWithin_zero]
      exact .inl ⟨rfl, continued, Nat.le_refl _⟩
  | succ bound induction =>
      cases continued with
      | taken => exact .inr ⟨rfl, rfl⟩
      | atEnd => exact .inr ⟨rfl, spanWithin_plainEnd holds enough⟩
      | @cons character narrow wide continued =>
          simp only [Settings.spanWithin]
          cases test character with
          | true =>
              have skipped := skip_length_le settings wide
              have within : (settings.skip wide).length ≤ bound := by
                rw [List.length_cons] at enough
                omega
              refine (induction (continued.skip settings) within).imp_left fun alongside => ?_
              have shorter := Nat.le_trans alongside.shorter (skip_length_le settings narrow)
              exact ⟨congrArg (List.cons character) alongside.same, alongside.continued,
                Nat.le_succ_of_le shorter⟩
          | false => exact .inl ⟨rfl, .cons character continued, Nat.le_refl _⟩

theorem Continued.span_over (settings : Settings) (continued : Continued narrow wide)
    (holds : HoldsOfEnds test) :
    Alongside narrow.length (settings.span test narrow) (settings.span test wide) ∨
      (settings.span test narrow).2 = [] ∧ (settings.span test wide).2 = [] := by
  unfold Settings.span
  rw [← spanWithin_eq (Nat.le_refl narrow.length) continued.length_le]
  exact continued.spanWithin_over settings holds (Nat.le_refl _)

theorem span_eq_of_nil (nothing : (settings.span test text).1 = []) :
    (settings.span test text).2 = text := by
  unfold Settings.span at nothing ⊢
  cases text with
  | nil => rfl
  | cons character text =>
      simp only [List.length_cons, Settings.spanWithin] at nothing ⊢
      cases holds : test character with
      | true =>
          rw [holds, if_pos rfl] at nothing
          cases nothing
      | false => rfl

/-- A count of characters that runs over the end takes the parenthesis. -/
theorem Continued.takeSpaced (settings : Settings) (continued : Continued narrow wide)
    (count : Nat) :
    Follows narrow.length (fun reading => ')' ∈ reading.1) (settings.takeSpaced count narrow)
      (settings.takeSpaced count wide) := by
  induction count generalizing narrow wide with
  | zero => exact .both [] continued (Nat.le_refl _)
  | succ count induction =>
      cases continued with
      | taken => exact follows_none
      | atEnd =>
          refine .strays fun reading read => ?_
          obtain ⟨_, _, rfl⟩ := Option.map_eq_some_iff.1 read
          exact List.mem_cons_self
      | @cons character narrow wide continued =>
          have shorter := Nat.le_succ_of_le (skip_length_le settings narrow)
          exact ((induction (continued.skip settings)).map (List.cons character) fun _ _ strayed =>
            List.mem_cons_of_mem character strayed).mono shorter

end Spans

section Escapes

/-- What is read up to a closing brace is read in both texts or in none. -/
theorem Alongside.braced (read : Text → Option α) {past : α × Text → Prop}
    {first second : Text × Text} (alongside : Alongside limit first second) :
    Follows limit past (Regex.braced read first) (Regex.braced read second) := by
  obtain ⟨inside, narrow⟩ := first
  obtain ⟨_, wide⟩ := second
  obtain ⟨rfl, continued, shorter⟩ := alongside
  have unclosed {rest : Text} (isOpen : ∀ behind, rest ≠ '\x7D' :: behind) :
      Regex.braced read (inside, rest) = none := by
    cases rest with
    | nil => rfl
    | cons character rest =>
        exact braced_of_ne read inside rest fun closes => isOpen rest (by rw [closes])
  dsimp only at continued shorter ⊢
  rcases continued.head '\x7D' (by decide) with ⟨_, _, rfl, rfl, rest⟩ | ⟨narrowOpen, wideOpen⟩
  · change Follows _ _ ((read inside).map fun result => (result, _))
      ((read inside).map fun result => (result, _))
    cases read inside with
    | none => exact follows_none
    | some result => exact .both result rest (Nat.le_trans (Nat.le_succ _) shorter)
  · rw [unclosed narrowOpen, unclosed wideOpen]
    exact follows_none

theorem Continued.readHex (settings : Settings) {past : Char × Text → Prop}
    (continued : Continued narrow wide) (count : Nat) :
    Follows narrow.length past (Regex.readHex settings count narrow)
      (Regex.readHex settings count wide) := by
  have skipped := continued.skip settings
  have shorter := skip_length_le settings narrow
  rcases skipped.head '\x7B' (by decide) with
    ⟨narrowRest, wideRest, narrowEq, wideEq, rest⟩ | ⟨narrowNe, wideNe⟩
  · rw [readHex_braces settings count narrowEq, readHex_braces settings count wideEq]
    have digits := (rest.skip settings).span settings
      (fun character => (hexDigit? character).isSome) rfl
    have inside := skip_length_le settings narrowRest
    rw [narrowEq, List.length_cons] at shorter
    exact (digits.braced hexChar?).mono (by omega)
  · rw [readHex_digits settings count narrowNe, readHex_digits settings count wideNe]
    refine ((skipped.takeSpaced settings count).bind (fun digits _ _ rest fewer => ?_)
      fun reading strayed _ read => ?_).mono shorter
    · dsimp only
      cases hexChar? digits with
      | none => exact follows_none
      | some character => exact Follows.guard (.both character rest fewer) _
    · obtain ⟨digits, rest⟩ := reading
      dsimp only at strayed read
      rw [hexChar?_eq_none strayed] at read
      cases read

/-- A brace that is left alone, with nothing but the end of a whole form behind it. -/
def AtBrace (settings : Settings) (text : Text) : Prop :=
  ∃ rest, text = '\x7B' :: rest ∧ settings.skip rest = plainEnd

theorem Continued.readBoundaryName (settings : Settings) (continued : Continued narrow wide) :
    Follows narrow.length
      (fun reading => reading.1 = .wordEdge settings.ascii ∧ AtBrace settings reading.2)
      (Regex.readBoundaryName settings narrow) (Regex.readBoundaryName settings wide) := by
  rcases continued.head '\x7B' (by decide) with
    ⟨narrowRest, wideRest, rfl, rfl, rest⟩ | ⟨narrowNe, wideNe⟩
  · rw [readBoundaryName_braces, readBoundaryName_braces]
    have inside := skip_length_le settings narrowRest
    have named := ((rest.skip settings).span settings inBoundaryName (by decide)).mono
      (Nat.le_succ_of_le inside)
    have nameless := @span_eq_of_nil settings inBoundaryName (settings.skip wideRest)
    generalize settings.span inBoundaryName (settings.skip narrowRest) = first at *
    generalize settings.span inBoundaryName (settings.skip wideRest) = second at *
    obtain ⟨name, narrow⟩ := first
    obtain ⟨other, wide⟩ := second
    have behind : Continued narrow wide := named.continued
    have same : name = other := named.same
    subst same
    cases name with
    | nil =>
        cases behind with
        | taken => exact follows_none
        | atEnd =>
            refine .strays fun reading read => ?_
            obtain rfl := Option.some.inj read
            exact ⟨rfl, _, rfl, (nameless rfl).symm⟩
        | cons => exact .both _ (.cons _ rest) (Nat.le_refl _)
    | cons =>
        cases behind with
        | taken => exact follows_none
        | atEnd => exact follows_none
        | cons => exact named.braced (boundaryOfName settings.ascii)
  · rw [readBoundaryName_of_ne settings narrowNe, readBoundaryName_of_ne settings wideNe]
    exact .both _ continued (Nat.le_refl _)

theorem readPropertyName_nil (settings : Settings) {text : Text}
    (skipped : settings.skip text = []) : readPropertyName settings text = none := by
  rw [readPropertyName, skipped]

theorem Continued.readPropertyName (settings : Settings) (continued : Continued narrow wide) :
    Follows narrow.length (fun reading => reading.2 = ['$'])
      (Regex.readPropertyName settings narrow) (Regex.readPropertyName settings wide) := by
  have skipped := continued.skip settings
  have shorter := skip_length_le settings narrow
  rcases skipped.head '\x7B' (by decide) with
    ⟨narrowRest, wideRest, narrowEq, wideEq, rest⟩ | ⟨narrowNe, wideNe⟩
  · rw [readPropertyName_braces settings narrowEq, readPropertyName_braces settings wideEq]
    have inside := skip_length_le settings narrowRest
    rw [narrowEq, List.length_cons] at shorter
    have holds : HoldsOfEnds (· != '\x7D') := ⟨rfl, rfl, rfl⟩
    rcases (rest.skip settings).span_over settings holds with
      alongside | ⟨narrowOpen, wideOpen⟩
    · exact (alongside.braced some).mono (by omega)
    · rw [braced_of_nil some narrowOpen, braced_of_nil some wideOpen]
      exact follows_none
  generalize narrowEq : settings.skip narrow = narrowText at *
  generalize wideEq : settings.skip wide = wideText at *
  cases skipped with
  | taken =>
      rw [readPropertyName_nil settings narrowEq, readPropertyName_nil settings wideEq]
      exact follows_none
  | atEnd =>
      rw [readPropertyName_nil settings narrowEq,
        readPropertyName_cons settings wideEq (by decide)]
      refine .strays fun reading read => ?_
      obtain rfl := Option.some.inj read
      rfl
  | @cons character narrowRest wideRest rest =>
      have unbraced : character ≠ '\x7B' := fun brace => narrowNe narrowRest (by rw [brace])
      rw [readPropertyName_cons settings narrowEq unbraced,
        readPropertyName_cons settings wideEq unbraced]
      split
      · exact follows_none
      · exact .both _ rest (Nat.le_of_succ_le shorter)

/-- An escape that goes past the end: it takes the parenthesis, or it leaves a brace alone. -/
def EscapesPast (settings : Settings) (reading : Escape × Text) : Prop :=
  reading.2 = ['$'] ∨ reading.1 = .edge (.wordEdge settings.ascii) ∧ AtBrace settings reading.2

section Tables

variable [PropertyTable]

theorem Continued.readEscape (settings : Settings) (continued : Continued narrow wide) :
    Follows (narrow.length - 1) (EscapesPast settings) (Regex.readEscape settings narrow)
      (Regex.readEscape settings wide) := by
  cases continued with
  | taken => exact follows_none
  | atEnd =>
      refine .strays fun reading read => ?_
      obtain rfl := Option.some.inj read
      exact .inl rfl
  | @cons character narrow wide continued =>
      rw [List.length_cons, Nat.add_sub_cancel]
      by_cases opens : character ∈ openEscapes
      · have hex (count : Nat) : Follows narrow.length (EscapesPast settings)
            ((Regex.readHex settings count narrow).bind fun reading =>
              some (Escape.letter reading.1, reading.2))
            ((Regex.readHex settings count wide).bind fun reading =>
              some (Escape.letter reading.1, reading.2)) :=
          (@Continued.readHex _ _ settings (fun _ => False) continued count).bind
            (fun _ _ _ rest fewer => .both _ rest fewer) fun _ => False.elim
        have property (negated : Bool) : Follows narrow.length (EscapesPast settings)
            (readProperty settings negated narrow) (readProperty settings negated wide) := by
          rw [readProperty_eq, readProperty_eq]
          refine (continued.readPropertyName settings).bind (fun name _ _ rest fewer => ?_)
            fun reading past _ read => ?_
          · cases settings.property? negated name with
            | none => exact follows_none
            | some escape => exact .both escape rest fewer
          · obtain ⟨_, _, rfl⟩ := Option.map_eq_some_iff.1 read
            exact .inl past
        simp only [openEscapes, List.mem_cons, List.not_mem_nil, or_false] at opens
        rcases opens with rfl | rfl | rfl | rfl | rfl | rfl
        · exact hex 2
        · exact hex 4
        · exact hex 8
        · refine (continued.readBoundaryName settings).bind
            (fun _ _ _ rest fewer => .both _ rest fewer) fun reading strayed _ read => ?_
          obtain ⟨edge, atBrace⟩ := strayed
          obtain rfl := Option.some.inj read
          exact .inr ⟨congrArg Escape.edge edge, atBrace⟩
        · exact property false
        · exact property true
      · rw [readEscape_of_alone settings opens, readEscape_of_alone settings opens]
        cases settings.escape? character with
        | none => exact follows_none
        | some escape => exact .both escape continued (Nat.le_refl _)

end Tables

end Escapes

section Items

/-- An item in brackets that goes past the end, or as far as the end: no bracket closes there. -/
def RangesPast (reading : CharSet × Text) : Prop :=
  reading.2 = ['$'] ∨ reading.2 = plainEnd

theorem follows_itemMembers (settings : Settings) (item : Escape)
    (continued : Continued narrow wide) (shorter : narrow.length ≤ limit) :
    Follows limit RangesPast (itemMembers settings item narrow)
      (itemMembers settings item wide) := by
  unfold itemMembers
  cases item.characters? settings with
  | none => exact follows_none
  | some members => exact .both members continued shorter

theorem follows_rangeMembers (settings : Settings) (item last : Escape)
    (continued : Continued narrow wide) (shorter : narrow.length ≤ limit) :
    Follows limit RangesPast (rangeMembers settings item (last, narrow))
      (rangeMembers settings item (last, wide)) := by
  cases item with
  | letter first =>
      cases last with
      | letter last =>
          by_cases ordered : (first ≤ last && settings.allows last) = true
          · simp only [rangeMembers, if_pos ordered]
            exact .both _ continued shorter
          · simp only [rangeMembers, if_neg ordered]
            exact follows_none
      | _ => exact follows_none
  | _ => exact follows_none

variable [PropertyTable]

theorem Continued.readItem (settings : Settings) (continued : Continued narrow wide) :
    Follows (narrow.length - 1) (EscapesPast settings) (Regex.readItem settings narrow)
      (Regex.readItem settings wide) := by
  cases continued with
  | taken => exact follows_none
  | atEnd =>
      refine .strays fun reading read => ?_
      obtain rfl := Option.some.inj read
      exact .inl rfl
  | @cons character narrow wide continued =>
      by_cases escapes : character = '\\'
      · subst escapes
        exact (continued.readEscape settings).mono (Nat.sub_le_sub_right (Nat.le_succ _) 1)
      · rw [readItem_of_ne settings escapes, readItem_of_ne settings escapes]
        exact .both _ continued (Nat.le_refl _)

theorem readBehind_edge (settings : Settings) (boundary : Boundary) (rest : Text) :
    readBehind settings (.edge boundary) rest = none := by
  unfold readBehind
  split
  next => rfl
  next behind =>
    unfold readLast
    split
    next => rfl
    next => rfl
    next => cases readItem settings _ <;> rfl
  next => rfl

theorem Continued.readLast (settings : Settings) (item : Escape) {narrowWhole wideWhole : Text}
    (continued : Continued narrow wide) (whole : Continued narrowWhole wideWhole)
    (shorter : narrow.length ≤ limit) (wholeShorter : narrowWhole.length ≤ limit) :
    Follows limit RangesPast (Regex.readLast settings item narrowWhole narrow)
      (Regex.readLast settings item wideWhole wide) := by
  have single := follows_itemMembers settings item whole wholeShorter
  rcases continued.head ']' (by decide) with ⟨_, _, rfl, rfl, _⟩ | ⟨narrowOpen, wideOpen⟩
  · exact single
  rcases continued.head '-' (by decide) with ⟨_, _, rfl, rfl, _⟩ | ⟨narrowSingle, wideSingle⟩
  · exact single
  rw [readLast_of_ne settings item narrowWhole narrowOpen narrowSingle,
    readLast_of_ne settings item wideWhole wideOpen wideSingle]
  refine (continued.readItem settings).bind (fun last narrow wide rest fewer => ?_)
    fun reading strayed range ranges => ?_
  · exact follows_rangeMembers settings item last rest (by omega)
  · rcases strayed with past | ⟨edge, _⟩
    · exact .inl ((rest_of_rangeMembers ranges).trans past)
    · obtain ⟨last, rest⟩ := reading
      obtain rfl : last = .edge (.wordEdge settings.ascii) := edge
      cases item <;> cases ranges

theorem Continued.readBehind (settings : Settings) (item : Escape)
    (continued : Continued narrow wide) :
    Follows narrow.length RangesPast (Regex.readBehind settings item narrow)
      (Regex.readBehind settings item wide) := by
  rcases continued.head '-' (by decide) with
    ⟨narrowRest, _, rfl, rfl, rest⟩ | ⟨narrowSingle, wideSingle⟩
  · exact (rest.skip settings).readLast settings item continued
      (Nat.le_succ_of_le (skip_length_le settings narrowRest)) (Nat.le_refl _)
  cases continued with
  | taken => exact follows_none
  | atEnd =>
      refine .strays fun reading read => ?_
      have single : itemMembers settings item plainEnd = some reading := read
      exact .inr (rest_of_itemMembers single)
  | cons character continued =>
      rw [readBehind_of_ne settings item (List.cons_ne_nil _ _) narrowSingle,
        readBehind_of_ne settings item (List.cons_ne_nil _ _) wideSingle]
      exact follows_itemMembers settings item (.cons character continued) (Nat.le_refl _)

theorem Continued.readRange (settings : Settings) (continued : Continued narrow wide) :
    Follows (narrow.length - 1) RangesPast (Regex.readRange settings narrow)
      (Regex.readRange settings wide) := by
  rw [readRange_eq, readRange_eq]
  refine (continued.readItem settings).bind (fun item narrow wide rest fewer => ?_)
    fun reading strayed members single => ?_
  · have skipped := skip_length_le settings narrow
    exact ((rest.skip settings).readBehind settings item).mono (Nat.le_trans skipped fewer)
  · obtain ⟨item, rest⟩ := reading
    dsimp only at single
    rcases strayed with past | ⟨edge, _⟩
    · obtain rfl : rest = ['$'] := past
      rw [skip_past] at single
      have alone : itemMembers settings item ['$'] = some members := single
      exact .inl (rest_of_itemMembers alone)
    · obtain rfl : item = .edge (.wordEdge settings.ascii) := edge
      rw [readBehind_edge] at single
      cases single

end Items

end RecordSearch.Regex
