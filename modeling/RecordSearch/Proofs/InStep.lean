import Mathlib.Data.List.Basic
import Mathlib.Data.Option.Basic
import RecordSearch.Pattern.Reader

/-!
# Reading two expressions in step

Two written forms that differ only in a star behind the last part are read alike up to there: every
function of the reader gives the same result on both and stops at the same place, unless it runs
over the end of the common part.  That happens only to an escape or the name of a property and to an
item in brackets, which take the next character whatever it is, and to a comment, which takes both
ends whole.
-/

namespace RecordSearch.Regex

variable {α β : Type} {settings : Settings} {character : Char} {narrow wide : Text}

/-- What stands behind the body of a whole expression. -/
def plainEnd : Text := [')', '$']

/-- What stands behind a body whose last part is repeated. -/
def starEnd : Text := '*' :: plainEnd

/-- The texts have the same characters up to the two ends, or are the same altogether. -/
inductive InStep : Text → Text → Prop
  | same (text : Text) : InStep text text
  | atEnd : InStep plainEnd starEnd
  | cons (character : Char) {narrow wide : Text} :
      InStep narrow wide → InStep (character :: narrow) (character :: wide)

/-- Both readings gave the same and stopped at the same place. -/
structure Abreast (narrow wide : α × Text) : Prop where
  same : narrow.1 = wide.1
  inStep : InStep narrow.2 wide.2

/-- If both readings succeed, they are abreast. -/
def Paced (narrow wide : Option (α × Text)) : Prop :=
  ∀ first second, narrow = some first → wide = some second → Abreast first second

/-- If both readings succeed, they are abreast, or both took the first character of their ends. -/
def PacedOrApart (narrow wide : Option (α × Text)) : Prop :=
  ∀ first second, narrow = some first → wide = some second →
    Abreast first second ∨ first.2 = ['$'] ∧ second.2 = plainEnd

section Paced

variable {one other : Option (α × Text)} {result : α}

theorem inStep_append (body : Text) : InStep (body ++ plainEnd) (body ++ starEnd) := by
  induction body with
  | nil => exact .atEnd
  | cons character body induction => exact .cons character induction

/-- Both texts begin with a mark that is not in the ends, or none of them does. -/
theorem InStep.head (inStep : InStep narrow wide) (mark : Char) (apart : mark ≠ ')' ∧ mark ≠ '*') :
    (∃ narrowRest wideRest, narrow = mark :: narrowRest ∧ wide = mark :: wideRest ∧
      InStep narrowRest wideRest) ∨
    ((∀ rest, narrow ≠ mark :: rest) ∧ ∀ rest, wide ≠ mark :: rest) := by
  have other {first : Char} {rest : Text} (differs : first ≠ mark) (text : Text) :
      first :: rest ≠ mark :: text := fun equal => differs (List.cons.inj equal).1
  cases inStep with
  | same =>
      by_cases marked : ∃ rest, narrow = mark :: rest
      · obtain ⟨rest, rfl⟩ := marked
        exact .inl ⟨rest, rest, rfl, rfl, .same rest⟩
      · exact .inr ⟨not_exists.1 marked, not_exists.1 marked⟩
  | atEnd => exact .inr ⟨other apart.1.symm, other apart.2.symm⟩
  | cons character inStep =>
      by_cases marked : character = mark
      · subst marked
        exact .inl ⟨_, _, rfl, rfl, inStep⟩
      · exact .inr ⟨other marked, other marked⟩

theorem InStep.length_le (inStep : InStep narrow wide) : narrow.length ≤ wide.length := by
  induction inStep with
  | same => exact Nat.le_refl _
  | atEnd => decide
  | cons _ _ induction => exact Nat.succ_le_succ induction

theorem abreast_same (reading : α × Text) : Abreast reading reading :=
  ⟨rfl, .same _⟩

theorem paced_same (reading : Option (α × Text)) : Paced reading reading := by
  intro first second one other
  obtain rfl := Option.some.inj (one.symm.trans other)
  exact abreast_same first

theorem paced_some_iff {first second : α × Text} :
    Paced (some first) (some second) ↔ Abreast first second := by
  simp [Paced]

theorem paced_some (inStep : InStep narrow wide) :
    Paced (some (result, narrow)) (some (result, wide)) :=
  paced_some_iff.2 ⟨rfl, inStep⟩

theorem paced_none_left : Paced none other :=
  fun _ _ impossible _ => nomatch impossible

theorem paced_none_right : Paced one none :=
  fun _ _ _ impossible => nomatch impossible

theorem Paced.bind {next : α × Text → Option (β × Text)} (paced : Paced one other)
    (further : ∀ result narrow wide, InStep narrow wide →
      Paced (next (result, narrow)) (next (result, wide))) :
    Paced (one.bind next) (other.bind next) := by
  cases one with
  | none => exact paced_none_left
  | some first =>
      cases other with
      | none => exact paced_none_right
      | some second =>
          obtain ⟨result, narrow⟩ := first
          obtain ⟨_, wide⟩ := second
          obtain ⟨rfl, inStep⟩ := paced _ _ rfl rfl
          exact further _ _ _ inStep

theorem Paced.guard (paced : Paced one other) (condition : Prop) [Decidable condition] :
    Paced (do guard condition; one) (do guard condition; other) := by
  by_cases holds : condition
  · simpa [holds] using paced
  · simp only [holds, guard_false]
    exact paced_none_left

theorem Paced.orApart (paced : Paced one other) : PacedOrApart one other :=
  fun _ _ narrow wide => .inl (paced _ _ narrow wide)

theorem pacedOrApart_of_apart {first second : α} :
    PacedOrApart (some (first, ['$'])) (some (second, plainEnd)) := by
  intro _ _ narrow wide
  obtain rfl := Option.some.inj narrow
  obtain rfl := Option.some.inj wide
  exact .inr ⟨rfl, rfl⟩

/-- What is made of a result makes no difference to the place where it is read. -/
theorem PacedOrApart.make {make : α → Option β} (paced : PacedOrApart one other) :
    PacedOrApart (one.bind fun reading => (make reading.1).map fun made => (made, reading.2))
      (other.bind fun reading => (make reading.1).map fun made => (made, reading.2)) := by
  intro first second narrow wide
  obtain ⟨⟨narrowResult, _⟩, oneRead, narrowMade⟩ := Option.bind_eq_some_iff.1 narrow
  obtain ⟨⟨wideResult, _⟩, otherRead, wideMade⟩ := Option.bind_eq_some_iff.1 wide
  obtain ⟨_, narrowSome, rfl⟩ := Option.map_eq_some_iff.1 narrowMade
  obtain ⟨_, wideSome, rfl⟩ := Option.map_eq_some_iff.1 wideMade
  rcases paced _ _ oneRead otherRead with ⟨same, rest⟩ | apart
  · obtain rfl : narrowResult = wideResult := same
    exact .inl ⟨Option.some.inj (narrowSome.symm.trans wideSome), rest⟩
  · exact .inr apart

end Paced

section Blanks

theorem InStep.dropWhile (inStep : InStep narrow wide) (test : Char → Bool)
    (closing : test ')' = false) (star : test '*' = false) :
    InStep (narrow.dropWhile test) (wide.dropWhile test) := by
  induction inStep with
  | same => exact .same _
  | atEnd =>
      rw [plainEnd, starEnd, List.dropWhile_cons_of_neg (by simp [closing]),
        List.dropWhile_cons_of_neg (by simp [star])]
      exact .atEnd
  | cons character inStep induction =>
      cases holds : test character with
      | true => rwa [List.dropWhile_cons_of_pos holds, List.dropWhile_cons_of_pos holds]
      | false =>
          rw [List.dropWhile_cons_of_neg (by simp [holds]),
            List.dropWhile_cons_of_neg (by simp [holds])]
          exact .cons character inStep

/-- A comment that does not end before the ends takes both of them. -/
theorem InStep.skipComment (inStep : InStep narrow wide) :
    InStep (Regex.skipComment narrow) (Regex.skipComment wide) := by
  unfold Regex.skipComment
  induction inStep with
  | same => exact .same _
  | atEnd => exact .same []
  | cons character inStep induction =>
      by_cases newline : character = '\n'
      · subst newline
        exact .cons '\n' inStep
      · simpa [newline] using induction

theorem skipComment_length_le (text : Text) : (skipComment text).length ≤ text.length :=
  (List.dropWhile_sublist _).length_le

theorem skipWithin_succ (bound : Nat) (text : Text) :
    (∃ rest, text.dropWhile Text.isBlank = '#' :: rest ∧
      skipWithin (bound + 1) text = skipWithin bound (skipComment rest)) ∨
    ((∀ rest, text.dropWhile Text.isBlank ≠ '#' :: rest) ∧
      skipWithin (bound + 1) text = text.dropWhile Text.isBlank) := by
  rw [skipWithin]
  split
  next rest equal => exact .inl ⟨rest, equal, rfl⟩
  next other => exact .inr ⟨other, rfl⟩

theorem skipWithin_length_le (bound : Nat) (text : Text) :
    (skipWithin bound text).length ≤ text.length := by
  induction bound generalizing text with
  | zero => exact Nat.le_refl _
  | succ bound induction =>
      have dropped : (text.dropWhile Text.isBlank).length ≤ text.length :=
        (List.dropWhile_sublist _).length_le
      rcases skipWithin_succ bound text with ⟨rest, equal, skipped⟩ | ⟨_, skipped⟩
      · rw [equal, List.length_cons] at dropped
        have comment := skipComment_length_le rest
        have further := induction (skipComment rest)
        rw [skipped]
        omega
      · rw [skipped]
        exact dropped

/-- Each comment has a character, so a bound above the length is as good as any other. -/
theorem skipWithin_eq {bound more : Nat} {text : Text} (enough : text.length < bound)
    (fewer : bound ≤ more) : skipWithin more text = skipWithin bound text := by
  induction bound generalizing more text with
  | zero => cases enough
  | succ bound induction =>
      obtain ⟨more, rfl⟩ := Nat.exists_eq_succ_of_ne_zero (by omega : more ≠ 0)
      have dropped : (text.dropWhile Text.isBlank).length ≤ text.length :=
        (List.dropWhile_sublist _).length_le
      rcases skipWithin_succ bound text with ⟨rest, equal, skipped⟩ | ⟨other, skipped⟩
      · rw [equal, List.length_cons] at dropped
        have comment := skipComment_length_le rest
        rw [skipped, ← induction (by omega) (Nat.le_of_succ_le_succ fewer)]
        simp only [skipWithin, equal]
      · rw [skipped, skipWithin]
        split
        next rest equal => exact absurd equal (other rest)
        next => rfl

theorem InStep.skipWithin (bound : Nat) (inStep : InStep narrow wide) :
    InStep (Regex.skipWithin bound narrow) (Regex.skipWithin bound wide) := by
  induction bound generalizing narrow wide with
  | zero => exact inStep
  | succ bound induction =>
      have dropped := inStep.dropWhile Text.isBlank (by decide) (by decide)
      rw [Regex.skipWithin, Regex.skipWithin]
      generalize narrow.dropWhile Text.isBlank = narrow at dropped
      generalize wide.dropWhile Text.isBlank = wide at dropped
      cases dropped with
      | same => exact .same _
      | atEnd => exact .atEnd
      | cons character inStep =>
          by_cases comment : character = '#'
          · subst comment
            exact induction inStep.skipComment
          · split
            next equal => exact absurd (List.cons.inj equal).1 comment
            next =>
              split
              next equal => exact absurd (List.cons.inj equal).1 comment
              next => exact .cons character inStep

theorem InStep.skip (settings : Settings) (inStep : InStep narrow wide) :
    InStep (settings.skip narrow) (settings.skip wide) := by
  unfold Settings.skip
  split
  · rw [← skipWithin_eq (Nat.lt_succ_self narrow.length) (Nat.succ_le_succ inStep.length_le)]
    exact inStep.skipWithin _
  · exact inStep

theorem skip_length_le (settings : Settings) (text : Text) :
    (settings.skip text).length ≤ text.length := by
  unfold Settings.skip
  split
  · exact skipWithin_length_le _ _
  · exact Nat.le_refl _

theorem skip_nil (settings : Settings) : settings.skip [] = [] :=
  List.length_eq_zero_iff.1 (Nat.le_zero.1 (skip_length_le settings []))

theorem skip_past (settings : Settings) : settings.skip ['$'] = ['$'] := by
  unfold Settings.skip
  split <;> rfl

theorem skip_plainEnd (settings : Settings) : settings.skip plainEnd = plainEnd := by
  unfold Settings.skip
  split <;> rfl

end Blanks

section Spans

variable {test : Char → Bool} {bound more count : Nat} {text : Text}

theorem spanWithin_zero (settings : Settings) (test : Char → Bool) (text : Text) :
    settings.spanWithin test 0 text = ([], text) := by
  cases text <;> rfl

theorem spanWithin_eq (enough : text.length ≤ bound) (fewer : bound ≤ more) :
    settings.spanWithin test more text = settings.spanWithin test bound text := by
  induction bound generalizing more text with
  | zero =>
      obtain rfl := List.length_eq_zero_iff.1 (Nat.le_zero.1 enough)
      cases more <;> rfl
  | succ bound induction =>
      obtain ⟨more, rfl⟩ := Nat.exists_eq_succ_of_ne_zero (by omega : more ≠ 0)
      cases text with
      | nil => rfl
      | cons character text =>
          have skipped := skip_length_le settings text
          have shorter : (settings.skip text).length ≤ bound := by
            rw [List.length_cons] at enough
            omega
          simp only [Settings.spanWithin, induction shorter (Nat.le_of_succ_le_succ fewer)]

theorem InStep.spanWithin (settings : Settings) (inStep : InStep narrow wide) (bound : Nat)
    (closing : test ')' = false) (star : test '*' = false) :
    Abreast (settings.spanWithin test bound narrow) (settings.spanWithin test bound wide) := by
  induction bound generalizing narrow wide with
  | zero =>
      rw [spanWithin_zero, spanWithin_zero]
      exact ⟨rfl, inStep⟩
  | succ bound induction =>
      cases inStep with
      | same => exact abreast_same _
      | atEnd =>
          simp only [plainEnd, starEnd, Settings.spanWithin, closing, star]
          exact ⟨rfl, .atEnd⟩
      | cons character inStep =>
          simp only [Settings.spanWithin]
          cases test character with
          | true =>
              obtain ⟨same, rest⟩ := induction (inStep.skip settings)
              exact ⟨congrArg (List.cons character) same, rest⟩
          | false => exact ⟨rfl, .cons character inStep⟩

theorem InStep.span (settings : Settings) (inStep : InStep narrow wide) (test : Char → Bool)
    (closing : test ')' = false) (star : test '*' = false) :
    Abreast (settings.span test narrow) (settings.span test wide) := by
  unfold Settings.span
  rw [← spanWithin_eq (Nat.le_refl narrow.length) inStep.length_le]
  exact inStep.spanWithin settings _ closing star

structure HoldsOfEnds (test : Char → Bool) : Prop where
  closing : test ')' = true
  star : test '*' = true
  dollar : test '$' = true

theorem spanWithin_plainEnd (holds : HoldsOfEnds test) (enough : 2 ≤ bound) :
    (settings.spanWithin test bound plainEnd).2 = [] := by
  obtain ⟨bound, rfl⟩ := Nat.exists_eq_add_of_le' enough
  simp only [plainEnd, Settings.spanWithin, holds.closing, holds.dollar, skip_past, skip_nil,
    if_true]

theorem spanWithin_starEnd (holds : HoldsOfEnds test) (enough : 3 ≤ bound) :
    (settings.spanWithin test bound starEnd).2 = [] := by
  obtain ⟨bound, rfl⟩ := Nat.exists_eq_add_of_le' enough
  simp only [starEnd, Settings.spanWithin, holds.star, skip_plainEnd, if_true]
  exact spanWithin_plainEnd holds (Nat.le_add_left 2 bound)

/-- Characters for which a test holds are taken alike, or to the end if it holds of the ends. -/
theorem InStep.spanWithin_over (settings : Settings) (inStep : InStep narrow wide)
    (holds : HoldsOfEnds test) (enough : wide.length ≤ bound) :
    Abreast (settings.spanWithin test bound narrow) (settings.spanWithin test bound wide) ∨
      (settings.spanWithin test bound narrow).2 = [] ∧
        (settings.spanWithin test bound wide).2 = [] := by
  induction bound generalizing narrow wide with
  | zero =>
      rw [spanWithin_zero, spanWithin_zero]
      exact .inl ⟨rfl, inStep⟩
  | succ bound induction =>
      cases inStep with
      | same => exact .inl (abreast_same _)
      | atEnd =>
          have more : 3 ≤ bound + 1 := enough
          exact .inr ⟨spanWithin_plainEnd holds (Nat.le_of_succ_le more),
            spanWithin_starEnd holds more⟩
      | @cons character narrow wide inStep =>
          simp only [Settings.spanWithin]
          cases test character with
          | true =>
              have skipped := skip_length_le settings wide
              have shorter : (settings.skip wide).length ≤ bound := by
                rw [List.length_cons] at enough
                omega
              exact (induction (inStep.skip settings) shorter).imp_left fun abreast =>
                ⟨congrArg (List.cons character) abreast.same, abreast.inStep⟩
          | false => exact .inl ⟨rfl, .cons character inStep⟩

theorem InStep.span_over (settings : Settings) (inStep : InStep narrow wide)
    (holds : HoldsOfEnds test) :
    Abreast (settings.span test narrow) (settings.span test wide) ∨
      (settings.span test narrow).2 = [] ∧ (settings.span test wide).2 = [] := by
  unfold Settings.span
  rw [← spanWithin_eq (Nat.le_refl narrow.length) inStep.length_le]
  exact inStep.spanWithin_over settings holds (Nat.le_refl _)

/-- A count of characters can run over the end, but takes the parenthesis then. -/
theorem InStep.takeSpaced (inStep : InStep narrow wide) {first second : Text × Text}
    (one : settings.takeSpaced count narrow = some first)
    (other : settings.takeSpaced count wide = some second) :
    Abreast first second ∨ ')' ∈ first.1 := by
  induction count generalizing narrow wide first second with
  | zero =>
      obtain rfl := Option.some.inj one
      obtain rfl := Option.some.inj other
      exact .inl ⟨rfl, inStep⟩
  | succ count induction =>
      cases inStep with
      | same => exact .inl (paced_same _ _ _ one other)
      | atEnd =>
          obtain ⟨_, _, rfl⟩ := Option.map_eq_some_iff.1 one
          exact .inr List.mem_cons_self
      | cons character inStep =>
          obtain ⟨_, oneRest, rfl⟩ := Option.map_eq_some_iff.1 one
          obtain ⟨_, otherRest, rfl⟩ := Option.map_eq_some_iff.1 other
          rcases induction (inStep.skip settings) oneRest otherRest with ⟨same, rest⟩ | strayed
          · exact .inl ⟨congrArg (List.cons character) same, rest⟩
          · exact .inr (List.mem_cons_of_mem character strayed)

end Spans

section Escapes

variable {count : Nat}

theorem mapM_hexDigit?_eq_none {digits : Text} (closing : ')' ∈ digits) :
    digits.mapM hexDigit? = none := by
  induction digits with
  | nil => cases closing
  | cons digit digits induction =>
      rw [List.mapM_cons]
      rcases List.mem_cons.1 closing with rfl | later
      · rfl
      · rw [induction later]
        cases hexDigit? digit <;> rfl

theorem hexChar?_eq_none {digits : Text} (closing : ')' ∈ digits) : hexChar? digits = none := by
  simp [hexChar?, mapM_hexDigit?_eq_none closing]

/-- A number of which an end is a part is none. -/
theorem InStep.readHexDigits (settings : Settings) (inStep : InStep narrow wide) (count : Nat) :
    Paced
      (do
        let (digits, rest) ← settings.takeSpaced count narrow
        let character ← hexChar? digits
        guard (count ≠ 2 || settings.allows character)
        return (character, rest))
      (do
        let (digits, rest) ← settings.takeSpaced count wide
        let character ← hexChar? digits
        guard (count ≠ 2 || settings.allows character)
        return (character, rest)) := by
  cases one : settings.takeSpaced count narrow with
  | none => exact paced_none_left
  | some first =>
      cases other : settings.takeSpaced count wide with
      | none => exact paced_none_right
      | some second =>
          simp only [Option.bind_eq_bind, Option.bind_some]
          rcases inStep.takeSpaced one other with ⟨same, rest⟩ | strayed
          · rw [same]
            cases hexChar? second.1 with
            | none => exact paced_none_left
            | some character => exact (paced_some rest).guard _
          · rw [hexChar?_eq_none strayed]
            exact paced_none_left

def braced (read : Text → Option α) : Text × Text → Option (α × Text)
  | (inside, '\x7D' :: rest) => (read inside).map fun result => (result, rest)
  | _ => none

theorem braced_of_ne (read : Text → Option α) (inside rest : Text) (unclosed : character ≠ '\x7D') :
    braced read (inside, character :: rest) = none := by
  simp [braced, unclosed]

theorem braced_of_nil (read : Text → Option α) {spanned : Text × Text} (unclosed : spanned.2 = []) :
    braced read spanned = none := by
  obtain ⟨inside, rest⟩ := spanned
  obtain rfl : rest = [] := unclosed
  rfl

theorem Abreast.braced (read : Text → Option α) {first second : Text × Text}
    (abreast : Abreast first second) :
    Paced (Regex.braced read first) (Regex.braced read second) := by
  obtain ⟨inside, narrow⟩ := first
  obtain ⟨_, wide⟩ := second
  obtain ⟨rfl, inStep⟩ := abreast
  cases inStep with
  | same => exact paced_same _
  | atEnd => exact paced_none_left
  | cons closing inStep =>
      by_cases closes : closing = '\x7D'
      · subst closes
        change Paced ((read inside).map fun result => (result, _))
          ((read inside).map fun result => (result, _))
        cases read inside with
        | none => exact paced_none_left
        | some result => exact paced_some inStep
      · rw [braced_of_ne read inside _ closes]
        exact paced_none_left

theorem readHex_braces (settings : Settings) (count : Nat) {text rest : Text}
    (skipped : settings.skip text = '\x7B' :: rest) :
    readHex settings count text = braced hexChar?
      (settings.span (fun character => (hexDigit? character).isSome) (settings.skip rest)) := by
  rw [readHex]
  split
  next other equal =>
    obtain rfl := (List.cons.inj (skipped.symm.trans equal)).2
    generalize settings.span _ (settings.skip rest) = spanned
    obtain ⟨digits, behind⟩ := spanned
    cases behind with
    | nil => rfl
    | cons character behind =>
        by_cases closing : character = '\x7D'
        · subst closing
          simp only [braced]
          cases hexChar? digits <;> rfl
        · simp [braced, closing]
  next unbraced => exact absurd skipped (unbraced rest)

theorem readHex_digits (settings : Settings) (count : Nat) {text : Text}
    (unbraced : ∀ rest, settings.skip text ≠ '\x7B' :: rest) :
    readHex settings count text = (do
      let (digits, rest) ← settings.takeSpaced count (settings.skip text)
      let character ← hexChar? digits
      guard (count ≠ 2 || settings.allows character)
      return (character, rest)) := by
  rw [readHex]
  split
  next rest skipped => exact absurd skipped (unbraced rest)
  next => rfl

theorem InStep.readHex (settings : Settings) (inStep : InStep narrow wide) (count : Nat) :
    Paced (Regex.readHex settings count narrow) (Regex.readHex settings count wide) := by
  have skipped := inStep.skip settings
  rcases skipped.head '\x7B' (by decide) with
    ⟨narrowRest, wideRest, narrowEq, wideEq, rest⟩ | ⟨narrowNe, wideNe⟩
  · rw [readHex_braces settings count narrowEq, readHex_braces settings count wideEq]
    have spanned := (rest.skip settings).span settings
      (fun character => (hexDigit? character).isSome) rfl rfl
    exact spanned.braced hexChar?
  · rw [readHex_digits settings count narrowNe, readHex_digits settings count wideNe]
    exact skipped.readHexDigits settings count

/-- What is read of a name behind its opening brace; without a name, the brace is left alone. -/
def boundaryIn (ascii : Bool) (whole : Text) : Text × Text → Option (Boundary × Text)
  | (_, []) => none
  | ([], _) => some (.wordEdge ascii, whole)
  | (name, rest) => braced (boundaryOfName ascii) (name, rest)

theorem readBoundaryName_braces (settings : Settings) (rest : Text) :
    readBoundaryName settings ('\x7B' :: rest) =
      boundaryIn settings.ascii ('\x7B' :: rest)
        (settings.span inBoundaryName (settings.skip rest)) := by
  unfold readBoundaryName
  split
  next other equal =>
    obtain rfl := (List.cons.inj equal).2
    generalize settings.span inBoundaryName (settings.skip rest) = spanned
    obtain ⟨name, behind⟩ := spanned
    cases behind with
    | nil => rfl
    | cons character behind =>
        cases name with
        | nil => rfl
        | cons first name =>
            by_cases closing : character = '\x7D'
            · subst closing
              rfl
            · simp [boundaryIn, braced, closing]
  next unbraced => exact absurd rfl (unbraced rest)

theorem readBoundaryName_of_ne (settings : Settings) {text : Text}
    (unbraced : ∀ rest, text ≠ '\x7B' :: rest) :
    readBoundaryName settings text = some (.wordEdge settings.ascii, text) := by
  unfold readBoundaryName
  split
  next rest => exact absurd rfl (unbraced rest)
  next => rfl

theorem Abreast.boundaryIn (ascii : Bool) {first second : Text × Text}
    (abreast : Abreast first second) (whole : InStep narrow wide) :
    Paced (Regex.boundaryIn ascii narrow first) (Regex.boundaryIn ascii wide second) := by
  have closed := abreast.braced (boundaryOfName ascii)
  obtain ⟨name, narrowRest⟩ := first
  obtain ⟨_, wideRest⟩ := second
  obtain ⟨rfl, rest⟩ := abreast
  cases name with
  | nil =>
      cases rest with
      | same =>
          cases narrowRest with
          | nil => exact paced_none_left
          | cons => exact paced_some whole
      | atEnd => exact paced_some whole
      | cons => exact paced_some whole
  | cons =>
      cases rest with
      | same =>
          cases narrowRest with
          | nil => exact paced_none_left
          | cons => exact paced_same _
      | atEnd => exact closed
      | cons => exact closed

theorem InStep.readBoundaryName (settings : Settings) (inStep : InStep narrow wide) :
    Paced (Regex.readBoundaryName settings narrow) (Regex.readBoundaryName settings wide) := by
  rcases inStep.head '\x7B' (by decide) with
    ⟨narrowRest, wideRest, rfl, rfl, rest⟩ | ⟨narrowNe, wideNe⟩
  · rw [readBoundaryName_braces, readBoundaryName_braces]
    have spanned := (rest.skip settings).span settings inBoundaryName (by decide) (by decide)
    exact spanned.boundaryIn _ (.cons _ rest)
  · rw [readBoundaryName_of_ne settings narrowNe, readBoundaryName_of_ne settings wideNe]
    exact paced_some inStep

theorem readPropertyName_braces (settings : Settings) {text rest : Text}
    (skipped : settings.skip text = '\x7B' :: rest) :
    readPropertyName settings text =
      braced some (settings.span (· != '\x7D') (settings.skip rest)) := by
  simp only [readPropertyName, skipped]
  generalize settings.span (· != '\x7D') (settings.skip rest) = spanned
  obtain ⟨name, behind⟩ := spanned
  cases behind with
  | nil => rfl
  | cons character behind =>
      by_cases closing : character = '\x7D'
      · subst closing
        rfl
      · simp [braced, closing]

theorem readPropertyName_cons (settings : Settings) {text rest : Text}
    (skipped : settings.skip text = character :: rest) (unbraced : character ≠ '\x7B') :
    readPropertyName settings text =
      if character = '\\' then none else some ([character], rest) := by
  rw [readPropertyName, skipped]
  by_cases backslash : character = '\\'
  · subst backslash
    rfl
  · simp [backslash]

/-- The name of a property takes the first character of an end if it is nothing but this one. -/
theorem InStep.readPropertyName (settings : Settings) (inStep : InStep narrow wide) :
    PacedOrApart (Regex.readPropertyName settings narrow)
      (Regex.readPropertyName settings wide) := by
  have skipped := inStep.skip settings
  rcases skipped.head '\x7B' (by decide) with
    ⟨narrowRest, wideRest, narrowEq, wideEq, rest⟩ | ⟨narrowNe, wideNe⟩
  · rw [readPropertyName_braces settings narrowEq, readPropertyName_braces settings wideEq]
    have holds : HoldsOfEnds (· != '\x7D') := ⟨rfl, rfl, rfl⟩
    rcases (rest.skip settings).span_over settings holds with abreast | ⟨narrowOpen, _⟩
    · exact (abreast.braced some).orApart
    · refine Paced.orApart ?_
      rw [braced_of_nil some narrowOpen]
      exact paced_none_left
  generalize narrowEq : settings.skip narrow = narrowText at *
  generalize wideEq : settings.skip wide = wideText at *
  cases skipped with
  | same =>
      have alike :
          Regex.readPropertyName settings narrow = Regex.readPropertyName settings wide := by
        rw [Regex.readPropertyName, Regex.readPropertyName, narrowEq, wideEq]
      rw [alike]
      exact (paced_same _).orApart
  | atEnd =>
      rw [readPropertyName_cons settings narrowEq (by decide),
        readPropertyName_cons settings wideEq (by decide)]
      exact pacedOrApart_of_apart
  | @cons character narrowRest wideRest rest =>
      have unbraced : character ≠ '\x7B' := fun brace => narrowNe narrowRest (by rw [brace])
      rw [readPropertyName_cons settings narrowEq unbraced,
        readPropertyName_cons settings wideEq unbraced]
      split
      · exact paced_none_left.orApart
      · exact (paced_some rest).orApart

/-- The characters behind a backslash that have more to read behind them. -/
def openEscapes : Text := ['x', 'u', 'U', 'b', 'p', 'P']

section Tables

variable [PropertyTable]

theorem readEscape_of_alone (settings : Settings) (alone : character ∉ openEscapes) (rest : Text) :
    readEscape settings (character :: rest) =
      (settings.escape? character).map fun escape => (escape, rest) := by
  simp only [openEscapes, List.mem_cons, List.not_mem_nil, or_false, not_or] at alone
  obtain ⟨notX, notSmallU, notU, notB, notSmallP, notP⟩ := alone
  simp only [readEscape]

theorem readProperty_eq (settings : Settings) (negated : Bool) (text : Text) :
    readProperty settings negated text =
      (readPropertyName settings text).bind fun reading =>
        (settings.property? negated reading.1).map fun escape => (escape, reading.2) := by
  unfold readProperty
  cases readPropertyName settings text with
  | none => rfl
  | some reading =>
      simp only [Option.bind_eq_bind, Option.bind_some]
      cases settings.property? negated reading.1 <;> rfl

/-- An escape, or the name of a property, takes the first character of the ends if it comes to them,
but no escape reads further. -/
theorem InStep.readEscape (settings : Settings) (inStep : InStep narrow wide) :
    PacedOrApart (Regex.readEscape settings narrow) (Regex.readEscape settings wide) := by
  have property {narrow wide : Text} (inStep : InStep narrow wide) (negated : Bool) :
      PacedOrApart (readProperty settings negated narrow) (readProperty settings negated wide) := by
    rw [readProperty_eq, readProperty_eq]
    exact (inStep.readPropertyName settings).make
  have number {narrow wide : Text} (inStep : InStep narrow wide) (count : Nat) :
      Paced ((Regex.readHex settings count narrow).bind fun reading =>
          some (Escape.letter reading.1, reading.2))
        ((Regex.readHex settings count wide).bind fun reading =>
          some (Escape.letter reading.1, reading.2)) :=
    (inStep.readHex settings count).bind fun _ _ _ rest => paced_some rest
  have boundary {narrow wide : Text} (inStep : InStep narrow wide) :
      Paced ((Regex.readBoundaryName settings narrow).bind fun reading =>
          some (Escape.edge reading.1, reading.2))
        ((Regex.readBoundaryName settings wide).bind fun reading =>
          some (Escape.edge reading.1, reading.2)) :=
    (inStep.readBoundaryName settings).bind fun _ _ _ rest => paced_some rest
  cases inStep with
  | same => exact (paced_same _).orApart
  | atEnd => exact pacedOrApart_of_apart
  | @cons character narrow wide inStep =>
      by_cases opens : character ∈ openEscapes
      · simp only [openEscapes, List.mem_cons, List.not_mem_nil, or_false] at opens
        rcases opens with rfl | rfl | rfl | rfl | rfl | rfl
        · exact (number inStep 2).orApart
        · exact (number inStep 4).orApart
        · exact (number inStep 8).orApart
        · exact (boundary inStep).orApart
        · exact property inStep false
        · exact property inStep true
      · rw [readEscape_of_alone settings opens, readEscape_of_alone settings opens]
        refine Paced.orApart ?_
        cases settings.escape? character with
        | none => exact paced_none_left
        | some escape => exact paced_some inStep

end Tables

end Escapes

end RecordSearch.Regex
