import RecordSearch.Proofs.GlobPieces

/-!
# Plain texts and their patterns

A plain text is compared by lowercase, and the regular expression of the same text by simple case
folding.  The two accept the same texts except where the two ways to ignore case differ: at a place
where one of the texts has a capital with a dot and the other one has not, where characters of the
same lowercase have different foldings, or characters of the same folding different lowercases.
-/

namespace RecordSearch

namespace Text

variable {text other before plain : Text} {character target : Char} {shifts : List Shift}

/-- Where two texts have characters of the same lowercase, these have the same folding, and where
one has a capital with a dot, so has the other. -/
def FoldsAsLowered (text other : Text) : Prop :=
  ∀ pair ∈ text.zip other,
    (pair.1 = 'İ' ↔ pair.2 = 'İ') ∧
      (lowerChar pair.1 = lowerChar pair.2 → fold pair.1 = fold pair.2)

/-- Where two texts have characters of the same folding, these have the same lowercase. -/
def LowersAsFolded (text other : Text) : Prop :=
  ∀ pair ∈ text.zip other, fold pair.1 = fold pair.2 → lowerChar pair.1 = lowerChar pair.2

instance : DecidableRel FoldsAsLowered := fun text other =>
  inferInstanceAs (Decidable (∀ pair ∈ text.zip other, _))

instance : DecidableRel LowersAsFolded := fun text other =>
  inferInstanceAs (Decidable (∀ pair ∈ text.zip other, _))

section Characters

/-- What no shift of a table leads to comes from nothing but itself. -/
theorem eq_of_shiftChar_eq (sound : ∀ shift ∈ shifts, shift.Sound)
    (apart : ∀ shift ∈ shifts, shift.last + shift.offset < (target.toNat : Int) ∨
      (target.toNat : Int) < shift.first + shift.offset)
    (same : shiftChar shifts character = target) : character = target := by
  cases found : shifts.find? (·.moves character.toNat) with
  | none => rwa [shiftChar_eq_self found] at same
  | some shift =>
      have member := List.mem_of_find?_eq_some found
      have moves := List.find?_some found
      have bounds := Shift.bounds_of_moves moves
      have reached := (sound shift member).target_eq moves
      rw [shiftChar_eq_target found] at same
      have code := (sound shift member).toNat_target moves
      rw [same] at code
      have missed := apart shift member
      omega

/-- Only the capital with a dot is folded to it. -/
theorem fold_eq_dotted_iff : fold character = 'İ' ↔ character = 'İ' := by
  constructor
  · exact eq_of_shiftChar_eq sound_foldingShifts (by decide +kernel)
  · rintro rfl
    decide +kernel

theorem dotted_iff_of_fold_eq {one two : Char} (same : fold one = fold two) :
    one = 'İ' ↔ two = 'İ' := by
  rw [← fold_eq_dotted_iff, same, fold_eq_dotted_iff]

theorem eq_of_lowerChar_eq_finalSigma (same : lowerChar character = ['ς']) : character = 'ς' := by
  rw [lowerChar] at same
  split at same
  case isTrue => cases same
  case isFalse =>
    exact eq_of_shiftChar_eq sound_lowercaseShifts (by decide +kernel) (List.singleton_inj.1 same)

theorem fold_sigmas : fold 'ς' = fold 'Σ' := by
  decide +kernel

theorem length_lowerChar (character : Char) :
    (lowerChar character).length = if character = 'İ' then 2 else 1 := by
  unfold lowerChar
  split <;> rfl

theorem length_lowerChar_eq {one two : Char} (dotted : one = 'İ' ↔ two = 'İ') :
    (lowerChar one).length = (lowerChar two).length := by
  simp only [length_lowerChar, dotted]

theorem lowerBetween_eq_or (before : Text) (character : Char) (behind : Text) :
    lowerBetween before character behind = lowerChar character ∨
      character = 'Σ' ∧ lowerBetween before character behind = ['ς'] := by
  unfold lowerBetween
  split
  case isTrue capital =>
    split
    · exact .inr ⟨capital, rfl⟩
    · rw [capital, lowerChar_sigma]
      exact .inl rfl
  case isFalse => exact .inl rfl

end Characters

section Texts

theorem sameFolding_cons_cons_iff {one two : Char} :
    SameFolding (one :: text) (two :: other) ↔ fold one = fold two ∧ SameFolding text other := by
  simp only [SameFolding, List.map_cons, List.cons.injEq]

theorem foldsAsLowered_cons_cons_iff {one two : Char} :
    FoldsAsLowered (one :: text) (two :: other) ↔
      ((one = 'İ' ↔ two = 'İ') ∧ (lowerChar one = lowerChar two → fold one = fold two)) ∧
        FoldsAsLowered text other := by
  simp only [FoldsAsLowered, List.zip_cons_cons, List.forall_mem_cons]

theorem lowersAsFolded_cons_cons_iff {one two : Char} :
    LowersAsFolded (one :: text) (two :: other) ↔
      (fold one = fold two → lowerChar one = lowerChar two) ∧ LowersAsFolded text other := by
  simp only [LowersAsFolded, List.zip_cons_cons, List.forall_mem_cons]

theorem lowerEach_cons (character : Char) (text : Text) :
    lowerEach (character :: text) = lowerChar character ++ lowerEach text :=
  rfl

theorem SameFolding.foldsAsLowered (same : SameFolding text other) : FoldsAsLowered text other := by
  induction text generalizing other with
  | nil => exact nofun
  | cons one text induction =>
      cases other with
      | nil => cases same
      | cons two other =>
          obtain ⟨here, further⟩ := sameFolding_cons_cons_iff.1 same
          exact foldsAsLowered_cons_cons_iff.2
            ⟨⟨dotted_iff_of_fold_eq here, fun _ => here⟩, induction further⟩

/-- A text whose characters have the lowercase of a text as their lowercase is aligned with it as
long as capitals with a dot are. -/
theorem sameFolding_of_lowerEach_eq (lowered : lowerEach text = lowerAfter before plain)
    (agree : FoldsAsLowered text plain) : SameFolding text plain := by
  induction text generalizing before plain with
  | nil =>
      cases plain with
      | nil => rfl
      | cons two plain =>
          rw [lowerAfter_cons] at lowered
          have empty := (List.append_eq_nil_iff.1 lowered.symm).1
          have length := length_lowerBetween before two plain
          rw [empty, length_lowerChar] at length
          split at length <;> cases length
  | cons one text induction =>
      cases plain with
      | nil => exact absurd (lowerEach_eq_nil_iff.1 lowered) nofun
      | cons two plain =>
          obtain ⟨⟨dotted, folds⟩, further⟩ := foldsAsLowered_cons_cons_iff.1 agree
          have aligned : (lowerChar one).length = (lowerBetween before two plain).length :=
            (length_lowerChar_eq dotted).trans (length_lowerBetween before two plain).symm
          rw [lowerEach_cons, lowerAfter_cons] at lowered
          obtain ⟨here, behind⟩ := List.append_inj lowered aligned
          refine sameFolding_cons_cons_iff.2 ⟨?_, induction behind further⟩
          rcases lowerBetween_eq_or before two plain with usual | ⟨rfl, final⟩
          · exact folds (here.trans usual)
          · rw [eq_of_lowerChar_eq_finalSigma (here.trans final)]
            exact fold_sigmas

/-- A text of the same lowercase has the same folding if the two ways agree on it. -/
theorem sameFolding_iff_foldsAsLowered (lowered : lowerEach text = lower plain) :
    SameFolding text plain ↔ FoldsAsLowered text plain :=
  ⟨SameFolding.foldsAsLowered, sameFolding_of_lowerEach_eq lowered⟩

theorem length_lowerAfter (before text : Text) :
    (lowerAfter before text).length = (lowerEach text).length := by
  induction text generalizing before with
  | nil => rfl
  | cons character text induction =>
      rw [lowerAfter_cons, lowerEach_cons, List.length_append, List.length_append, induction,
        length_lowerBetween]

theorem SameFolding.length_lowerEach (same : SameFolding text other) :
    (lowerEach text).length = (lowerEach other).length := by
  induction text generalizing other with
  | nil =>
      cases other with
      | nil => rfl
      | cons two other => cases same
  | cons one text induction =>
      cases other with
      | nil => cases same
      | cons two other =>
          obtain ⟨here, further⟩ := sameFolding_cons_cons_iff.1 same
          rw [lowerEach_cons, lowerEach_cons, List.length_append, List.length_append,
            induction further, length_lowerChar_eq (dotted_iff_of_fold_eq here)]

/-- A part of the folding of a text is the whole of what has the lowercase of that text. -/
theorem eq_nil_of_sameFolding {front part back : Text} (same : SameFolding part plain)
    (lowered : lowerEach (front ++ part ++ back) = lower plain) : front = [] ∧ back = [] := by
  have lengths := congrArg List.length lowered
  rw [lower, length_lowerAfter, ← same.length_lowerEach] at lengths
  simp only [lowerEach, List.flatMap_append, List.length_append] at lengths
  constructor
  · rw [← lowerEach_eq_nil_iff, ← List.length_eq_zero_iff, lowerEach]
    omega
  · rw [← lowerEach_eq_nil_iff, ← List.length_eq_zero_iff, lowerEach]
    omega

/-- Texts of the same folding have the same lowercases if the two ways agree on them. -/
theorem lowerEach_eq_iff_lowersAsFolded (same : SameFolding text other) :
    lowerEach text = lowerEach other ↔ LowersAsFolded text other := by
  induction text generalizing other with
  | nil =>
      cases other with
      | nil => exact iff_of_true rfl nofun
      | cons two other => cases same
  | cons one text induction =>
      cases other with
      | nil => cases same
      | cons two other =>
          obtain ⟨here, further⟩ := sameFolding_cons_cons_iff.1 same
          have aligned := length_lowerChar_eq (dotted_iff_of_fold_eq here)
          rw [lowerEach_cons, lowerEach_cons, List.append_eq_append_iff_of_size_eq_left aligned,
            induction further, lowersAsFolded_cons_cons_iff]
          simp only [here, forall_const]

end Texts

end Text

namespace Regex

variable {text plain : Text}

theorem getLast?_escape (text : Text) : (escape text).getLast? = text.getLast? := by
  have last (character : Char) (pre behind : Text) :
      (pre ++ character :: escape behind).getLast? =
        some ((escape behind).getLast?.getD character) := by
    rw [List.getLast?_append, List.getLast?_cons, Option.some_or]
  induction text with
  | nil => rfl
  | cons character text induction =>
      rw [escape_cons, List.getLast?_cons, ← induction]
      split
      · exact last character ['\\'] text
      · exact last character [] text

/-- The whole form of an escaped text without a star matches the texts of its folding. -/
theorem matchesIn_whole_literal_iff (unstarred : '*' ∉ plain) :
    (whole (alternation (literal plain) [])).matchesIn text = true ↔
      Text.SameFolding text plain := by
  have chain : Spans text.toArray (literal plain) 0 text.length ↔
      Chain text.toArray (pieces (Text.splitAt '*' plain)) 0 text.length := by
    rw [splitAt_of_not_mem unstarred]
    simp [pieces, Chain]
  rw [matchesIn_whole_iff, spans_alternation_iff, ← describes_iff_sameFolding unstarred]
  simp only [List.mem_singleton, exists_eq_left, chain]
  exact chain_pieces_iff (Nat.zero_le _)

end Regex

namespace Matcher

variable {literal text : Text} {matcher : Matcher}

section Forms

/-- The literal for the regular expression of a plain text. -/
def escapedForm (literal : Text) : Text :=
  regexMark ++ Regex.escape literal

theorem trimEnd_escape (trimmed : Text.trim literal = literal) :
    Text.trimEnd (Regex.escape literal) = Regex.escape literal := by
  rw [Text.trimEnd_eq_rdropWhile, List.rdropWhile_eq_self_iff]
  intro nonempty
  have last := Regex.getLast?_escape literal
  have literalNonempty : literal ≠ [] := by
    rintro rfl
    exact nonempty rfl
  rw [List.getLast?_eq_some_getLast nonempty, List.getLast?_eq_some_getLast literalNonempty,
    Option.some.injEq] at last
  rw [last, ((Text.trim_eq_self_iff.1 trimmed) literalNonempty).2]
  exact Bool.false_ne_true

theorem IsPlain.compile_escapedForm [PropertyTable] (plain : IsPlain literal) :
    compile .string (escapedForm literal) =
      (Regex.whole (Regex.alternation (Regex.literal literal) [])).fit.map .pattern := by
  rw [escapedForm, compile_expression (trimEnd_escape plain.trimmed), Regex.readWhole_escape]

theorem IsPlain.accepts_escapedForm_iff [PropertyTable] (plain : IsPlain literal)
    (compiled : compile .string (escapedForm literal) = some matcher) :
    matcher.accepts (.string text) = true ↔ Text.SameFolding text literal := by
  rw [plain.compile_escapedForm] at compiled
  obtain ⟨expression, fits, rfl⟩ := Option.map_eq_some_iff.1 compiled
  obtain rfl := Regex.eq_of_fit fits
  exact Regex.matchesIn_whole_literal_iff plain.unstarred

/-- The globs for what begins or ends with a plain text. -/
def starredForms (literal : Text) : List Text :=
  [literal ++ wildcard, wildcard ++ literal]

theorem IsPlain.isGlob (plain : IsPlain literal) (nonempty : literal ≠ []) {glob : Text}
    (form : glob ∈ starredForms literal) : IsGlob glob := by
  have visible := (Text.trim_eq_self_iff.1 plain.trimmed) nonempty
  obtain ⟨first, rest, rfl⟩ := List.exists_cons_of_ne_nil nonempty
  simp only [starredForms, List.mem_cons, List.not_mem_nil, or_false] at form
  rcases form with rfl | rfl
  · exact {
      trimmed := Text.trim_concat plain.trimmed isBlank_star
      unnegated := plain.unnegated
      unmarked := plain.unmarked.concat_star
      unquoted := quoted?_eq_none_iff.1 (quoted?_concat_star _)
      starred := List.mem_concat_self
      several := fun same => nonempty (List.append_left_eq_self.1 same) }
  · exact {
      trimmed := Text.trim_eq_self_iff.2 fun _ => ⟨isBlank_star, visible.2⟩
      unnegated := by
        change some '*' ≠ some '!'
        decide
      unmarked := nofun
      unquoted := nofun
      starred := List.mem_cons_self
      several := nofun }

/-- Among the texts of its lowercase the globs of a plain text accept those of its folding. -/
theorem IsPlain.accepts_starredForms_iff [PropertyTable] (plain : IsPlain literal)
    (nonempty : literal ≠ [])
    {glob : Text} (form : glob ∈ starredForms literal)
    (compiled : compile .string glob = some matcher)
    (lowered : Text.lowerEach text = Text.lower literal) :
    matcher.accepts (.string text) = true ↔ Text.SameFolding text literal := by
  rw [(plain.isGlob nonempty form).accepts_iff compiled]
  simp only [starredForms, List.mem_cons, List.not_mem_nil, or_false] at form
  have whole {part : Text} :
      Regex.Describes literal part ↔ Text.SameFolding part literal :=
    Regex.describes_iff_sameFolding plain.unstarred
  rcases form with rfl | rfl
  · rw [wildcard, Regex.describes_concat_star_iff]
    simp only [whole]
    constructor
    · rintro ⟨part, back, rfl, same⟩
      obtain ⟨-, rfl⟩ := @Text.eq_nil_of_sameFolding _ [] part back same lowered
      rwa [List.append_nil]
    · exact fun same => ⟨text, [], (List.append_nil text).symm, same⟩
  · change Regex.Describes ('*' :: literal) text ↔ _
    rw [Regex.describes_star_iff]
    simp only [whole]
    constructor
    · rintro ⟨front, part, rfl, same⟩
      rw [← List.append_nil (front ++ part)] at lowered
      obtain ⟨rfl, -⟩ := Text.eq_nil_of_sameFolding same lowered
      exact same
    · exact fun same => ⟨[], text, rfl, same⟩

end Forms

/-- The patterns of a plain text are its regular expression and its globs, and they compile unless
they are too large.  A text that the plain text accepts is accepted by a pattern exactly if it folds
as it is lowercased.  A text that the regular expression accepts is accepted by the plain text
exactly if it is lowercased as it folds, unless a capital sigma ends a word of the plain text. -/
theorem plain_agrees_with_patterns [PropertyTable] (plain : IsPlain literal)
    (nonempty : literal ≠ []) :
    (compile .string (escapedForm literal)).isSome =
        (Regex.whole (Regex.alternation (Regex.literal literal) [])).fit.isSome ∧
      (∀ glob ∈ starredForms literal,
        (compile .string glob).isSome = (Regex.ofGlob glob).fit.isSome) ∧
      ∃ matcher, compile .string literal = some matcher ∧ ∀ text,
        (matcher.accepts (.string text) = true →
          ∀ form ∈ escapedForm literal :: starredForms literal, ∀ pattern,
            compile .string form = some pattern →
            (pattern.accepts (.string text) = true ↔ Text.FoldsAsLowered text literal)) ∧
        ∀ pattern, compile .string (escapedForm literal) = some pattern →
          pattern.accepts (.string text) = true → ¬literal.HasFinalSigma →
          (matcher.accepts (.string text) = true ↔ Text.LowersAsFolded text literal) := by
  have accepts (text : Text) :
      (Matcher.sameText (Text.lower literal)).accepts (.string text) = true ↔
        Text.lowerEach text = Text.lower literal :=
    beq_iff_eq
  refine ⟨?_, fun glob form => ?_, _, plain.compile_string, fun text =>
    ⟨fun accepted form member pattern compiled => ?_, fun pattern compiled matched none => ?_⟩⟩
  · rw [plain.compile_escapedForm, Option.isSome_map]
  · rw [(plain.isGlob nonempty form).compile_string, Option.isSome_map]
    rfl
  · have lowered := (accepts text).1 accepted
    rw [← Text.sameFolding_iff_foldsAsLowered lowered]
    rcases List.mem_cons.1 member with rfl | starred
    · exact plain.accepts_escapedForm_iff compiled
    · exact plain.accepts_starredForms_iff nonempty starred compiled lowered
  · have same := (plain.accepts_escapedForm_iff compiled).1 matched
    rw [accepts, Text.lower_eq_lowerEach_iff.2 none]
    exact Text.lowerEach_eq_iff_lowersAsFolded same

end Matcher

namespace Samples

open Matcher

theorem spans_anyCase_s :
    (CharSet.single 's').anyCase.spans = [(0x53, 0x53), (0x73, 0x73), (0x17F, 0x17F)] := by
  have closure : Text.foldClosure [(0x73, 0x73)] =
      Text.Ranges.normal [(0x73, 0x73), (0x53, 0x53), (0x17F, 0x17F)] :=
    congrArg Text.Ranges.normal (by decide +kernel)
  have sorted : [(0x73, 0x73), (0x53, 0x53), (0x17F, 0x17F)].mergeSort
      (fun (left right : Nat × Nat) => left.1 ≤ right.1) =
        [(0x53, 0x53), (0x73, 0x73), (0x17F, 0x17F)] := by
    simp [List.mergeSort]
  refine closure.trans ?_
  rw [Text.Ranges.normal, sorted]
  rfl

/-- The regular expression of a single letter is small enough. -/
theorem compile_escapedForm_s :
    ∃ pattern, compile .string (escapedForm "s".toList) = some pattern := by
  have plain : IsPlain "s".toList := by decide +kernel
  have shape : Regex.whole (Regex.alternation (Regex.literal "s".toList) []) =
      .sequence .nothing (.sequence (.edge .textStart)
        (.sequence (.set (CharSet.single 's').anyCase) (.edge .textEnd))) := rfl
  have small (direction : Direction) :
      (Regex.whole (Regex.alternation (Regex.literal "s".toList) [])).automaton direction ≤
        Memory.limit := by
    rw [shape]
    simp only [Regex.automaton, Regex.memory, Regex.memoryAlone, spans_anyCase_s]
    cases direction <;> decide +kernel
  rw [plain.compile_escapedForm, Regex.fit, if_pos ⟨small .forward, small .backward⟩]
  exact ⟨_, rfl⟩

theorem plain_agrees_with_patterns_s :
    IsPlain "s".toList ∧ "s".toList ≠ [] ∧
      ∃ matcher pattern, compile .string "s".toList = some matcher ∧
        compile .string (escapedForm "s".toList) = some pattern ∧
        matcher.accepts (.string "S".toList) = true ∧
        pattern.accepts (.string "S".toList) = true := by
  have plain : IsPlain "s".toList := by decide +kernel
  obtain ⟨-, -, matcher, compiled, agrees⟩ := plain_agrees_with_patterns plain (by decide)
  obtain ⟨pattern, patternCompiled⟩ := compile_escapedForm_s
  have accepted : matcher.accepts (.string "S".toList) = true := by
    rw [plain.compile_string] at compiled
    cases compiled
    decide +kernel
  have folds : Text.FoldsAsLowered "S".toList "s".toList := by decide +kernel
  exact ⟨plain, by decide, matcher, pattern, compiled, patternCompiled, accepted,
    ((agrees _).1 accepted _ List.mem_cons_self pattern patternCompiled).2 folds⟩

/-- The regular expression of a letter accepts the long one that the letter does not accept, and no
glob of an i with a dot accepts the capital with a dot, which the two characters do accept. -/
theorem patterns_differ_from_plain :
    (∃ matcher pattern, compile .string "s".toList = some matcher ∧
      compile .string (escapedForm "s".toList) = some pattern ∧
      matcher.accepts (.string "ſ".toList) = false ∧
      pattern.accepts (.string "ſ".toList) = true) ∧
    IsPlain "i̇".toList ∧
    ∃ matcher, compile .string "i̇".toList = some matcher ∧
      matcher.accepts (.string "İ".toList) = true ∧
      ∀ form ∈ escapedForm "i̇".toList :: starredForms "i̇".toList, ∀ pattern,
        compile .string form = some pattern → pattern.accepts (.string "İ".toList) = false := by
  have plain : IsPlain "s".toList := by decide +kernel
  have dotted : IsPlain "i̇".toList := by decide +kernel
  have lowered : Text.lowerEach "İ".toList = Text.lower "i̇".toList := by decide +kernel
  have apart : ¬Text.SameFolding "İ".toList "i̇".toList := by decide +kernel
  obtain ⟨pattern, compiled⟩ := compile_escapedForm_s
  refine ⟨⟨_, pattern, plain.compile_string, compiled, by decide +kernel, ?_⟩, dotted, _,
    dotted.compile_string, by decide +kernel, fun form member pattern compiled => ?_⟩
  · exact (plain.accepts_escapedForm_iff compiled).2 (by decide +kernel)
  · rw [← Bool.not_eq_true]
    rcases List.mem_cons.1 member with rfl | starred
    · rwa [dotted.accepts_escapedForm_iff compiled]
    · rwa [dotted.accepts_starredForms_iff (by decide) starred compiled lowered]

end Samples

end RecordSearch
