import Mathlib.Data.Char
import Mathlib.Data.List.Basic
import RecordSearch.Text.Case

/-!
# Two ways to ignore case

Values are compared by their lowercase and patterns by simple case folding.  The two agree on most
letters, but not on all: a capital letter with a dot has two characters in its lowercase, and is
folded to neither.  On ASCII texts they agree.
-/

namespace RecordSearch.Text

variable {character one other : Char} {text : Text} {shifts : List Shift} {shift : Shift}

/-- No value that equals the text when case is ignored differs from it for patterns. -/
def CaseAgrees (text : Text) : Prop :=
  ∀ value, lowerEach value = lower text → value.map fold = text.map fold

def Shift.Sound (shift : Shift) : Prop :=
  0 ≤ shift.first + shift.offset ∧
    (shift.last + shift.offset < 0xD800 ∨
      0xDFFF < shift.first + shift.offset ∧ shift.last + shift.offset < 0x110000)

instance : DecidablePred Shift.Sound := fun _ =>
  inferInstanceAs (Decidable (_ ∧ _))

section Shifts

theorem Shift.bounds_of_moves {code : Nat} (moves : shift.moves code = true) :
    shift.first ≤ code ∧ code ≤ shift.last := by
  simp only [Shift.moves, Bool.and_eq_true, decide_eq_true_eq] at moves
  exact moves.1

theorem Shift.Sound.target_eq {code : Nat} (sound : shift.Sound) (moves : shift.moves code = true) :
    (shift.target code : Int) = code + shift.offset := by
  have bounds := Shift.bounds_of_moves moves
  unfold Shift.Sound at sound
  unfold Shift.target
  omega

theorem Shift.Sound.toNat_target {code : Nat} (sound : shift.Sound)
    (moves : shift.moves code = true) :
    (Char.ofNat (shift.target code)).toNat = shift.target code := by
  have bounds := Shift.bounds_of_moves moves
  have equal := sound.target_eq moves
  have valid : (shift.target code).isValidChar := by
    unfold Shift.Sound at sound
    unfold Nat.isValidChar
    omega
  rw [Char.ofNat, dif_pos valid]
  rfl

theorem Shift.Sound.source?_target {code : Nat} (sound : shift.Sound)
    (moves : shift.moves code = true) : shift.source? (shift.target code) = some code := by
  have equal := sound.target_eq moves
  have back : ((shift.target code : Int) - shift.offset).toNat = code := by omega
  simp [Shift.source?, back, moves]

theorem sound_foldingShifts : ∀ shift ∈ foldingShifts, shift.Sound := by
  decide +kernel

theorem sound_lowercaseShifts : ∀ shift ∈ lowercaseShifts, shift.Sound := by
  decide +kernel

theorem shiftChar_eq_self (unmoved : shifts.find? (·.moves character.toNat) = none) :
    shiftChar shifts character = character := by
  rw [shiftChar, unmoved]

theorem shiftChar_eq_target (found : shifts.find? (·.moves character.toNat) = some shift) :
    shiftChar shifts character = Char.ofNat (shift.target character.toNat) := by
  rw [shiftChar, found]

theorem mem_foldMates_of_fold_eq (same : fold one = fold other) : one ∈ foldMates other := by
  rw [foldMates, ← same]
  cases found : foldingShifts.find? (·.moves one.toNat) with
  | none =>
      have fixed : fold one = one := shiftChar_eq_self found
      rw [fixed]
      exact List.mem_cons_self
  | some shift =>
      have member := List.mem_of_find?_eq_some found
      have moves := List.find?_some found
      have sound := sound_foldingShifts shift member
      have target : fold one = Char.ofNat (shift.target one.toNat) := shiftChar_eq_target found
      apply List.mem_cons_of_mem
      apply List.mem_filterMap.2
      refine ⟨shift, member, ?_⟩
      rw [target, sound.toNat_target moves, sound.source?_target moves, Option.map_some,
        Char.ofNat_toNat]

end Shifts

section Ascii

/-- The shift of the ASCII letters, which lowercasing and folding have in common. -/
def capitals : Shift :=
  ⟨0x41, 0x5A, 1, 32⟩

theorem shiftChar_ascii (member : capitals ∈ shifts)
    (only : ∀ shift ∈ shifts, shift = capitals ∨ 128 ≤ shift.first)
    (ascii : character.toNat < 128) :
    shiftChar shifts character = shiftChar [capitals] character := by
  cases found : shifts.find? (fun shift => shift.moves character.toNat) with
  | none =>
      have unmoved : ¬ capitals.moves character.toNat = true :=
        List.find?_eq_none.1 found capitals member
      rw [shiftChar_eq_self found, shiftChar_eq_self]
      exact List.find?_cons_of_neg unmoved
  | some shift =>
      have moves := List.find?_some found
      have bounds := Shift.bounds_of_moves moves
      obtain rfl : shift = capitals := by
        rcases only shift (List.mem_of_find?_eq_some found) with same | above
        · exact same
        · omega
      rw [shiftChar_eq_target found, shiftChar_eq_target]
      exact List.find?_cons_of_pos moves

theorem lowercaseShifts_ascii :
    capitals ∈ lowercaseShifts ∧
      ∀ shift ∈ lowercaseShifts, shift = capitals ∨ 128 ≤ shift.first := by
  decide +kernel

theorem foldingShifts_ascii :
    capitals ∈ foldingShifts ∧ ∀ shift ∈ foldingShifts, shift = capitals ∨ 128 ≤ shift.first := by
  decide +kernel

/-- Besides the ASCII letters only the Kelvin sign moves to an ASCII character. -/
theorem lowercaseShifts_to_ascii : ∀ shift ∈ lowercaseShifts,
    128 ≤ shift.first + shift.offset ∨ shift = capitals ∨ shift = ⟨0x212A, 0x212A, 1, -8383⟩ := by
  decide +kernel

theorem lowercase_ascii (ascii : character.toNat < 128) :
    (shiftChar lowercaseShifts character).toNat < 128 := by
  have small : ∀ code < 128, (shiftChar [capitals] (Char.ofNat code)).toNat < 128 := by
    decide +kernel
  rw [shiftChar_ascii lowercaseShifts_ascii.1 lowercaseShifts_ascii.2 ascii]
  have here := small character.toNat ascii
  rwa [Char.ofNat_toNat] at here

theorem fold_eq_lowercase (ascii : (shiftChar lowercaseShifts character).toNat < 128) :
    fold character = shiftChar lowercaseShifts character := by
  have ofAscii (small : character.toNat < 128) :
      fold character = shiftChar lowercaseShifts character := by
    rw [fold, shiftChar_ascii foldingShifts_ascii.1 foldingShifts_ascii.2 small,
      shiftChar_ascii lowercaseShifts_ascii.1 lowercaseShifts_ascii.2 small]
  cases found : lowercaseShifts.find? (fun shift => shift.moves character.toNat) with
  | none =>
      rw [shiftChar_eq_self found] at ascii
      exact ofAscii ascii
  | some shift =>
      have member := List.mem_of_find?_eq_some found
      have moves := List.find?_some found
      have sound := sound_lowercaseShifts shift member
      have bounds := Shift.bounds_of_moves moves
      have target := sound.target_eq moves
      rw [shiftChar_eq_target found, sound.toNat_target moves] at ascii
      rcases lowercaseShifts_to_ascii shift member with above | rfl | rfl
      · omega
      · simp only [capitals] at bounds
        exact ofAscii (by omega)
      · obtain rfl : character = Char.ofNat 0x212A := by
          rw [← Char.ofNat_toNat character, Nat.le_antisymm bounds.2 bounds.1]
        decide +kernel

theorem lowerChar_ascii (ascii : character.toNat < 128) :
    lowerChar character = [shiftChar lowercaseShifts character] := by
  have plain : character ≠ 'İ' := by
    rintro rfl
    revert ascii
    decide
  rw [lowerChar, if_neg plain]

theorem lowerAfter_ascii {before : Text} (ascii : ∀ character ∈ text, character.toNat < 128) :
    lowerAfter before text = text.map (shiftChar lowercaseShifts) := by
  induction text generalizing before with
  | nil => rfl
  | cons character text induction =>
      have here := ascii character List.mem_cons_self
      have notSigma : character ≠ 'Σ' := by
        rintro rfl
        revert here
        decide
      rw [lowerAfter, if_neg notSigma, lowerChar_ascii here,
        induction fun other member => ascii other (List.mem_cons_of_mem _ member)]
      rfl

theorem lowerEach_ascii (ascii : ∀ character ∈ lowerEach text, character.toNat < 128) :
    lowerEach text = text.map (shiftChar lowercaseShifts) := by
  have single (character : Char) (member : character ∈ text) :
      lowerChar character = [shiftChar lowercaseShifts character] := by
    rw [lowerChar, if_neg]
    rintro rfl
    have combined := ascii '\u0307' (List.mem_flatMap.2 ⟨'İ', member, by decide⟩)
    revert combined
    decide
  rw [lowerEach, List.flatMap_congr single, List.map_eq_flatMap]

theorem caseAgrees_of_ascii (ascii : ∀ character ∈ text, character.toNat < 128) :
    CaseAgrees text := by
  intro value same
  rw [lower, lowerAfter_ascii ascii] at same
  have lowered : ∀ character ∈ text.map (shiftChar lowercaseShifts), character.toNat < 128 := by
    intro character member
    obtain ⟨source, inText, rfl⟩ := List.mem_map.1 member
    exact lowercase_ascii (ascii source inText)
  rw [lowerEach_ascii (by rwa [same])] at same
  have folded {other : Text}
      (equal : other.map (shiftChar lowercaseShifts) = text.map (shiftChar lowercaseShifts)) :
      other.map fold = other.map (shiftChar lowercaseShifts) :=
    List.map_congr_left fun character member => fold_eq_lowercase
      (lowered _ (equal ▸ List.mem_map_of_mem member))
  rw [folded same, folded rfl, same]

end Ascii

section Marks

variable {keep : Char → Bool} {before : Text}

theorem lowercaseShifts_letters :
    ∀ shift ∈ lowercaseShifts, 65 ≤ shift.first ∧ 97 ≤ shift.first + shift.offset := by
  decide +kernel

/-- Characters in front of the letters stay, and none becomes one of them. -/
theorem lowercase_eq_self_or_letters (character : Char) :
    shiftChar lowercaseShifts character = character ∨
      65 ≤ character.toNat ∧ 97 ≤ (shiftChar lowercaseShifts character).toNat := by
  cases found : lowercaseShifts.find? (fun shift => shift.moves character.toNat) with
  | none => exact .inl (shiftChar_eq_self found)
  | some shift =>
      have member := List.mem_of_find?_eq_some found
      have moves := List.find?_some found
      have sound := sound_lowercaseShifts shift member
      have bounds := Shift.bounds_of_moves moves
      have target := sound.target_eq moves
      have letters := lowercaseShifts_letters shift member
      rw [shiftChar_eq_target found, sound.toNat_target moves]
      exact .inr (by omega)

theorem filter_lowerChar (below : ∀ mark, keep mark = true → mark.toNat < 65) (character : Char) :
    (lowerChar character).filter keep = [character].filter keep := by
  have dropped {letter : Char} (above : 65 ≤ letter.toNat) : keep letter = false :=
    Bool.eq_false_iff.2 fun kept => absurd (below letter kept) (Nat.not_lt.2 above)
  unfold lowerChar
  split
  case isTrue dotted =>
    subst dotted
    rw [List.filter_cons_of_neg, List.filter_singleton, List.filter_singleton]
    all_goals simp [dropped]
  case isFalse =>
    rcases lowercase_eq_self_or_letters character with same | ⟨above, loweredAbove⟩
    · rw [same]
    · simp [dropped above, dropped (Nat.le_trans (by decide) loweredAbove)]

/-- The characters in front of the letters are the same in a text and in its lowercase. -/
theorem filter_lowerAfter (below : ∀ mark, keep mark = true → mark.toNat < 65) (text : Text) :
    (lowerAfter before text).filter keep = text.filter keep := by
  have sigmas : ∀ letter ∈ ['Σ', 'σ', 'ς'], keep letter = false := by
    have above : ∀ letter ∈ ['Σ', 'σ', 'ς'], ¬letter.toNat < 65 := by simp
    exact fun letter member => Bool.eq_false_iff.2 fun kept =>
      above letter member (below letter kept)
  induction text generalizing before with
  | nil => rfl
  | cons character text induction =>
      rw [lowerAfter, List.filter_append, induction, ← List.singleton_append (l := text),
        List.filter_append]
      refine congrArg (· ++ _) ?_
      split
      case isTrue capital =>
        subst capital
        split <;> simp [sigmas]
      case isFalse => exact filter_lowerChar below character

theorem mem_iff_of_filter {other : Text} {mark : Char}
    (same : text.filter (fun character => character = mark) =
      other.filter fun character => character = mark) : mark ∈ text ↔ mark ∈ other := by
  have member := congrArg (mark ∈ ·) same
  simpa using member

theorem mem_lowerAfter_iff {mark : Char} (below : mark.toNat < 65) :
    mark ∈ lowerAfter before text ↔ mark ∈ text :=
  mem_iff_of_filter (filter_lowerAfter (by simpa) text)

end Marks

end RecordSearch.Text
