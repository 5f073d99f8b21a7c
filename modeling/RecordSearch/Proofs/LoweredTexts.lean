import RecordSearch.Proofs.PlainTexts

/-!
# What lowercasing leaves

The lowercase of a text does not depend on the case of its ASCII letters.  It shows at which end the
text has a blank or a mark, and which one, since these are their own lowercase and no letter has one
of them in its lowercase.
-/

namespace RecordSearch.Text

variable {character : Char} {before behind text one other : Text}

section AsciiLetters

/-- Only the ASCII capitals are changed, to the letters 32 places behind them. -/
theorem toLower_eq_self_or_letter (character : Char) :
    character.toLower = character ∨
      (65 ≤ character.toNat ∧ character.toNat ≤ 90) ∧
        character.toLower.toNat = character.toNat + 32 := by
  by_cases capital : 65 ≤ character.toNat ∧ character.toNat ≤ 90
  · have behind : ∀ code < 26, (Char.ofNat (code + 65)).toLower.toNat = code + 97 := by
      decide +kernel
    have here := behind (character.toNat - 65) (by omega)
    rw [Nat.sub_add_cancel capital.1, Char.ofNat_toNat] at here
    exact .inr ⟨capital, by omega⟩
  · exact .inl (dif_neg fun letter => capital ⟨letter.1, letter.2⟩)

theorem lowerChar_toLower (character : Char) :
    lowerChar character.toLower = lowerChar character := by
  rcases toLower_eq_self_or_letter character with same | ⟨capital, behind⟩
  · rw [same]
  · -- Both characters are ASCII, so only one shift counts: it moves the capital and not the letter.
    have small : character.toLower.toNat < 128 := by omega
    have moved : shiftChar [capitals] character = character.toLower := by
      have moves : capitals.moves character.toNat = true := by
        simp [Shift.moves, capitals, Nat.mod_one, capital]
      rw [shiftChar_eq_target (List.find?_cons_of_pos moves), ← Char.ofNat_toNat character.toLower,
        behind]
      rfl
    have unmoved : shiftChar [capitals] character.toLower = character.toLower := by
      refine shiftChar_eq_self (List.find?_cons_of_neg fun moves => ?_)
      have bounds := Shift.bounds_of_moves moves
      simp only [capitals] at bounds
      omega
    obtain ⟨member, only⟩ := lowercaseShifts_ascii
    rw [lowerChar_ascii small, lowerChar_ascii (by omega), shiftChar_ascii member only small,
      shiftChar_ascii member only (by omega), moved, unmoved]

theorem toLower_eq_sigma_iff (character : Char) : character.toLower = 'Σ' ↔ character = 'Σ' := by
  have sigma : 'Σ'.toNat = 931 := by decide
  rcases toLower_eq_self_or_letter character with same | ⟨capital, behind⟩
  · rw [same]
  · refine iff_of_false ?_ ?_
    · intro equal
      rw [equal] at behind
      omega
    · rintro rfl
      omega

/-- No ASCII letter is ignored where the case of its neighbours counts. -/
theorem ignorable_apart : ∀ range ∈ caseIgnorableRanges,
    range.2 < 65 ∨ 90 < range.1 ∧ range.2 < 97 ∨ 122 < range.1 := by
  decide +kernel

theorem ignorable_toLower (character : Char) :
    caseIgnorableRanges.has character.toLower = caseIgnorableRanges.has character := by
  rcases toLower_eq_self_or_letter character with same | ⟨capital, behind⟩
  · rw [same]
  · have outside {code : Nat} (letter : 65 ≤ code ∧ code ≤ 90 ∨ 97 ≤ code ∧ code ≤ 122) :
        caseIgnorableRanges.covers code = false := by
      refine List.any_eq_false.2 fun range member => ?_
      have apart := ignorable_apart range member
      rw [Bool.and_eq_true, decide_eq_true_eq, decide_eq_true_eq]
      omega
    exact (outside (by omega)).trans (outside (.inl capital)).symm

theorem cased_toLower (character : Char) :
    casedRanges.has character.toLower = casedRanges.has character := by
  rcases toLower_eq_self_or_letter character with same | ⟨capital, behind⟩
  · rw [same]
  · have capitals : (0x41, 0x5A) ∈ casedRanges := by decide
    have letters : (0x61, 0x7A) ∈ casedRanges := by decide
    have cased : casedRanges.has character = true :=
      List.any_eq_true.2 ⟨_, capitals, by simpa using capital⟩
    have loweredCased : casedRanges.has character.toLower = true :=
      List.any_eq_true.2 ⟨_, letters, by simp [behind]; omega⟩
    rw [cased, loweredCased]

theorem meetsCased_cons (character : Char) (text : Text) :
    meetsCased (character :: text) =
      if caseIgnorableRanges.has character then meetsCased text
      else casedRanges.has character := by
  unfold meetsCased
  cases ignorable : caseIgnorableRanges.has character with
  | true => rw [List.dropWhile_cons_of_pos ignorable, if_pos rfl]
  | false =>
      rw [List.dropWhile_cons_of_neg (Bool.eq_false_iff.1 ignorable)]
      rfl

theorem meetsCased_lowerAscii (text : Text) : meetsCased (lowerAscii text) = meetsCased text := by
  induction text with
  | nil => rfl
  | cons character text induction =>
      change meetsCased (character.toLower :: lowerAscii text) = _
      rw [meetsCased_cons, meetsCased_cons, ignorable_toLower, cased_toLower, induction]

theorem lowerAfter_lowerAscii (before text : Text) :
    lowerAfter (lowerAscii before) (lowerAscii text) = lowerAfter before text := by
  induction text generalizing before with
  | nil => rfl
  | cons character text induction =>
      change lowerAfter _ (character.toLower :: lowerAscii text) = _
      rw [lowerAfter_cons, lowerAfter_cons, ← induction (character :: before), lowerBetween,
        lowerBetween, lowerChar_toLower, meetsCased_lowerAscii, meetsCased_lowerAscii]
      simp only [toLower_eq_sigma_iff]
      rfl

/-- Spellings that differ in ASCII letters alone have one lowercase. -/
theorem lower_eq_of_lowerAscii_eq (same : lowerAscii one = lowerAscii other) :
    lower one = lower other := by
  have whole (text : Text) : lower (lowerAscii text) = lower text := lowerAfter_lowerAscii [] text
  rw [← whole one, same, whole]

end AsciiLetters

section Signs

/-- Blanks and the characters in front of the letters, among them all marks of a literal. -/
def isSign (character : Char) : Bool :=
  isBlank character || character.toNat < 65

theorem lowercaseShifts_visible : ∀ shift ∈ lowercaseShifts, ∀ range ∈ blankRanges,
    (range.2 < shift.first ∨ shift.last < range.1) ∧
      (range.2 < shift.first + shift.offset ∨ shift.last + shift.offset < range.1) := by
  decide +kernel

theorem lowercase_eq_self_or_visible (character : Char) :
    shiftChar lowercaseShifts character = character ∨
      isSign character = false ∧ isSign (shiftChar lowercaseShifts character) = false := by
  cases found : lowercaseShifts.find? (fun shift => shift.moves character.toNat) with
  | none => exact .inl (shiftChar_eq_self found)
  | some shift =>
      have member := List.mem_of_find?_eq_some found
      have moves := List.find?_some found
      have sound := sound_lowercaseShifts shift member
      have bounds := Shift.bounds_of_moves moves
      have target := sound.target_eq moves
      have letters := lowercaseShifts_letters shift member
      have visible {other : Char} (above : 65 ≤ other.toNat)
          (apart : ∀ range ∈ blankRanges, range.2 < other.toNat ∨ other.toNat < range.1) :
          isSign other = false := by
        have shown : isBlank other = false := by
          refine List.any_eq_false.2 fun range member => ?_
          have outside := apart range member
          rw [Bool.and_eq_true, decide_eq_true_eq, decide_eq_true_eq]
          omega
        rw [isSign, shown, Bool.false_or, decide_eq_false_iff_not]
        omega
      refine .inr ⟨visible (by omega) fun range blank => ?_, visible ?_ fun range blank => ?_⟩
      · have apart := lowercaseShifts_visible shift member range blank
        omega
      · rw [shiftChar_eq_target found, sound.toNat_target moves]
        omega
      · have apart := lowercaseShifts_visible shift member range blank
        rw [shiftChar_eq_target found, sound.toNat_target moves]
        omega

/-- The lowercase of a sign is the sign, and there is no sign in the lowercase of a letter. -/
theorem lowerBetween_sign (before : Text) (character : Char) (behind : Text) :
    lowerBetween before character behind = [character] ∨
      isSign character = false ∧
        ∀ letter ∈ lowerBetween before character behind, isSign letter = false := by
  have greek : isSign 'Σ' = false ∧ isSign 'σ' = false ∧ isSign 'ς' = false := by decide
  have dotted : isSign 'İ' = false ∧ isSign 'i' = false ∧ isSign '\u0307' = false := by decide
  unfold lowerBetween
  split
  case isTrue capital =>
    subst capital
    refine .inr ⟨greek.1, ?_⟩
    split
    · exact List.forall_mem_singleton.2 greek.2.2
    · exact List.forall_mem_singleton.2 greek.2.1
  case isFalse =>
    unfold lowerChar
    split
    case isTrue capital =>
      subst capital
      exact .inr ⟨dotted.1,
        List.forall_mem_cons.2 ⟨dotted.2.1, List.forall_mem_singleton.2 dotted.2.2⟩⟩
    case isFalse =>
      rcases lowercase_eq_self_or_visible character with same | ⟨visible, lowered⟩
      · exact .inl (congrArg ([·]) same)
      · exact .inr ⟨visible, List.forall_mem_singleton.2 lowered⟩

theorem lowerBetween_ne_nil (before : Text) (character : Char) (behind : Text) :
    lowerBetween before character behind ≠ [] := by
  rw [← List.length_pos_iff, length_lowerBetween, lowerChar]
  split <;> exact Nat.succ_pos _

theorem ends_lowerBetween (before : Text) (character : Char) (behind : Text) :
    (lowerBetween before character behind).head?.filter isSign = (some character).filter isSign ∧
      (lowerBetween before character behind).getLast?.filter isSign =
        (some character).filter isSign := by
  rcases lowerBetween_sign before character behind with same | ⟨visible, lowered⟩
  · rw [same]
    exact ⟨rfl, rfl⟩
  · have none (letter : Option Char) (inside : ∀ one ∈ letter, isSign one = false) :
        letter.filter isSign = none := by
      simpa [Option.filter_eq_none_iff] using inside
    rw [none (some character) (by simpa using visible)]
    exact ⟨none _ fun letter first => lowered letter (List.mem_of_mem_head? first),
      none _ fun letter last => lowered letter (List.mem_of_mem_getLast? last)⟩

theorem lowerAfter_eq_nil_iff : lowerAfter before text = [] ↔ text = [] := by
  cases text with
  | nil => exact iff_of_true rfl rfl
  | cons character behind =>
      rw [lowerAfter_cons, List.append_eq_nil_iff]
      exact iff_of_false (fun empty => lowerBetween_ne_nil _ _ _ empty.1) nofun

/-- Two texts begin with the same sign and end with the same sign, if with any. -/
def SameEnds (one other : Text) : Prop :=
  one.head?.filter isSign = other.head?.filter isSign ∧
    one.getLast?.filter isSign = other.getLast?.filter isSign

theorem head?_lowerAfter (before text : Text) :
    (lowerAfter before text).head?.filter isSign = text.head?.filter isSign := by
  cases text with
  | nil => rfl
  | cons character behind =>
      rw [lowerAfter_cons, List.head?_append_of_ne_nil _ (lowerBetween_ne_nil _ _ _),
        (ends_lowerBetween before character behind).1, List.head?_cons]

theorem getLast?_lowerAfter (before text : Text) :
    (lowerAfter before text).getLast?.filter isSign = text.getLast?.filter isSign := by
  induction text generalizing before with
  | nil => rfl
  | cons character behind induction =>
      rw [lowerAfter_cons]
      cases behind with
      | nil =>
          rw [lowerAfter, List.append_nil]
          exact (ends_lowerBetween before character []).2
      | cons next rest =>
          have nonempty : lowerAfter (character :: before) (next :: rest) ≠ [] :=
            mt lowerAfter_eq_nil_iff.1 (List.cons_ne_nil next rest)
          rw [List.getLast?_append_of_ne_nil _ nonempty, induction, List.getLast?_cons_cons]

theorem sameEnds_lower (text : Text) : SameEnds (lower text) text :=
  ⟨head?_lowerAfter [] text, getLast?_lowerAfter [] text⟩

theorem SameEnds.head?_eq_iff (same : SameEnds one other) (sign : isSign character = true) :
    one.head? = some character ↔ other.head? = some character := by
  have first := congrArg (· = some character) same.1
  simpa [Option.filter_eq_some_iff, sign] using first

theorem SameEnds.getLast?_eq_iff (same : SameEnds one other) (sign : isSign character = true) :
    one.getLast? = some character ↔ other.getLast? = some character := by
  have last := congrArg (· = some character) same.2
  simpa [Option.filter_eq_some_iff, sign] using last

theorem SameEnds.trim_eq_self (same : SameEnds one other) (trimmed : trim other = other) :
    trim one = one := by
  rw [trim_eq_self_iff_ends] at trimmed ⊢
  intro character blank
  have sign : isSign character = true := by rw [isSign, blank, Bool.true_or]
  obtain ⟨first, last⟩ := trimmed character blank
  exact ⟨mt (same.head?_eq_iff sign).1 first, mt (same.getLast?_eq_iff sign).1 last⟩

theorem sameEnds_of_lower_eq (same : lower one = lower other) : SameEnds one other := by
  obtain ⟨first, last⟩ := sameEnds_lower one
  rw [same] at first last
  exact ⟨first.symm.trans (sameEnds_lower other).1, last.symm.trans (sameEnds_lower other).2⟩

theorem eq_of_lower_eq_sign (sign : isSign character = true) (same : lower text = [character]) :
    text = [character] := by
  cases text with
  | nil => cases same
  | cons first rest =>
      rw [lower, lowerAfter_cons] at same
      rcases List.append_eq_singleton_iff.1 same with ⟨empty, -⟩ | ⟨single, nothing⟩
      · exact absurd empty (lowerBetween_ne_nil _ _ _)
      · obtain rfl := lowerAfter_eq_nil_iff.1 nothing
        rcases lowerBetween_sign [] first [] with kept | ⟨-, visible⟩
        · exact kept.symm.trans single
        · rw [visible character (single ▸ List.mem_singleton_self character)] at sign
          cases sign

end Signs

end RecordSearch.Text
