import RecordSearch.Derive.Basic
import RecordSearch.Proofs.LetterCase

/-!
# Identifiers in snake case

The snake case of an identifier does not tell which of its letters were capitals, except for those
with an underscore in front.  In camel case it does, since every capital but the first one stands
behind a character that is none.
-/

namespace RecordSearch.Derive

/-- What may follow a part of an identifier in camel case: ASCII letters and digits, of which no
capital stands behind a capital.  `afterLower` tells that the part ends in no capital. -/
def continuesCamelCase (afterLower : Bool) : Text → Bool
  | [] => true
  | character :: rest =>
      character.isAlphanum && (!character.isUpper || afterLower) &&
        continuesCamelCase (!character.isUpper) rest

/-- An identifier of ASCII letters and digits that begins with a capital, in which no capital
stands behind a capital. -/
def isCamelCase : Text → Bool
  | [] => false
  | character :: rest => character.isUpper && continuesCamelCase false rest

variable {character : Char} {rest one other : Text} {afterLower : Bool}

theorem isAlphanum_eq (character : Char) :
    character.isAlphanum = (character.isUpper || character.isLower || character.isDigit) := by
  rfl

theorem toNat_lt_of_isAlphanum (letter : character.isAlphanum = true) : character.toNat < 128 := by
  rw [isAlphanum_eq, Bool.or_eq_true, Bool.or_eq_true] at letter
  have below (last : Char) (small : last.toNat < 128) (bound : character.val ≤ last.val) :
      character.toNat < 128 :=
    Nat.lt_of_le_of_lt (UInt32.le_iff_toNat_le.1 bound) small
  rcases letter with (upper | lower) | digit
  · have bounds : character.val ≥ 'A'.val ∧ character.val ≤ 'Z'.val := of_decide_eq_true upper
    exact below 'Z' (by decide) bounds.2
  · have bounds : (decide (character.val ≥ 'a'.val) && decide (character.val ≤ 'z'.val)) = true :=
      lower
    exact below 'z' (by decide) (of_decide_eq_true (Bool.and_eq_true_iff.1 bounds).2)
  · have bounds : (decide (character.val ≥ '0'.val) && decide (character.val ≤ '9'.val)) = true :=
      digit
    exact below '9' (by decide) (of_decide_eq_true (Bool.and_eq_true_iff.1 bounds).2)

/-- Among the ASCII letters and digits, the capitals are those that snake case lowers. -/
theorem ascii_alphanum : ∀ code < 128, (Char.ofNat code).isAlphanum = true →
    Text.isUppercase (Char.ofNat code) = (Char.ofNat code).isUpper ∧
      ((Char.ofNat code).isUpper = true →
        (Text.lowerChar (Char.ofNat code)).map Char.toNat = [code + 32]) ∧
      Char.ofNat code ≠ '-' ∧ Char.ofNat code ≠ '_' := by
  decide +kernel

theorem isUppercase_eq_isUpper (letter : character.isAlphanum = true) :
    Text.isUppercase character = character.isUpper := by
  have facts := ascii_alphanum character.toNat (toNat_lt_of_isAlphanum letter)
  rw [Char.ofNat_toNat] at facts
  exact (facts letter).1

theorem map_toNat_lowerChar (letter : character.isAlphanum = true)
    (capital : character.isUpper = true) :
    (Text.lowerChar character).map Char.toNat = [character.toNat + 32] := by
  have facts := ascii_alphanum character.toNat (toNat_lt_of_isAlphanum letter)
  rw [Char.ofNat_toNat] at facts
  exact (facts letter).2.1 capital

theorem not_separator_of_isAlphanum (letter : character.isAlphanum = true) :
    character ≠ '-' ∧ character ≠ '_' := by
  have facts := ascii_alphanum character.toNat (toNat_lt_of_isAlphanum letter)
  rw [Char.ofNat_toNat] at facts
  exact (facts letter).2.2

/-- A capital is lowered, behind an underscore if something else than a capital stands before it. -/
theorem snakeCaseFrom_capital (letter : character.isAlphanum = true)
    (capital : character.isUpper = true) :
    snakeCaseFrom afterLower (character :: rest) =
      (if afterLower then ['_'] else []) ++
        (Text.lowerChar character ++ snakeCaseFrom false rest) := by
  rw [snakeCaseFrom, if_pos ((isUppercase_eq_isUpper letter).trans capital), List.append_assoc]

theorem snakeCaseFrom_other (letter : character.isAlphanum = true)
    (small : character.isUpper = false) :
    snakeCaseFrom afterLower (character :: rest) = character :: snakeCaseFrom true rest := by
  obtain ⟨notHyphen, notUnderscore⟩ := not_separator_of_isAlphanum letter
  have kept : ¬Text.isUppercase character = true := by
    rw [isUppercase_eq_isUpper letter, small]
    decide
  rw [snakeCaseFrom, if_neg kept, if_neg notHyphen, bne_iff_ne.2 notUnderscore]

theorem snakeCaseFrom_cons_ne_nil (letter : character.isAlphanum = true) :
    snakeCaseFrom afterLower (character :: rest) ≠ [] := by
  cases capital : character.isUpper with
  | false =>
      rw [snakeCaseFrom_other letter capital]
      exact List.cons_ne_nil _ _
  | true =>
      intro empty
      rw [snakeCaseFrom_capital letter capital] at empty
      have lowered := map_toNat_lowerChar letter capital
      rw [(List.append_eq_nil_iff.1 (List.append_eq_nil_iff.1 empty).2).1] at lowered
      cases lowered

theorem eq_of_lowerChar_append {second : Char} {more : Text} (letter : character.isAlphanum = true)
    (capital : character.isUpper = true) (secondLetter : second.isAlphanum = true)
    (secondCapital : second.isUpper = true)
    (same : Text.lowerChar character ++ rest = Text.lowerChar second ++ more) :
    character = second ∧ rest = more := by
  have codes := map_toNat_lowerChar letter capital
  have secondCodes := map_toNat_lowerChar secondLetter secondCapital
  have lengths : (Text.lowerChar character).length = (Text.lowerChar second).length := by
    rw [← List.length_map Char.toNat, codes, ← List.length_map Char.toNat, secondCodes]
    rfl
  obtain ⟨lowered, behind⟩ := List.append_inj same lengths
  rw [lowered, secondCodes] at codes
  have equal : second.toNat = character.toNat := by simpa using codes
  rw [← Char.ofNat_toNat character, ← equal, Char.ofNat_toNat]
  exact ⟨rfl, behind⟩

theorem snakeCaseFrom_ne_of_capital {second : Char} {more : Text}
    (letter : character.isAlphanum = true) (small : character.isUpper = false)
    (secondLetter : second.isAlphanum = true) (secondCapital : second.isUpper = true) :
    snakeCaseFrom true (character :: rest) ≠ snakeCaseFrom true (second :: more) := by
  rw [snakeCaseFrom_other letter small, snakeCaseFrom_capital secondLetter secondCapital]
  intro same
  injection same with underscore
  exact (not_separator_of_isAlphanum letter).2 underscore

/-- Two texts that go on in camel case and have the same snake case are one text.  The induction is
on the first text, for both kinds of what stands before it. -/
theorem eq_of_snakeCaseFrom_eq (camel : continuesCamelCase afterLower one = true)
    (otherCamel : continuesCamelCase afterLower other = true)
    (same : snakeCaseFrom afterLower one = snakeCaseFrom afterLower other) : one = other := by
  induction one generalizing afterLower other with
  | nil =>
      cases other with
      | nil => rfl
      | cons second others =>
          simp only [continuesCamelCase, Bool.and_eq_true] at otherCamel
          exact absurd same.symm (snakeCaseFrom_cons_ne_nil otherCamel.1.1)
  | cons first ones induction =>
      simp only [continuesCamelCase, Bool.and_eq_true] at camel
      obtain ⟨⟨letter, spaced⟩, camelBehind⟩ := camel
      cases other with
      | nil => exact absurd same (snakeCaseFrom_cons_ne_nil letter)
      | cons second others =>
          simp only [continuesCamelCase, Bool.and_eq_true] at otherCamel
          obtain ⟨⟨secondLetter, secondSpaced⟩, otherCamelBehind⟩ := otherCamel
          cases capital : first.isUpper <;> cases secondCapital : second.isUpper
          case false.false =>
            rw [snakeCaseFrom_other letter capital,
              snakeCaseFrom_other secondLetter secondCapital] at same
            rw [capital] at camelBehind
            rw [secondCapital] at otherCamelBehind
            injection same with sameHead sameBehind
            rw [sameHead, induction camelBehind otherCamelBehind sameBehind]
          case false.true =>
            obtain rfl : afterLower = true := by simpa [secondCapital] using secondSpaced
            exact absurd same
              (snakeCaseFrom_ne_of_capital letter capital secondLetter secondCapital)
          case true.false =>
            obtain rfl : afterLower = true := by simpa [capital] using spaced
            exact absurd same.symm
              (snakeCaseFrom_ne_of_capital secondLetter secondCapital letter capital)
          case true.true =>
            rw [snakeCaseFrom_capital letter capital,
              snakeCaseFrom_capital secondLetter secondCapital] at same
            rw [capital] at camelBehind
            rw [secondCapital] at otherCamelBehind
            obtain ⟨sameHead, sameBehind⟩ := eq_of_lowerChar_append letter capital secondLetter
              secondCapital (List.append_cancel_left same)
            rw [sameHead, induction camelBehind otherCamelBehind sameBehind]

theorem isAlphanum_of_isUpper (capital : character.isUpper = true) :
    character.isAlphanum = true := by
  rw [isAlphanum_eq, capital, Bool.true_or, Bool.true_or]

/-- Identifiers in camel case have different snake cases. -/
theorem eq_of_snakeCase_eq (camel : isCamelCase one = true) (otherCamel : isCamelCase other = true)
    (same : snakeCase one = snakeCase other) : one = other := by
  cases one with
  | nil => cases camel
  | cons first ones =>
      cases other with
      | nil => cases otherCamel
      | cons second others =>
          simp only [isCamelCase, Bool.and_eq_true] at camel otherCamel
          obtain ⟨capital, camelBehind⟩ := camel
          obtain ⟨secondCapital, otherCamelBehind⟩ := otherCamel
          have letter := isAlphanum_of_isUpper capital
          have secondLetter := isAlphanum_of_isUpper secondCapital
          rw [snakeCase, snakeCase, snakeCaseFrom_capital letter capital,
            snakeCaseFrom_capital secondLetter secondCapital] at same
          obtain ⟨sameHead, sameBehind⟩ := eq_of_lowerChar_append letter capital secondLetter
            secondCapital (List.append_cancel_left same)
          rw [sameHead, eq_of_snakeCaseFrom_eq camelBehind otherCamelBehind sameBehind]

/-- The raw mark stays in the snake case of an identifier, which goes on as behind a letter. -/
theorem snakeCase_rawMark_append (identifier : Text) :
    snakeCase (rawMark ++ identifier) = rawMark ++ snakeCaseFrom true identifier := by
  rfl

end RecordSearch.Derive
