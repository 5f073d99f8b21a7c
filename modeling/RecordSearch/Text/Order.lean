import RecordSearch.Text.Basic

/-!
# The order of texts

Texts are ordered by the code points of their characters: the first difference
decides, and a text comes behind its own beginnings.  The order is strict and
tells any two texts apart.
-/

namespace RecordSearch.Text

def precedes : Text → Text → Bool
  | _, [] => false
  | [], _ :: _ => true
  | left :: lefts, right :: rights =>
      if left = right then precedes lefts rights else left.toNat < right.toNat

@[simp]
theorem precedes_cons_self (character : Char) (lefts rights : Text) :
    precedes (character :: lefts) (character :: rights) = precedes lefts rights := by
  simp [precedes]

theorem precedes_cons_of_ne {left right : Char} (apart : left ≠ right)
    (lefts rights : Text) :
    precedes (left :: lefts) (right :: rights) = true ↔ left.toNat < right.toNat := by
  simp [precedes, apart]

theorem precedes_irrefl (text : Text) : precedes text text = false := by
  induction text with
  | nil => rfl
  | cons character text induction => rw [precedes_cons_self, induction]

theorem precedes_trans {first second third : Text}
    (before : precedes first second = true) (behind : precedes second third = true) :
    precedes first third = true := by
  induction first generalizing second third with
  | nil =>
      cases third with
      | nil => cases second <;> simp [precedes] at behind
      | cons character text => rfl
  | cons left lefts induction =>
      cases second with
      | nil => simp [precedes] at before
      | cons middle middles =>
          cases third with
          | nil => simp [precedes] at behind
          | cons right rights =>
              by_cases sameLeft : left = middle
              · subst middle
                by_cases sameRight : left = right
                · subst right
                  rw [precedes_cons_self] at before behind ⊢
                  exact induction before behind
                · rw [precedes_cons_of_ne sameRight] at behind ⊢
                  exact behind
              · rw [precedes_cons_of_ne sameLeft] at before
                by_cases sameRight : middle = right
                · subst right
                  rw [precedes_cons_of_ne sameLeft]
                  exact before
                · rw [precedes_cons_of_ne sameRight] at behind
                  have apart : left ≠ right := by
                    rintro rfl
                    exact Nat.lt_asymm before behind
                  rw [precedes_cons_of_ne apart]
                  exact Nat.lt_trans before behind

theorem precedes_of_not_precedes {left right : Text} (different : left ≠ right)
    (notBehind : ¬precedes right left = true) : precedes left right = true := by
  induction left generalizing right with
  | nil =>
      cases right with
      | nil => exact absurd rfl different
      | cons character text => rfl
  | cons character lefts induction =>
      cases right with
      | nil => exact absurd rfl notBehind
      | cons other rights =>
          by_cases same : character = other
          · subst other
            rw [precedes_cons_self] at notBehind ⊢
            exact induction (fun same => different (by rw [same])) notBehind
          · rw [precedes_cons_of_ne (Ne.symm same)] at notBehind
            rw [precedes_cons_of_ne same]
            have codes : character.toNat ≠ other.toNat := fun codes =>
              same (Char.ext (UInt32.toNat.inj codes))
            exact Nat.lt_of_le_of_ne (Nat.le_of_not_lt notBehind) codes

end RecordSearch.Text
