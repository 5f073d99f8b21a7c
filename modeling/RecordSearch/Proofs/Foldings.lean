import Mathlib.Data.List.Chain
import RecordSearch.Proofs.LetterCase

/-!
# Folding as an equivalence

Simple case folding sends every letter to a representative, and folding a representative changes
nothing.  So the mates of a letter, which are computed from the table backwards, are exactly the
characters of the same folding.
-/

namespace RecordSearch.Text

variable {character one other : Char} {shifts : List Shift} {shift : Shift} {code : Nat}

namespace Shift

/-- What the second shift moves lies behind what the first one does. -/
def Precedes (first second : Shift) : Prop :=
  first.last < second.first ∧ second.first ≤ second.last

instance : DecidableRel Precedes := fun _ _ =>
  inferInstanceAs (Decidable (_ ∧ _))

instance : IsTrans Shift Precedes where
  trans first second third := by
    unfold Precedes
    omega

/-- Nothing that the one shift moves comes to a code point that the other one moves: it comes to
none of its range, or to those between the ones that are moved. -/
def misses (shift other : Shift) : Bool :=
  Nat.blt (shift.target shift.last) other.first ||
    Nat.blt other.last (shift.target shift.first) ||
    (Nat.beq other.stride 2 && (Nat.beq shift.stride 2 || Nat.beq shift.first shift.last) &&
      Nat.beq ((shift.target shift.first + other.first) % 2) 1)

def StartsAtCharacters (shift : Shift) : Prop :=
  shift.last < 0xD800 ∨ 0xDFFF < shift.first ∧ shift.last < 0x110000

instance : DecidablePred StartsAtCharacters := fun _ =>
  inferInstanceAs (Decidable (_ ∨ _))

theorem moves_iff :
    shift.moves code = true ↔
      (shift.first ≤ code ∧ code ≤ shift.last) ∧ (code - shift.first) % shift.stride = 0 := by
  simp [moves]

theorem StartsAtCharacters.toNat_ofNat (characters : shift.StartsAtCharacters)
    (moves : shift.moves code = true) : (Char.ofNat code).toNat = code := by
  have bounds := bounds_of_moves moves
  have valid : code.isValidChar := by
    unfold StartsAtCharacters at characters
    unfold Nat.isValidChar
    omega
  rw [Char.ofNat, dif_pos valid]
  rfl

theorem moves_eq_false_of_misses {other : Shift} (sound : shift.Sound)
    (missed : shift.misses other = true) (moves : shift.moves code = true) :
    other.moves (shift.target code) = false := by
  have bounds := bounds_of_moves moves
  have target := sound.target_eq moves
  have stride := (moves_iff.1 moves).2
  rw [Bool.eq_false_iff, ne_eq, moves_iff]
  intro further
  obtain ⟨inside, otherStride⟩ := further
  simp only [misses, Bool.or_eq_true, Bool.and_eq_true, Nat.blt_eq, Nat.beq_eq] at missed
  unfold Sound at sound
  unfold Shift.target at missed target inside otherStride
  rcases missed with (above | below) | ⟨⟨otherTwo, two | single⟩, odd⟩
  · omega
  · omega
  · rw [two] at stride
    rw [otherTwo] at otherStride
    omega
  · rw [otherTwo] at otherStride
    omega

end Shift

section Tables

theorem find?_of_moves (ordered : shifts.Pairwise Shift.Precedes) (member : shift ∈ shifts)
    (moves : shift.moves code = true) : shifts.find? (·.moves code) = some shift := by
  induction shifts with
  | nil => cases member
  | cons first rest induction =>
      obtain ⟨before, restOrdered⟩ := List.pairwise_cons.1 ordered
      rcases List.mem_cons.1 member with rfl | behind
      · exact List.find?_cons_of_pos moves
      · have still : ¬first.moves code = true := by
          intro moved
          have here := Shift.bounds_of_moves moved
          have there := Shift.bounds_of_moves moves
          have apart := (before shift behind).1
          omega
        rw [List.find?_cons, Bool.eq_false_iff.2 still]
        exact induction restOrdered behind

theorem ordered_foldingShifts : foldingShifts.Pairwise Shift.Precedes := by
  have chain : foldingShifts.IsChain Shift.Precedes := by decide +kernel
  exact List.isChain_iff_pairwise.1 chain

theorem misses_foldingShifts :
    ∀ shift ∈ foldingShifts, ∀ other ∈ foldingShifts, shift.misses other = true := by
  have all : (foldingShifts.all fun shift => foldingShifts.all shift.misses) = true := by
    decide +kernel
  simpa only [List.all_eq_true] using all

theorem startAtCharacters_foldingShifts : ∀ shift ∈ foldingShifts, shift.StartsAtCharacters := by
  decide +kernel

theorem fold_of_moves (member : shift ∈ foldingShifts)
    (moves : shift.moves character.toNat = true) :
    fold character = Char.ofNat (shift.target character.toNat) :=
  shiftChar_eq_target (find?_of_moves ordered_foldingShifts member moves)

@[simp]
theorem fold_fold (character : Char) : fold (fold character) = fold character := by
  cases found : foldingShifts.find? (·.moves character.toNat) with
  | none =>
      have fixed : fold character = character := shiftChar_eq_self found
      rw [fixed, fixed]
  | some shift =>
      have member := List.mem_of_find?_eq_some found
      have moves := List.find?_some found
      have sound := sound_foldingShifts shift member
      rw [fold_of_moves member moves]
      apply shiftChar_eq_self
      rw [sound.toNat_target moves, List.find?_eq_none]
      intro other otherMember
      rw [Shift.moves_eq_false_of_misses sound (misses_foldingShifts shift member other otherMember)
        moves]
      exact Bool.false_ne_true

theorem Shift.moves_of_source? {before : Nat} (back : shift.source? code = some before) :
    shift.moves before = true ∧ shift.target before = code := by
  simp only [Shift.source?, Option.ite_none_right_eq_some, Bool.and_eq_true, beq_iff_eq,
    Option.some.injEq] at back
  obtain ⟨source, rfl⟩ := back
  exact source

theorem mem_foldMates_iff : one ∈ foldMates other ↔ fold one = fold other := by
  constructor
  · intro mate
    rcases List.mem_cons.1 mate with rfl | further
    · exact fold_fold other
    · obtain ⟨shift, member, source⟩ := List.mem_filterMap.1 further
      obtain ⟨before, back, rfl⟩ := Option.map_eq_some_iff.1 source
      obtain ⟨moves, target⟩ := Shift.moves_of_source? back
      have code := (startAtCharacters_foldingShifts shift member).toNat_ofNat moves
      rw [fold_of_moves member (by rwa [code]), code, target, Char.ofNat_toNat]
  · exact mem_foldMates_of_fold_eq

end Tables

end RecordSearch.Text
