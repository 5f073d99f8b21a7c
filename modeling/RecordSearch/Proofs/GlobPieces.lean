import RecordSearch.Proofs.Completion
import RecordSearch.Proofs.EscapedTexts
import RecordSearch.Proofs.Foldings
import RecordSearch.Proofs.PlainTexts

/-!
# Globs as pieces

The stars of a glob part it into pieces.  The glob describes the texts that can be cut into a part
for each piece, the same character by character when they are folded, with any text between
neighbours.  These are the texts that a literal with stars accepts, and the ones in which the
written form of the glob matches.
-/

namespace RecordSearch

namespace Text

/-- The texts are the same character by character under folding. -/
def SameFolding (one other : Text) : Prop :=
  one.map fold = other.map fold

instance : DecidableRel SameFolding := fun one other =>
  inferInstanceAs (Decidable (one.map fold = other.map fold))

/-- The text consists of a part for each piece, of the same folding, and a text of any kind in front
of every part but the first. -/
def InPieces (pieces : List Text) (text : Text) : Prop :=
  ∃ (first : Text) (turns : List (Text × Text)),
    text = first ++ turns.flatMap (fun turn => turn.1 ++ turn.2) ∧
      List.Forall₂ SameFolding (first :: turns.map (·.2)) pieces

section Cuts

variable {character : Char} {piece text : Text} {pieces : List Text}

theorem sameFolding_nil_iff : SameFolding text [] ↔ text = [] := by
  rw [SameFolding, List.map_nil, List.map_eq_nil_iff]

theorem sameFolding_cons_iff :
    SameFolding text (character :: piece) ↔
      ∃ other rest, text = other :: rest ∧ fold other = fold character ∧
        SameFolding rest piece := by
  rw [SameFolding, List.map_cons, List.map_eq_cons_iff]
  rfl

theorem inPieces_singleton_iff : InPieces [piece] text ↔ SameFolding text piece := by
  constructor
  · rintro ⟨first, turns, rfl, same⟩
    obtain ⟨firstSame, none⟩ := List.forall₂_cons.1 same
    rw [List.forall₂_nil_right_iff, List.map_eq_nil_iff] at none
    rw [none, List.flatMap_nil, List.append_nil]
    exact firstSame
  · intro same
    exact ⟨text, [], (List.append_nil text).symm, .cons same .nil⟩

theorem inPieces_nil_cons_iff :
    InPieces ([] :: piece :: pieces) text ↔
      ∃ skipped rest, text = skipped ++ rest ∧ InPieces (piece :: pieces) rest := by
  constructor
  · rintro ⟨first, turns, rfl, same⟩
    obtain ⟨empty, further⟩ := List.forall₂_cons.1 same
    obtain rfl := sameFolding_nil_iff.1 empty
    cases turns with
    | nil => cases further
    | cons turn turns =>
        exact ⟨turn.1, turn.2 ++ turns.flatMap fun turn => turn.1 ++ turn.2, by simp,
          turn.2, turns, rfl, further⟩
  · rintro ⟨skipped, rest, rfl, first, turns, rfl, same⟩
    exact ⟨[], (skipped, first) :: turns, by simp, .cons (sameFolding_nil_iff.2 rfl) same⟩

theorem inPieces_cons_cons_iff :
    InPieces ((character :: piece) :: pieces) text ↔
      ∃ other rest, text = other :: rest ∧ fold other = fold character ∧
        InPieces (piece :: pieces) rest := by
  constructor
  · rintro ⟨first, turns, rfl, same⟩
    obtain ⟨firstSame, further⟩ := List.forall₂_cons.1 same
    obtain ⟨other, rest, rfl, folded, restSame⟩ := sameFolding_cons_iff.1 firstSame
    exact ⟨other, _, rfl, folded, rest, turns, rfl, .cons restSame further⟩
  · rintro ⟨other, rest, rfl, folded, first, turns, rfl, same⟩
    obtain ⟨firstSame, further⟩ := List.forall₂_cons.1 same
    exact ⟨other :: first, turns, rfl,
      .cons (sameFolding_cons_iff.2 ⟨other, first, rfl, folded, firstSame⟩) further⟩

end Cuts

end Text

namespace Regex

variable {glob text : Text}

/-- A glob describes what can be cut into its pieces. -/
theorem describes_iff_inPieces :
    Describes glob text ↔ Text.InPieces (Text.splitAt '*' glob) text := by
  induction glob generalizing text with
  | nil =>
      rw [describes_nil_iff, Text.splitAt, Text.inPieces_singleton_iff, Text.sameFolding_nil_iff]
  | cons character glob induction =>
      obtain ⟨piece, pieces, split⟩ := exists_splitAt glob
      by_cases star : character = '*'
      · subst star
        rw [describes_star_iff, splitAt_star, split, Text.inPieces_nil_cons_iff]
        simp only [induction, split]
      · rw [describes_letter_iff star, splitAt_letter star split, Text.inPieces_cons_cons_iff]
        simp only [induction, split, Text.mem_foldMates_iff, eq_comm]

theorem splitAt_of_not_mem (noStar : '*' ∉ text) : Text.splitAt '*' text = [text] := by
  induction text with
  | nil => rfl
  | cons character text induction =>
      rw [List.mem_cons, not_or] at noStar
      exact splitAt_letter (Ne.symm noStar.1) (induction noStar.2)

theorem describes_iff_sameFolding (noStar : '*' ∉ glob) :
    Describes glob text ↔ Text.SameFolding text glob := by
  rw [describes_iff_inPieces, splitAt_of_not_mem noStar, Text.inPieces_singleton_iff]

end Regex

namespace Matcher

variable {literal text : Text} {matcher : Matcher}

/-- An unadorned literal with a star, and with more than that. -/
structure IsGlob (literal : Text) : Prop extends IsUnadorned literal where
  starred : '*' ∈ literal
  several : literal ≠ wildcard

instance : DecidablePred IsGlob := fun literal =>
  decidable_of_iff (IsUnadorned literal ∧ '*' ∈ literal ∧ literal ≠ wildcard)
    ⟨fun glob => ⟨glob.1, glob.2.1, glob.2.2⟩,
      fun glob => ⟨glob.toIsUnadorned, glob.starred, glob.several⟩⟩

variable [PropertyTable]

theorem IsGlob.compile_string (glob : IsGlob literal) :
    compile .string literal = (Regex.readGlob literal).map .pattern := by
  rw [glob.toIsUnadorned.compile_string glob.several, if_pos glob.starred]

theorem IsGlob.accepts_iff (glob : IsGlob literal)
    (compiled : compile .string literal = some matcher) :
    matcher.accepts (.string text) = true ↔ Regex.Describes literal text := by
  rw [glob.compile_string] at compiled
  obtain ⟨expression, fits, rfl⟩ := Option.map_eq_some_iff.1 compiled
  obtain rfl := Regex.eq_of_fit fits
  exact Regex.matchesIn_ofGlob_iff

/-- The written form of a glob is always a regular expression, and the literal compiles if this
expression is small enough.  It accepts the texts in which the expression matches, which are the
ones that can be cut into its pieces. -/
theorem accepts_iff_inPieces (glob : IsGlob literal) :
    ∃ expression, Regex.read (Regex.globForm literal) = some expression ∧
      (compile .string literal).isSome = expression.fit.isSome ∧
      ∀ matcher, compile .string literal = some matcher → ∀ text,
        (matcher.accepts (.string text) = true ↔ expression.matchesIn text = true) ∧
        (matcher.accepts (.string text) = true ↔
          Text.InPieces (Text.splitAt '*' literal) text) := by
  refine ⟨_, Regex.read_globForm literal, ?_, fun matcher compiled text => ?_⟩
  · rw [glob.compile_string, Option.isSome_map, Regex.fit_globExpression_isSome]
    rfl
  · rw [glob.accepts_iff compiled, Regex.matchesIn_globExpression, Regex.matchesIn_ofGlob_iff]
    exact ⟨Iff.rfl, Regex.describes_iff_inPieces⟩

end Matcher

namespace Samples

open Matcher

/-- What begins with the initial, also when lines follow. -/
theorem accepts_iff_inPieces_initial :
    IsGlob "A*".toList ∧ ∃ matcher, compile .string "A*".toList = some matcher ∧
      matcher.accepts (.string "ada\nlovelace".toList) = true := by
  have glob : IsGlob "A*".toList := by decide +kernel
  obtain ⟨_, -, -, accepts⟩ := accepts_iff_inPieces glob
  obtain ⟨matcher, compiled⟩ : ∃ matcher, compile .string "A*".toList = some matcher := by
    rw [glob.compile_string, ← Option.ne_none_iff_exists', ne_eq, Option.map_eq_none_iff]
    exact readGlob_initial
  have cut : Text.InPieces (Text.splitAt '*' "A*".toList) "ada\nlovelace".toList := by
    have initial : Text.SameFolding ['a'] ['A'] := by decide +kernel
    exact ⟨['a'], [("da\nlovelace".toList, [])], rfl, .cons initial (.cons rfl .nil)⟩
  exact ⟨glob, matcher, compiled, (accepts matcher compiled _).2.2 cut⟩

end Samples

end RecordSearch
