import RecordSearch.Pattern.Basic
import RecordSearch.Proofs.LetterCase
import RecordSearch.Proofs.Widening

/-!
# What globs describe

A glob describes a value character by character: a star any text, every other character one that
differs from it in case only.  The expression of a glob matches in exactly these values, since it
has to match from end to end.
-/

namespace RecordSearch.Regex

open Text (foldMates)

variable {character : Char} {text glob front back : Text} {start stop : Nat}

/-- The glob describes the whole text. -/
inductive Describes : Text → Text → Prop
  | nil : Describes [] []
  | star {glob skipped text : Text} :
      Describes glob text → Describes ('*' :: glob) (skipped ++ text)
  | letter {letter character : Char} {glob text : Text} :
      letter ≠ '*' → letter ∈ foldMates character → Describes glob text →
      Describes (letter :: glob) (character :: text)

section Descriptions

theorem describes_nil_iff : Describes [] text ↔ text = [] := by
  constructor
  · intro describes
    cases describes
    rfl
  · rintro rfl
    exact .nil

theorem describes_star_iff :
    Describes ('*' :: glob) text ↔
      ∃ skipped rest, text = skipped ++ rest ∧ Describes glob rest := by
  constructor
  · intro describes
    cases describes with
    | star rest => exact ⟨_, _, rfl, rest⟩
    | letter notStar => exact absurd rfl notStar
  · rintro ⟨skipped, rest, rfl, describes⟩
    exact .star describes

theorem describes_letter_iff (notStar : character ≠ '*') :
    Describes (character :: glob) text ↔
      ∃ other rest, text = other :: rest ∧ character ∈ foldMates other ∧ Describes glob rest := by
  constructor
  · intro describes
    cases describes with
    | star => exact absurd rfl notStar
    | letter _ mate rest => exact ⟨_, _, rfl, mate, rest⟩
  · rintro ⟨other, rest, rfl, mate, describes⟩
    exact .letter notStar mate describes

/-- From its place in a text on, a star goes on to any later place. -/
theorem describes_star_drop_iff (inside : start ≤ text.length) :
    Describes ('*' :: glob) (text.drop start) ↔
      ∃ middle, start ≤ middle ∧ middle ≤ text.length ∧ Describes glob (text.drop middle) := by
  rw [describes_star_iff]
  constructor
  · rintro ⟨skipped, rest, parts, describes⟩
    have lengths := congrArg List.length parts
    rw [List.length_drop, List.length_append] at lengths
    refine ⟨start + skipped.length, Nat.le_add_right _ _, by omega, ?_⟩
    rwa [← List.drop_drop, parts, List.drop_left]
  · rintro ⟨middle, forward, _, describes⟩
    refine ⟨(text.drop start).take (middle - start), text.drop middle, ?_, describes⟩
    have behind : (text.drop start).drop (middle - start) = text.drop middle := by
      rw [List.drop_drop, Nat.add_sub_cancel' forward]
    rw [← behind, List.take_append_drop]

theorem describes_letter_drop_iff (notStar : character ≠ '*') :
    Describes (character :: glob) (text.drop start) ↔
      ∃ other, text[start]? = some other ∧ character ∈ foldMates other ∧
        Describes glob (text.drop (start + 1)) := by
  rw [describes_letter_iff notStar]
  constructor
  · rintro ⟨other, rest, parts, mate, describes⟩
    have present : text[start]? = some other := by
      rw [← List.head?_drop, parts, List.head?_cons]
    have behind : text.drop (start + 1) = rest := by
      rw [← List.tail_drop, parts, List.tail_cons]
    exact ⟨other, present, mate, behind ▸ describes⟩
  · rintro ⟨other, present, mate, describes⟩
    obtain ⟨within, rfl⟩ := List.getElem?_eq_some_iff.1 present
    exact ⟨_, _, List.drop_eq_getElem_cons within, mate, describes⟩

theorem describes_append_iff :
    Describes (front ++ back) text ↔
      ∃ first second, text = first ++ second ∧ Describes front first ∧ Describes back second := by
  constructor
  · intro describes
    induction front generalizing text with
    | nil => exact ⟨[], text, rfl, .nil, describes⟩
    | cons character front induction =>
        rw [List.cons_append] at describes
        by_cases star : character = '*'
        · subst star
          obtain ⟨skipped, rest, rfl, further⟩ := describes_star_iff.1 describes
          obtain ⟨first, second, rfl, inFront, inBack⟩ := induction further
          exact ⟨skipped ++ first, second, (List.append_assoc _ _ _).symm, .star inFront, inBack⟩
        · obtain ⟨other, rest, rfl, mate, further⟩ := (describes_letter_iff star).1 describes
          obtain ⟨first, second, rfl, inFront, inBack⟩ := induction further
          exact ⟨other :: first, second, rfl, .letter star mate inFront, inBack⟩
  · rintro ⟨first, second, rfl, inFront, inBack⟩
    induction inFront with
    | nil => exact inBack
    | star _ induction =>
        rw [List.append_assoc]
        exact .star induction
    | letter notStar mate _ induction => exact .letter notStar mate induction

theorem describes_anything (text : Text) : Describes ['*'] text :=
  describes_star_iff.2 ⟨text, [], (List.append_nil text).symm, .nil⟩

theorem describes_of_map_fold_eq (noStar : '*' ∉ glob)
    (same : text.map Text.fold = glob.map Text.fold) : Describes glob text := by
  induction glob generalizing text with
  | nil =>
      rw [List.map_nil, List.map_eq_nil_iff] at same
      exact describes_nil_iff.2 same
  | cons character glob induction =>
      obtain ⟨other, rest, rfl, sameCharacter, sameRest⟩ := List.map_eq_cons_iff.1 same
      rw [List.mem_cons, not_or] at noStar
      exact .letter (Ne.symm noStar.1) (Text.mem_foldMates_of_fold_eq sameCharacter.symm)
        (induction noStar.2 sameRest)

/-- A glob with a star at the end describes the values that begin like the rest of it. -/
theorem describes_concat_star_iff :
    Describes (glob ++ ['*']) text ↔
      ∃ first second, text = first ++ second ∧ Describes glob first := by
  rw [describes_append_iff]
  simp only [describes_anything, and_true]

theorem Describes.concat_star (describes : Describes glob text) : Describes (glob ++ ['*']) text :=
  describes_concat_star_iff.2 ⟨text, [], (List.append_nil text).symm, describes⟩

end Descriptions

section Expressions

variable {characters : Array Char} {piece : Text} {texts : List Text} {expressions : List Regex}

theorem within_all {count : Nat} (inside : start + count ≤ characters.size) :
    Within (Spans characters (.set CharSet.all)) count start (start + count) := by
  induction count generalizing start with
  | zero => exact .here
  | succ count induction =>
      have present : characters[start]? = some characters[start] :=
        Array.getElem?_eq_getElem (by omega)
      have further : Within (Spans characters (.set CharSet.all)) count (start + 1)
          (start + 1 + count) := induction (by omega)
      rw [Nat.add_assoc, Nat.add_comm 1] at further
      exact .step (.set present rfl) further

theorem spans_anything_iff (inside : start ≤ characters.size) :
    Spans characters anything start stop ↔ start ≤ stop ∧ stop ≤ characters.size := by
  constructor
  · intro spans
    have forward := spans.forward
    omega
  · intro bounds
    obtain ⟨forward, bounded⟩ := bounds
    obtain ⟨count, rfl⟩ := Nat.exists_eq_add_of_le forward
    exact spans_repeated_none_iff.2 ((within_all bounded).mono (by omega))

theorem spans_letter_iff :
    Spans characters (letter true character) start stop ↔
      stop = start + 1 ∧
        ∃ other, characters[start]? = some other ∧ character ∈ foldMates other := by
  have has (other : Char) :
      (CharSet.anyCase (CharSet.single character)).has other = true ↔
        character ∈ foldMates other := by
    rw [CharSet.has, List.any_eq_true]
    constructor
    · rintro ⟨mate, member, single⟩
      simp only [CharSet.single, CharSet.has, Bool.and_eq_true, decide_eq_true_eq] at single
      obtain rfl : mate = character := Char.toNat_inj.1 (Nat.le_antisymm single.2 single.1)
      exact member
    · intro member
      exact ⟨character, member, by simp [CharSet.single, CharSet.has]⟩
  rw [letter, CharSet.foldIf, if_pos rfl, spans_set_iff, Option.any_eq_true]
  simp only [has]

theorem Chain.forward (chain : Chain characters expressions start stop) :
    start ≤ stop ∧ (start < stop → stop ≤ characters.size) := by
  induction expressions generalizing start with
  | nil =>
      obtain rfl : start = stop := chain
      omega
  | cons expression expressions induction =>
      obtain ⟨middle, spans, rest⟩ := chain
      have first := spans.forward
      have second := induction rest
      omega

/-- The expressions for the pieces of a glob behind the first. -/
def furtherPieces : List Text → List Regex
  | [] => []
  | texts => anything :: pieces texts

theorem pieces_cons (piece : Text) (texts : List Text) :
    pieces (piece :: texts) = literal piece :: furtherPieces texts := by
  cases texts <;> rfl

theorem pieces_cons_cons (piece next : Text) (texts : List Text) :
    pieces (piece :: next :: texts) = literal piece :: anything :: pieces (next :: texts) :=
  rfl

theorem furtherPieces_cons (piece : Text) (texts : List Text) :
    furtherPieces (piece :: texts) = anything :: pieces (piece :: texts) :=
  rfl

theorem chain_literal_nil_iff :
    Chain characters (literal [] :: expressions) start stop ↔
      Chain characters expressions start stop := by
  simp [Chain, literal, concatenation, spans_nothing_iff]

theorem chain_literal_cons_iff :
    Chain characters (literal (character :: piece) :: expressions) start stop ↔
      ∃ middle, Spans characters (letter true character) start middle ∧
        Chain characters (literal piece :: expressions) middle stop := by
  simp only [Chain, literal, spans_concatenation_iff, List.map_cons]
  constructor
  · rintro ⟨next, ⟨middle, first, inPiece⟩, rest⟩
    exact ⟨middle, first, next, inPiece, rest⟩
  · rintro ⟨middle, first, next, inPiece, rest⟩
    exact ⟨next, ⟨middle, first, inPiece⟩, rest⟩

theorem splitAt_star (text : Text) :
    Text.splitAt '*' ('*' :: text) = [] :: Text.splitAt '*' text := by
  rw [Text.splitAt, if_pos rfl]

theorem exists_splitAt (text : Text) : ∃ piece texts, Text.splitAt '*' text = piece :: texts := by
  cases text with
  | nil => exact ⟨[], [], rfl⟩
  | cons character text =>
      unfold Text.splitAt
      split
      · exact ⟨_, _, rfl⟩
      · split
        · exact ⟨_, _, rfl⟩
        · exact ⟨_, _, rfl⟩

theorem splitAt_letter (notStar : character ≠ '*')
    (rest : Text.splitAt '*' text = piece :: texts) :
    Text.splitAt '*' (character :: text) = (character :: piece) :: texts := by
  rw [Text.splitAt, if_neg notStar, rest]

/-- The pieces match up to the end of the text in what the glob describes. -/
theorem chain_pieces_iff (inside : start ≤ text.length) :
    Chain text.toArray (pieces (Text.splitAt '*' glob)) start text.length ↔
      Describes glob (text.drop start) := by
  induction glob generalizing start with
  | nil =>
      have empty : text.drop start = [] ↔ start = text.length := by
        rw [List.drop_eq_nil_iff]
        omega
      rw [Text.splitAt, pieces, chain_literal_nil_iff, describes_nil_iff, empty]
      exact Iff.rfl
  | cons character glob induction =>
      obtain ⟨piece, texts, split⟩ := exists_splitAt glob
      by_cases star : character = '*'
      · subst star
        rw [splitAt_star, pieces_cons, chain_literal_nil_iff, describes_star_drop_iff inside, split,
          furtherPieces_cons, Chain, ← split]
        have skips (middle : Nat) : Spans text.toArray anything start middle ↔
            start ≤ middle ∧ middle ≤ text.length := spans_anything_iff inside
        simp only [skips, and_assoc]
        refine exists_congr fun middle => and_congr_right fun _ => and_congr_right fun bounded => ?_
        exact induction bounded
      · rw [splitAt_letter star split, pieces_cons, chain_literal_cons_iff,
          describes_letter_drop_iff star, ← pieces_cons, ← split]
        simp only [spans_letter_iff, List.getElem?_toArray]
        constructor
        · rintro ⟨_, ⟨rfl, other, present, mate⟩, rest⟩
          obtain ⟨within, _⟩ := List.getElem?_eq_some_iff.1 present
          exact ⟨other, present, mate, (induction within).1 rest⟩
        · rintro ⟨other, present, mate, describes⟩
          obtain ⟨within, _⟩ := List.getElem?_eq_some_iff.1 present
          exact ⟨start + 1, ⟨rfl, other, present, mate⟩, (induction within).2 describes⟩

theorem before_eq_none_iff (inside : start ≤ characters.size) :
    before characters start = none ↔ start = 0 := by
  unfold before
  split
  next zero => simp [zero]
  next positive => simp [positive]; omega

theorem holds_textStart_iff (inside : start ≤ characters.size) :
    Boundary.textStart.holds (before characters start) characters[start]? = true ↔ start = 0 := by
  rw [Boundary.holds, Option.isNone_iff_eq_none, before_eq_none_iff inside]

theorem holds_textEnd_iff :
    Boundary.textEnd.holds (before characters start) characters[start]? = true ↔
      characters.size ≤ start := by
  rw [Boundary.holds, Option.isNone_iff_eq_none, Array.getElem?_eq_none_iff]

/-- A glob matches exactly in the values that it describes. -/
theorem matchesIn_ofGlob_iff : (ofGlob glob).matchesIn text = true ↔ Describes glob text := by
  have whole : Chain text.toArray (pieces (Text.splitAt '*' glob)) 0 text.length ↔
      Describes glob text := chain_pieces_iff (Nat.zero_le _)
  rw [matchesIn_iff, ← whole]
  simp only [ofGlob, spans_concatenation_iff, Chain, chain_append_iff, spans_edge_iff,
    holds_textEnd_iff, List.size_toArray]
  constructor
  · rintro ⟨start, inside, stop, _, ⟨rfl, atStart⟩, last, matched, _, ⟨rfl, atEnd⟩, rfl⟩
    obtain rfl := (holds_textStart_iff (by simpa using inside)).1 atStart
    have forward := matched.forward
    rw [List.size_toArray] at forward
    obtain rfl : last = text.length := by omega
    exact matched
  · intro matched
    refine ⟨0, Nat.zero_le _, text.length, 0, ⟨rfl, ?_⟩, text.length, matched, _,
      ⟨rfl, Nat.le_refl _⟩, rfl⟩
    exact (holds_textStart_iff (Nat.zero_le _)).2 rfl

end Expressions

end RecordSearch.Regex
