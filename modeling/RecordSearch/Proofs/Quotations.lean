import Mathlib.Algebra.Group.Nat.Even
import Mathlib.Data.List.Basic
import RecordSearch.Proofs.Trimming
import RecordSearch.Text.Quoted

/-!
# Texts with quotations

A quotation is open wherever an odd number of double quotes stands before.  A text is cut at the
separators at which none is open.  So each piece holds separators only inside its quotations, and
each piece before another one closes its quotations; there is only one way to cut a text like this.
-/

namespace RecordSearch.Text

variable {separator character : Char} {quoted : Bool} {text other front back : Text}
  {pieces : List Text}

/-- Every quotation in the text is closed: the number of double quotes is even. -/
def Closed (text : Text) : Prop :=
  Even (text.count '"')

instance : DecidablePred Closed := fun text =>
  inferInstanceAs (Decidable (Even (text.count '"')))

def inQuotes (text : Text) : Text :=
  '"' :: text ++ ['"']

/-- The mark stands in the text only inside quotations. -/
def Encloses (mark : Char) (text : Text) : Prop :=
  ∀ before after, text = before ++ mark :: after → ¬Closed before

/-- The pieces can be the pieces of a text that is cut at the separators outside quotations. -/
structure IsCut (separator : Char) (pieces : List Text) : Prop where
  nonempty : pieces ≠ []
  /-- Each piece before another one is closed. -/
  closed : pieces.Pairwise fun piece _ => Closed piece
  enclosed : ∀ piece ∈ pieces, Encloses separator piece

section Closed

@[simp]
theorem closed_nil : Closed [] :=
  Even.zero

theorem closed_append_iff (frontClosed : Closed front) :
    Closed (front ++ back) ↔ Closed back := by
  unfold Closed at frontClosed ⊢
  rw [List.count_append, Nat.even_add, iff_true_left frontClosed]

theorem closed_cons_iff (unquoted : character ≠ '"') :
    Closed (character :: text) ↔ Closed text := by
  unfold Closed
  rw [List.count_cons_of_ne unquoted]

theorem closed_of_not_mem (unquoted : '"' ∉ text) : Closed text := by
  rw [Closed, List.count_eq_zero.2 unquoted]
  exact Even.zero

/-- Starting inside a quotation if `quoted`, the text ends outside of quotations. -/
def ClosesFrom (quoted : Bool) (text : Text) : Prop :=
  Closed text ↔ quoted = false

/-- Starting inside a quotation if `quoted`, the text has the mark only inside quotations. -/
def EnclosesFrom (quoted : Bool) (mark : Char) (text : Text) : Prop :=
  ∀ before after, text = before ++ mark :: after → ¬ClosesFrom quoted before

/-- Whether a quotation is open behind a character, if before it one is open if `quoted`. -/
def openBehind (quoted : Bool) (character : Char) : Bool :=
  if character = '"' then !quoted else quoted

@[simp]
theorem closesFrom_false_iff : ClosesFrom false text ↔ Closed text := by
  simp [ClosesFrom]

@[simp]
theorem closesFrom_nil_iff : ClosesFrom quoted [] ↔ quoted = false := by
  simp [ClosesFrom]

theorem closesFrom_cons_iff :
    ClosesFrom quoted (character :: text) ↔ ClosesFrom (openBehind quoted character) text := by
  unfold ClosesFrom Closed openBehind
  by_cases quote : character = '"'
  · subst quote
    rw [List.count_cons_self, Nat.even_add_one, if_pos rfl]
    cases quoted <;> simp
  · rw [List.count_cons_of_ne quote, if_neg quote]

theorem enclosesFrom_false_iff : EnclosesFrom false separator text ↔ Encloses separator text := by
  simp [EnclosesFrom, Encloses]

theorem enclosesFrom_of_not_mem (absent : separator ∉ text) :
    EnclosesFrom quoted separator text := by
  intro before after parts
  rw [parts] at absent
  exact absurd (List.mem_append_right before List.mem_cons_self) absent

theorem EnclosesFrom.head (enclosed : EnclosesFrom quoted separator (character :: text)) :
    ¬(character = separator ∧ quoted = false) := by
  intro cut
  obtain ⟨rfl, outside⟩ := cut
  exact enclosed [] text rfl (closesFrom_nil_iff.2 outside)

theorem EnclosesFrom.tail (enclosed : EnclosesFrom quoted separator (character :: text)) :
    EnclosesFrom (openBehind quoted character) separator text := by
  intro before after parts closes
  exact enclosed (character :: before) after (by rw [parts]; rfl) (closesFrom_cons_iff.2 closes)

end Closed

section Splitting

theorem extendFirst_append (nonempty : pieces ≠ []) (others : List Text) :
    extendFirst character (pieces ++ others) = extendFirst character pieces ++ others := by
  cases pieces with
  | nil => exact absurd rfl nonempty
  | cons piece pieces => rfl

theorem splitFrom_cons (differs : separator ≠ '"') :
    splitFrom separator quoted (character :: text) =
      if character = separator ∧ quoted = false then
        [] :: splitFrom separator false text
      else
        extendFirst character (splitFrom separator (openBehind quoted character) text) := by
  unfold openBehind
  by_cases quote : character = '"'
  · subst quote
    simp [splitFrom, Ne.symm differs]
  · by_cases cut : character = separator ∧ quoted = false
    · simp [splitFrom, cut, differs]
    · simp [splitFrom, quote, cut]

theorem splitFrom_ne_nil (separator : Char) (quoted : Bool) (text : Text) :
    splitFrom separator quoted text ≠ [] := by
  have extended (character : Char) (pieces : List Text) : extendFirst character pieces ≠ [] := by
    cases pieces <;> exact nofun
  cases text with
  | nil => exact nofun
  | cons character text =>
      unfold splitFrom
      split
      · exact extended _ _
      · split
        · exact nofun
        · exact extended _ _

/-- A separator behind closed quotations cuts the text in two, which are cut each for itself. -/
theorem splitFrom_append (differs : separator ≠ '"') (closes : ClosesFrom quoted front) :
    splitFrom separator quoted (front ++ separator :: back) =
      splitFrom separator quoted front ++ splitUnquoted separator back := by
  induction front generalizing quoted with
  | nil =>
      rw [List.nil_append, splitFrom_cons differs, if_pos ⟨rfl, closesFrom_nil_iff.1 closes⟩]
      rfl
  | cons character front induction =>
      rw [List.cons_append, splitFrom_cons differs, splitFrom_cons differs]
      by_cases cut : character = separator ∧ quoted = false
      · obtain ⟨rfl, rfl⟩ := cut
        rw [closesFrom_cons_iff, openBehind, if_neg differs] at closes
        simp only [and_self, if_true, induction closes, List.cons_append]
      · rw [if_neg cut, if_neg cut, induction (closesFrom_cons_iff.1 closes),
          extendFirst_append (splitFrom_ne_nil _ _ _)]

theorem splitUnquoted_append (differs : separator ≠ '"') (closed : Closed front) :
    splitUnquoted separator (front ++ separator :: back) =
      splitUnquoted separator front ++ splitUnquoted separator back :=
  splitFrom_append differs (closesFrom_false_iff.2 closed)

/-- The last piece of a text goes on in the text that is written behind. -/
theorem exists_splitFrom_append (quoted : Bool) (text back : Text) (differs : separator ≠ '"') :
    ∃ pieces last behind first rest, splitFrom separator quoted text = pieces ++ [last] ∧
      splitFrom separator behind back = first :: rest ∧
      splitFrom separator quoted (text ++ back) = pieces ++ (last ++ first) :: rest := by
  induction text generalizing quoted with
  | nil =>
      obtain ⟨first, rest, split⟩ :=
        List.exists_cons_of_ne_nil (splitFrom_ne_nil separator quoted back)
      exact ⟨[], [], quoted, first, rest, rfl, split, split⟩
  | cons character text induction =>
      rw [List.cons_append, splitFrom_cons differs, splitFrom_cons differs]
      by_cases cut : character = separator ∧ quoted = false
      · obtain ⟨pieces, last, behind, first, rest, split, splitBack, longer⟩ := induction false
        refine ⟨[] :: pieces, last, behind, first, rest, ?_, splitBack, ?_⟩
        · rw [if_pos cut, split, List.cons_append]
        · rw [if_pos cut, longer, List.cons_append]
      · obtain ⟨pieces, last, behind, first, rest, split, splitBack, longer⟩ :=
          induction (openBehind quoted character)
        rw [if_neg cut, if_neg cut, split, longer]
        cases pieces with
        | nil => exact ⟨[], character :: last, behind, first, rest, rfl, splitBack, rfl⟩
        | cons piece pieces =>
            exact ⟨(character :: piece) :: pieces, last, behind, first, rest, rfl, splitBack, rfl⟩

theorem splitFrom_of_enclosesFrom (differs : separator ≠ '"')
    (enclosed : EnclosesFrom quoted separator text) :
    splitFrom separator quoted text = [text] := by
  induction text generalizing quoted with
  | nil => rfl
  | cons character text induction =>
      rw [splitFrom_cons differs, if_neg enclosed.head, induction enclosed.tail]
      rfl

theorem splitUnquoted_of_encloses (differs : separator ≠ '"') (enclosed : Encloses separator text) :
    splitUnquoted separator text = [text] :=
  splitFrom_of_enclosesFrom differs (enclosesFrom_false_iff.2 enclosed)

end Splitting

section Cuts

theorem join_cons_cons {piece next : Text} :
    join [separator] (piece :: next :: pieces) =
      piece ++ separator :: join [separator] (next :: pieces) := by
  simp [join]

theorem isCut_singleton_iff : IsCut separator [text] ↔ Encloses separator text := by
  constructor
  · exact fun cut => cut.enclosed text (List.mem_singleton_self text)
  · intro enclosed
    exact ⟨nofun, List.pairwise_singleton _ _, List.forall_mem_singleton.2 enclosed⟩

theorem IsCut.sublist {others : List Text} (cut : IsCut separator pieces)
    (sub : others.Sublist pieces) (nonempty : others ≠ []) : IsCut separator others :=
  ⟨nonempty, cut.closed.sublist sub, fun piece member => cut.enclosed piece (sub.subset member)⟩

theorem IsCut.tail {piece next : Text} (cut : IsCut separator (piece :: next :: pieces)) :
    Closed piece ∧ Encloses separator piece ∧ IsCut separator (next :: pieces) := by
  obtain ⟨_, closed, enclosed⟩ := cut
  obtain ⟨first, rest⟩ := List.pairwise_cons.1 closed
  obtain ⟨firstEncloses, restEnclose⟩ := List.forall_mem_cons.1 enclosed
  exact ⟨first next List.mem_cons_self, firstEncloses, nofun, rest, restEnclose⟩

theorem splitUnquoted_join (differs : separator ≠ '"') (cut : IsCut separator pieces) :
    splitUnquoted separator (join [separator] pieces) = pieces := by
  induction pieces with
  | nil => exact absurd rfl cut.nonempty
  | cons piece pieces induction =>
      cases pieces with
      | nil => exact splitUnquoted_of_encloses differs (cut.enclosed piece List.mem_cons_self)
      | cons next pieces =>
          obtain ⟨closed, enclosed, rest⟩ := cut.tail
          rw [join_cons_cons, splitUnquoted_append differs closed,
            splitUnquoted_of_encloses differs enclosed, induction rest]
          rfl

theorem exists_first_cut (closed : Closed front) (parts : text = front ++ separator :: back) :
    ∃ piece rest, text = piece ++ separator :: rest ∧ Closed piece ∧ Encloses separator piece := by
  -- If the front part is not enclosed, the earlier separator has a shorter one before it.
  induction length : front.length using Nat.strong_induction_on generalizing front back with
  | _ size induction =>
      by_cases enclosed : Encloses separator front
      · exact ⟨front, back, parts, closed, enclosed⟩
      · simp only [Encloses, not_forall, not_not] at enclosed
        obtain ⟨before, after, split, beforeClosed⟩ := enclosed
        have shorter : before.length < size := by
          rw [← length, split, List.length_append, List.length_cons]
          omega
        have partsBefore : text = before ++ separator :: (after ++ separator :: back) := by
          rw [parts, split, List.append_assoc, List.cons_append]
        exact induction before.length shorter beforeClosed partsBefore rfl

theorem exists_isCut (separator : Char) (text : Text) :
    ∃ pieces, IsCut separator pieces ∧ join [separator] pieces = text := by
  induction length : text.length using Nat.strong_induction_on generalizing text with
  | _ size induction =>
      by_cases enclosed : Encloses separator text
      · exact ⟨[text], isCut_singleton_iff.2 enclosed, rfl⟩
      · simp only [Encloses, not_forall, not_not] at enclosed
        obtain ⟨front, back, parts, frontClosed⟩ := enclosed
        obtain ⟨piece, rest, cutText, closed, pieceEncloses⟩ := exists_first_cut frontClosed parts
        have shorter : rest.length < size := by
          rw [← length, cutText, List.length_append, List.length_cons]
          omega
        obtain ⟨pieces, cut, joined⟩ := induction rest.length shorter rest rfl
        refine ⟨piece :: pieces, ⟨nofun, ?_, ?_⟩, ?_⟩
        · exact List.pairwise_cons.2 ⟨fun _ _ => closed, cut.closed⟩
        · exact List.forall_mem_cons.2 ⟨pieceEncloses, cut.enclosed⟩
        · cases pieces with
          | nil => exact absurd rfl cut.nonempty
          | cons next pieces => rw [join_cons_cons, joined, cutText]

/-- A text is cut into the only pieces that can be those of a cut and make up the text. -/
theorem splitUnquoted_eq_iff (differs : separator ≠ '"') :
    splitUnquoted separator text = pieces ↔
      IsCut separator pieces ∧ join [separator] pieces = text := by
  constructor
  · intro split
    obtain ⟨others, cut, rfl⟩ := exists_isCut separator text
    rw [splitUnquoted_join differs cut] at split
    exact split ▸ ⟨cut, rfl⟩
  · intro parts
    obtain ⟨cut, rfl⟩ := parts
    exact splitUnquoted_join differs cut

theorem splitUnquoted_eq_self_iff (differs : separator ≠ '"') :
    splitUnquoted separator text = [text] ↔ Encloses separator text := by
  rw [splitUnquoted_eq_iff differs, isCut_singleton_iff]
  exact and_iff_left rfl

theorem isCut_splitUnquoted (differs : separator ≠ '"') (text : Text) :
    IsCut separator (splitUnquoted separator text) :=
  ((splitUnquoted_eq_iff differs).1 rfl).1

theorem join_splitUnquoted (differs : separator ≠ '"') (text : Text) :
    join [separator] (splitUnquoted separator text) = text :=
  ((splitUnquoted_eq_iff differs).1 rfl).2

theorem closed_join (differs : separator ≠ '"') (closed : ∀ piece ∈ pieces, Closed piece) :
    Closed (join [separator] pieces) := by
  induction pieces with
  | nil => exact closed_nil
  | cons piece pieces induction =>
      obtain ⟨first, rest⟩ := List.forall_mem_cons.1 closed
      cases pieces with
      | nil => exact first
      | cons next pieces =>
          rw [join_cons_cons, closed_append_iff first, closed_cons_iff differs]
          exact induction rest

theorem IsCut.closed_front {others : List Text} (differs : separator ≠ '"') (nonempty : others ≠ [])
    (cut : IsCut separator (pieces ++ others)) : Closed (join [separator] pieces) := by
  obtain ⟨other, rest, rfl⟩ := List.exists_cons_of_ne_nil nonempty
  obtain ⟨_, _, each⟩ := List.pairwise_append.1 cut.closed
  apply closed_join differs
  intro piece member
  exact each piece member other List.mem_cons_self

/-- A quotation that is open at the end of a cut is open at the end of its last piece. -/
theorem IsCut.closed_join_iff {last : Text} (differs : separator ≠ '"')
    (cut : IsCut separator (pieces ++ [last])) :
    Closed (join [separator] (pieces ++ [last])) ↔ Closed last := by
  induction pieces with
  | nil => exact Iff.rfl
  | cons piece pieces induction =>
      obtain ⟨next, rest, others⟩ := List.exists_cons_of_ne_nil (List.concat_ne_nil last pieces)
      rw [List.cons_append, others] at cut ⊢
      obtain ⟨closed, _, restCut⟩ := cut.tail
      rw [join_cons_cons, closed_append_iff closed, closed_cons_iff differs]
      rw [others] at induction
      exact induction restCut

/-- A separator cuts the text in two exactly where no quotation is open. -/
theorem splitUnquoted_append_iff (differs : separator ≠ '"') :
    splitUnquoted separator (front ++ separator :: back) =
        splitUnquoted separator front ++ splitUnquoted separator back ↔
      Closed front := by
  constructor
  · intro split
    have cut := isCut_splitUnquoted differs (front ++ separator :: back)
    rw [split] at cut
    rw [← join_splitUnquoted differs front]
    exact cut.closed_front differs (splitFrom_ne_nil _ _ _)
  · exact splitUnquoted_append differs

end Cuts

section Enclosed

theorem encloses_of_not_mem (absent : separator ∉ text) : Encloses separator text :=
  enclosesFrom_false_iff.1 (enclosesFrom_of_not_mem absent)

theorem Encloses.append (frontClosed : Closed front) (frontEncloses : Encloses separator front)
    (backEncloses : Encloses separator back) : Encloses separator (front ++ back) := by
  intro before after parts closed
  rcases List.append_eq_append_iff.1 parts with ⟨rest, rfl, inBack⟩ | ⟨rest, inFront, behind⟩
  · exact backEncloses rest after inBack ((closed_append_iff frontClosed).1 closed)
  · cases rest with
    | nil =>
        rw [List.append_nil] at inFront
        exact backEncloses [] after behind.symm closed_nil
    | cons first rest =>
        obtain ⟨rfl, _⟩ := List.cons.inj behind
        exact frontEncloses before rest inFront closed

theorem closed_flatten (closed : ∀ piece ∈ pieces, Closed piece) : Closed pieces.flatten := by
  induction pieces with
  | nil => exact closed_nil
  | cons piece pieces induction =>
      obtain ⟨first, rest⟩ := List.forall_mem_cons.1 closed
      exact (closed_append_iff first).2 (induction rest)

theorem encloses_flatten (closed : ∀ piece ∈ pieces, Closed piece)
    (enclosed : ∀ piece ∈ pieces, Encloses separator piece) :
    Encloses separator pieces.flatten := by
  induction pieces with
  | nil => exact encloses_of_not_mem List.not_mem_nil
  | cons piece pieces induction =>
      obtain ⟨firstClosed, restClosed⟩ := List.forall_mem_cons.1 closed
      obtain ⟨firstEncloses, restEnclose⟩ := List.forall_mem_cons.1 enclosed
      exact .append firstClosed firstEncloses (induction restClosed restEnclose)

theorem closed_inQuotes (unquoted : '"' ∉ text) : Closed text.inQuotes := by
  rw [Closed, inQuotes, List.count_append, List.count_cons_self, List.count_eq_zero.2 unquoted]
  decide

theorem encloses_inQuotes (differs : separator ≠ '"') (unquoted : '"' ∉ text) :
    Encloses separator text.inQuotes := by
  intro before after parts closed
  cases before with
  | nil => exact differs (List.cons.inj parts).1.symm
  | cons first before =>
      obtain ⟨rfl, rest⟩ := List.cons.inj parts
      have inside : '"' ∉ before := by
        rcases List.append_eq_append_iff.1 rest with ⟨behind, _, closing⟩ | ⟨_, rfl, _⟩
        · cases behind with
          | nil => exact absurd (List.cons.inj closing).1.symm differs
          | cons first behind => simp at closing
        · exact fun member => unquoted (List.mem_append_left _ member)
      have single : ('"' :: before).count '"' = 1 := by
        rw [List.count_cons_self, List.count_eq_zero.2 inside]
      rw [Closed, single] at closed
      exact Nat.not_even_one closed

end Enclosed

section Marks

/-- The characters of a text that decide where it is cut: its quotes and its separators. -/
def marks (separator : Char) (text : Text) : Text :=
  text.filter fun character => character = '"' ∨ character = separator

theorem marks_append (separator : Char) (front back : Text) :
    marks separator (front ++ back) = marks separator front ++ marks separator back :=
  List.filter_append front back

theorem marks_cons_of_ne (unquoted : character ≠ '"') (differs : character ≠ separator) :
    marks separator (character :: text) = marks separator text := by
  simp [marks, unquoted, differs]

theorem marks_eq_nil (ordinary : ∀ character ∈ text, character ≠ '"' ∧ character ≠ separator) :
    marks separator text = [] := by
  simpa [marks] using ordinary

theorem closed_marks_iff : Closed (marks separator text) ↔ Closed text := by
  rw [Closed, marks, List.count_filter (by simp)]
  rfl

theorem encloses_marks_iff :
    Encloses separator (marks separator text) ↔ Encloses separator text := by
  constructor
  · intro enclosed before after parts closed
    have marked : marks separator text =
        marks separator before ++ separator :: marks separator after := by
      rw [parts, marks_append]
      simp [marks]
    exact enclosed _ _ marked (closed_marks_iff.2 closed)
  · intro enclosed before after parts closed
    obtain ⟨front, back, rfl, rfl, rest⟩ := List.filter_eq_append_iff.1 parts
    obtain ⟨skipped, others, rfl, ordinary, _, _⟩ := List.filter_eq_cons_iff.1 rest
    have unquoted : Closed skipped := closed_of_not_mem fun member => ordinary '"' member (by simp)
    refine enclosed (front ++ skipped) others (by rw [List.append_assoc]) ?_
    exact (closed_append_iff (closed_marks_iff.1 closed)).2 unquoted

theorem isCut_map_marks_iff :
    IsCut separator (pieces.map (marks separator)) ↔ IsCut separator pieces := by
  constructor
  · intro cut
    refine ⟨fun none => cut.nonempty (by rw [none]; rfl), ?_, fun piece member => ?_⟩
    · exact (List.pairwise_map.1 cut.closed).imp closed_marks_iff.1
    · exact encloses_marks_iff.1 (cut.enclosed _ (List.mem_map_of_mem member))
  · intro cut
    refine ⟨fun none => cut.nonempty (List.map_eq_nil_iff.1 none), ?_, ?_⟩
    · exact List.pairwise_map.2 (cut.closed.imp closed_marks_iff.2)
    · exact List.forall_mem_map.2 fun piece member =>
        encloses_marks_iff.2 (cut.enclosed piece member)

theorem marks_join {between : Char} (unquoted : between ≠ '"') (differs : between ≠ separator)
    (pieces : List Text) :
    marks separator (join [between] pieces) = (pieces.map (marks separator)).flatten := by
  induction pieces with
  | nil => rfl
  | cons piece pieces induction =>
      cases pieces with
      | nil => simp [join]
      | cons next pieces =>
          rw [join_cons_cons, marks_append, marks_cons_of_ne unquoted differs, induction]
          rfl

end Marks

section Blanks

variable {written : Text}

theorem not_quote_of_isBlank (blank : isBlank character = true) : character ≠ '"' := by
  rintro rfl
  exact absurd blank (by decide)

theorem ne_of_isBlank (visible : isBlank separator = false) (blank : isBlank character = true) :
    character ≠ separator := by
  rintro rfl
  rw [blank] at visible
  cases visible

theorem Padded.marks_eq (visible : isBlank separator = false) (padded : Padded text written) :
    marks separator written = marks separator text := by
  have unmarked {blanks : Text} (blank : ∀ character ∈ blanks, isBlank character = true) :
      marks separator blanks = [] :=
    marks_eq_nil fun character member =>
      have blank := blank character member
      ⟨not_quote_of_isBlank blank, ne_of_isBlank visible blank⟩
  obtain ⟨front, back, rfl, frontBlank, backBlank⟩ := padded
  rw [marks_append, marks_append, unmarked frontBlank, unmarked backBlank, List.nil_append,
    List.append_nil]

theorem map_marks_trim (visible : isBlank separator = false) (pieces : List Text) :
    (pieces.map trim).map (marks separator) = pieces.map (marks separator) := by
  rw [List.map_map]
  exact List.map_congr_left fun piece _ => ((padded_trim piece).marks_eq visible).symm

theorem isCut_map_trim_iff (visible : isBlank separator = false) :
    IsCut separator (pieces.map trim) ↔ IsCut separator pieces := by
  rw [← isCut_map_marks_iff, map_marks_trim visible, isCut_map_marks_iff]

theorem splitFrom_cons_of_isBlank (differs : separator ≠ '"') (visible : isBlank separator = false)
    (blank : isBlank character = true) :
    splitFrom separator quoted (character :: text) =
      extendFirst character (splitFrom separator quoted text) := by
  have uncut : ¬(character = separator ∧ quoted = false) := fun cut =>
    ne_of_isBlank visible blank cut.1
  rw [splitFrom_cons differs, if_neg uncut, openBehind, if_neg (not_quote_of_isBlank blank)]

theorem map_trim_splitFrom_of_front (differs : separator ≠ '"')
    (visible : isBlank separator = false) (blank : ∀ character ∈ front, isBlank character = true) :
    (splitFrom separator quoted (front ++ text)).map trim =
      (splitFrom separator quoted text).map trim := by
  induction front with
  | nil => rfl
  | cons character front induction =>
      obtain ⟨first, rest⟩ := List.forall_mem_cons.1 blank
      rw [List.cons_append, splitFrom_cons_of_isBlank differs visible first, ← induction rest]
      cases pieces : splitFrom separator quoted (front ++ text) with
      | nil => exact absurd pieces (splitFrom_ne_nil _ _ _)
      | cons piece pieces =>
          have inside : Padded piece (character :: piece) :=
            ⟨[character], [], by simp, List.forall_mem_singleton.2 first, nofun⟩
          rw [extendFirst, List.map_cons, List.map_cons, inside.trim_eq]

/-- Blanks at the end of a text are blanks at the end of its last piece. -/
theorem exists_last_splitFrom (quoted : Bool) (text : Text) (differs : separator ≠ '"')
    (visible : isBlank separator = false)
    (blank : ∀ character ∈ back, isBlank character = true) :
    ∃ pieces last, splitFrom separator quoted text = pieces ++ [last] ∧
      splitFrom separator quoted (text ++ back) = pieces ++ [last ++ back] := by
  have absent : separator ∉ back := fun member =>
    ne_of_isBlank visible (blank separator member) rfl
  obtain ⟨pieces, last, behind, first, rest, split, splitBack, longer⟩ :=
    exists_splitFrom_append quoted text back differs
  rw [splitFrom_of_enclosesFrom differs (enclosesFrom_of_not_mem absent)] at splitBack
  obtain ⟨rfl, rfl⟩ := List.cons.inj splitBack
  exact ⟨pieces, last, split, longer⟩

/-- Blanks around a text make no difference to the pieces it is cut into, once these are trimmed. -/
theorem map_trim_splitUnquoted (differs : separator ≠ '"') (visible : isBlank separator = false)
    (padded : Padded text written) :
    (splitUnquoted separator written).map trim = (splitUnquoted separator text).map trim := by
  obtain ⟨front, back, rfl, frontBlank, backBlank⟩ := padded
  obtain ⟨pieces, last, split, longer⟩ :=
    exists_last_splitFrom false text differs visible backBlank
  rw [splitUnquoted, splitUnquoted, List.append_assoc,
    map_trim_splitFrom_of_front differs visible frontBlank, split, longer, List.map_append,
    List.map_append, List.map_singleton, List.map_singleton, trim_append_of_blank backBlank]

end Blanks

section Determined

variable {last : Text}

theorem isCut_append_singleton_iff :
    IsCut separator (pieces ++ [last]) ↔
      (∀ piece ∈ pieces, Closed piece) ∧ ∀ piece ∈ pieces ++ [last], Encloses separator piece := by
  constructor
  · intro cut
    obtain ⟨_, _, each⟩ := List.pairwise_append.1 cut.closed
    exact ⟨fun piece member => each piece member last (List.mem_singleton_self last), cut.enclosed⟩
  · intro facts
    obtain ⟨closed, enclosed⟩ := facts
    refine ⟨List.concat_ne_nil last pieces, List.pairwise_append.2 ⟨?_, ?_, ?_⟩, enclosed⟩
    · exact List.pairwise_of_forall_mem_list fun piece member _ _ => closed piece member
    · exact List.pairwise_singleton _ _
    · exact fun piece member _ _ => closed piece member

/-- A text is cut into at least one piece.  The pieces are those that make up the text, close their
quotations before the last one, and hold separators only inside quotations.  So a separator behind
a closed text cuts there. -/
theorem splitUnquoted_determined (differs : separator ≠ '"') :
    (∀ text, ∃ pieces last, splitUnquoted separator text = pieces ++ [last]) ∧
      (∀ text pieces last, splitUnquoted separator text = pieces ++ [last] ↔
        join [separator] (pieces ++ [last]) = text ∧ (∀ piece ∈ pieces, Closed piece) ∧
          ∀ piece ∈ pieces ++ [last], Encloses separator piece) ∧
      ∀ front back, Closed front →
        splitUnquoted separator (front ++ separator :: back) =
          splitUnquoted separator front ++ splitUnquoted separator back := by
  refine ⟨fun text => ?_, fun text pieces last => ?_, fun front back closed => ?_⟩
  · have nonempty : splitUnquoted separator text ≠ [] := splitFrom_ne_nil _ _ _
    exact ⟨_, _, (List.dropLast_append_getLast nonempty).symm⟩
  · rw [splitUnquoted_eq_iff differs, isCut_append_singleton_iff, and_comm]
  · exact splitUnquoted_append differs closed

end Determined

end RecordSearch.Text

namespace RecordSearch.Samples

open Text

/-- A comma inside a quotation cuts nothing, the one behind it does. -/
theorem splitUnquoted_determined_address :
    splitUnquoted ',' ((inQuotes "Main St, 5".toList) ++ ',' :: "Rome".toList) =
        [] ++ [(inQuotes "Main St, 5".toList), "Rome".toList] ∧
      splitUnquoted ',' ((inQuotes "Main St, 5".toList) ++ ',' :: "Rome".toList) =
        splitUnquoted ',' (inQuotes "Main St, 5".toList) ++ splitUnquoted ',' "Rome".toList := by
  have differs : ',' ≠ '"' := by decide
  have closed : Closed (inQuotes "Main St, 5".toList) := closed_inQuotes (by decide)
  have encloses : Encloses ',' (inQuotes "Main St, 5".toList) :=
    encloses_inQuotes differs (by decide)
  obtain ⟨_, determined, cuts⟩ := splitUnquoted_determined differs
  refine ⟨(determined _ [(inQuotes "Main St, 5".toList)] "Rome".toList).2 ⟨rfl, ?_, ?_⟩, ?_⟩
  · exact List.forall_mem_singleton.2 closed
  · exact List.forall_mem_cons.2
      ⟨encloses, List.forall_mem_singleton.2 (encloses_of_not_mem (by decide))⟩
  · exact cuts _ _ closed

end RecordSearch.Samples
