import Mathlib.Data.List.DropRight
import RecordSearch.Text.Basic
import RecordSearch.Text.Blank

/-!
# Trimmed and cut texts

A text is trimmed if trimming leaves it as it is, that is, if it neither begins nor ends with a
blank.  Cutting a text at a mark takes the first one, so there is none in front of the cut.
-/

namespace RecordSearch.Text

variable {text written before after : Text} {character mark : Char}

section Trim

theorem trimEnd_eq_rdropWhile (text : Text) : trimEnd text = text.rdropWhile isBlank :=
  rfl

theorem trim_prefix_trimStart (text : Text) : trim text <+: trimStart text :=
  List.rdropWhile_prefix isBlank (trimStart text)

theorem mem_of_mem_trim (member : character ∈ trim text) : character ∈ text :=
  List.dropWhile_subset isBlank ((trim_prefix_trimStart text).subset member)

theorem isBlank_head_trim (nonempty : trim text ≠ []) :
    isBlank ((trim text).head nonempty) = false := by
  rw [(trim_prefix_trimStart text).head nonempty]
  exact List.head_dropWhile_not isBlank _

theorem isBlank_getLast_trim (nonempty : trim text ≠ []) :
    isBlank ((trim text).getLast nonempty) = false := by
  have visible := List.rdropWhile_last_not isBlank (trimStart text) nonempty
  exact Bool.eq_false_iff.2 visible

/-- A text is trimmed exactly if there is no blank at either end of it. -/
theorem trim_eq_self_iff :
    trim text = text ↔ ∀ nonempty : text ≠ [],
      isBlank (text.head nonempty) = false ∧ isBlank (text.getLast nonempty) = false := by
  constructor
  · intro trimmed
    rw [← trimmed]
    intro nonempty
    exact ⟨isBlank_head_trim nonempty, isBlank_getLast_trim nonempty⟩
  · intro visible
    have started : trimStart text = text := by
      cases text with
      | nil => rfl
      | cons character rest =>
          exact List.dropWhile_cons_of_neg (Bool.eq_false_iff.1 (visible nofun).1)
    have ended : trimEnd text = text := by
      rw [trimEnd_eq_rdropWhile, List.rdropWhile_eq_self_iff]
      intro nonempty
      exact Bool.eq_false_iff.1 (visible nonempty).2
    rw [trim, started, ended]

theorem trim_eq_self_iff_ends :
    trim text = text ↔ ∀ character, isBlank character = true →
      text.head? ≠ some character ∧ text.getLast? ≠ some character := by
  rw [trim_eq_self_iff]
  constructor
  · intro visible character blank
    refine ⟨fun first => ?_, fun last => ?_⟩
    · obtain ⟨rest, rfl⟩ := List.head?_eq_some_iff.1 first
      have shown : isBlank character = false := (visible nofun).1
      rw [blank] at shown
      cases shown
    · obtain ⟨front, rfl⟩ := List.getLast?_eq_some_iff.1 last
      have shown := (visible (List.append_ne_nil_of_right_ne_nil _ nofun)).2
      rw [List.getLast_concat, blank] at shown
      cases shown
  · intro visible nonempty
    refine ⟨Bool.eq_false_iff.2 fun blank => ?_, Bool.eq_false_iff.2 fun blank => ?_⟩
    · exact (visible _ blank).1 (List.head?_eq_some_head nonempty)
    · exact (visible _ blank).2 (List.getLast?_eq_some_getLast nonempty)

@[simp]
theorem trim_trim (text : Text) : trim (trim text) = trim text :=
  trim_eq_self_iff.2 fun nonempty => ⟨isBlank_head_trim nonempty, isBlank_getLast_trim nonempty⟩

/-- A trimmed text stays trimmed if a character that is no blank is put behind it. -/
theorem trim_concat (trimmed : trim text = text) (visible : isBlank character = false) :
    trim (text ++ [character]) = text ++ [character] := by
  rw [trim_eq_self_iff]
  intro _
  constructor
  · cases text with
    | nil => exact visible
    | cons first rest => exact (trim_eq_self_iff.1 trimmed nofun).1
  · rw [List.getLast_concat]
    exact visible

end Trim

section Padding

/-- The text with some blanks written in front of it and behind it. -/
def Padded (text written : Text) : Prop :=
  ∃ front back, written = front ++ text ++ back ∧
    (∀ character ∈ front, isBlank character = true) ∧ ∀ character ∈ back, isBlank character = true

theorem padded_self (text : Text) : Padded text text :=
  ⟨[], [], by simp⟩

theorem padded_append {front : Text} (blank : ∀ character ∈ front, isBlank character = true)
    (text : Text) : Padded text (front ++ text) :=
  ⟨front, [], by simp, blank, List.forall_mem_nil _⟩

theorem padded_trimStart (text : Text) : Padded (trimStart text) text := by
  refine ⟨text.takeWhile isBlank, [], ?_, fun _ => List.mem_takeWhile_imp, nofun⟩
  rw [List.append_nil, trimStart, List.takeWhile_append_dropWhile]

theorem padded_trimEnd (text : Text) : Padded (trimEnd text) text := by
  refine ⟨[], text.rtakeWhile isBlank, ?_, nofun, fun _ => List.mem_rtakeWhile_imp⟩
  rw [List.nil_append, trimEnd_eq_rdropWhile, List.rdropWhile_append_rtakeWhile]

theorem Padded.trans {inner : Text} (outside : Padded text written) (inside : Padded inner text) :
    Padded inner written := by
  obtain ⟨front, back, rfl, frontBlank, backBlank⟩ := outside
  obtain ⟨innerFront, innerBack, rfl, innerFrontBlank, innerBackBlank⟩ := inside
  refine ⟨front ++ innerFront, innerBack ++ back, ?_, ?_, ?_⟩
  · simp only [List.append_assoc]
  · exact List.forall_mem_append.2 ⟨frontBlank, innerFrontBlank⟩
  · exact List.forall_mem_append.2 ⟨innerBackBlank, backBlank⟩

theorem padded_trim (text : Text) : Padded (trim text) text :=
  (padded_trimStart text).trans (padded_trimEnd (trimStart text))

theorem Padded.mem_of_mem (padded : Padded text written) (visible : isBlank character = false)
    (member : character ∈ written) : character ∈ text := by
  have among {blanks : Text} (blank : ∀ character ∈ blanks, isBlank character = true) :
      character ∉ blanks := by
    intro hidden
    rw [blank character hidden] at visible
    cases visible
  obtain ⟨front, back, rfl, frontBlank, backBlank⟩ := padded
  rcases List.mem_append.1 member with inside | behind
  · exact (List.mem_append.1 inside).resolve_left (among frontBlank)
  · exact absurd behind (among backBlank)

theorem trim_append_of_blank {back : Text} (blank : ∀ character ∈ back, isBlank character = true) :
    trim (text ++ back) = trim text := by
  have ended (front : Text) : trimEnd (front ++ back) = trimEnd front := by
    rw [trimEnd, trimEnd, List.reverse_append, List.dropWhile_append_of_pos]
    exact fun character member => blank character (List.mem_reverse.1 member)
  rw [trim, trim, trimStart, List.dropWhile_append]
  split
  case isTrue nothing =>
    rw [trimStart, List.isEmpty_iff.1 nothing, List.dropWhile_eq_nil_iff.2 blank]
  case isFalse => exact ended (trimStart text)

/-- Blanks around a text make no difference to what trimming leaves of it. -/
theorem Padded.trim_eq (padded : Padded text written) : trim written = trim text := by
  obtain ⟨front, back, rfl, frontBlank, backBlank⟩ := padded
  rw [trim_append_of_blank backBlank, trim, trimStart, List.dropWhile_append_of_pos frontBlank]
  rfl

theorem trimStart_append_cons (visible : isBlank mark = false) :
    trimStart (before ++ mark :: after) = trimStart before ++ mark :: after := by
  rw [trimStart, List.dropWhile_append]
  split
  case isTrue nothing =>
    have kept := List.dropWhile_cons_of_neg (l := after) (Bool.eq_false_iff.1 visible)
    rw [kept, trimStart, List.isEmpty_iff.1 nothing, List.nil_append]
  case isFalse => rfl

theorem trimEnd_append_cons (visible : isBlank mark = false) :
    trimEnd (before ++ mark :: after) = before ++ mark :: trimEnd after := by
  have reversed : (before ++ mark :: after).reverse = after.reverse ++ mark :: before.reverse := by
    simp
  have started : trimStart (after.reverse ++ mark :: before.reverse) =
      trimStart after.reverse ++ mark :: before.reverse := trimStart_append_cons visible
  rw [trimEnd, reversed]
  change (trimStart _).reverse = _
  rw [started, List.reverse_append, List.reverse_cons, List.reverse_reverse, List.append_assoc]
  rfl

/-- A character that is no blank parts what is trimmed at the two ends of a text. -/
theorem trim_append_cons (visible : isBlank mark = false) :
    trim (before ++ mark :: after) = trimStart before ++ mark :: trimEnd after := by
  rw [trim, trimStart_append_cons visible, trimEnd_append_cons visible]

end Padding

section Cut

theorem cutAt_cons_eq_some_iff {first : Char} {rest : Text} :
    cutAt mark (character :: rest) = some (first :: before, after) ↔
      character ≠ mark ∧ character = first ∧ cutAt mark rest = some (before, after) := by
  by_cases found : character = mark
  · simp [cutAt, found]
  · simp [cutAt, found, and_comm]

theorem cutAt_eq_some_iff :
    cutAt mark text = some (before, after) ↔ text = before ++ mark :: after ∧ mark ∉ before := by
  induction text generalizing before with
  | nil => simp [cutAt]
  | cons character rest induction =>
      cases before with
      | nil =>
          by_cases found : character = mark
          · simp [cutAt, found]
          · simp [cutAt, found]
      | cons first before =>
          rw [cutAt_cons_eq_some_iff, induction, List.cons_append, List.cons.injEq, List.mem_cons,
            not_or]
          constructor
          · intro parts
            obtain ⟨differs, rfl, whole, unmarked⟩ := parts
            exact ⟨⟨rfl, whole⟩, Ne.symm differs, unmarked⟩
          · intro parts
            obtain ⟨⟨rfl, whole⟩, differs, unmarked⟩ := parts
            exact ⟨Ne.symm differs, rfl, whole, unmarked⟩

theorem cutAt_eq_none_iff : cutAt mark text = none ↔ mark ∉ text := by
  induction text with
  | nil => simp [cutAt]
  | cons character rest induction =>
      by_cases found : character = mark
      · simp [cutAt, found]
      · simp [cutAt, found, induction, Ne.symm found]

/-- Trimming a text before it is cut at a mark trims the outer ends of the parts. -/
theorem cutAt_trim (visible : isBlank mark = false) :
    cutAt mark (trim text) =
      (cutAt mark text).map fun parts => (trimStart parts.1, trimEnd parts.2) := by
  cases cut : cutAt mark text with
  | none =>
      rw [cutAt_eq_none_iff] at cut
      exact cutAt_eq_none_iff.2 fun member => cut (mem_of_mem_trim member)
  | some parts =>
      obtain ⟨before, after⟩ := parts
      obtain ⟨rfl, unmarked⟩ := cutAt_eq_some_iff.1 cut
      refine cutAt_eq_some_iff.2 ⟨trim_append_cons visible, fun member => unmarked ?_⟩
      exact List.dropWhile_subset isBlank member

end Cut

end RecordSearch.Text
