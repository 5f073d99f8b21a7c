/-!
# Runs that may fail

A run over a list stops at the first failure.  It succeeds exactly if it does
so at every item, and then it returns what it returned at the items.  If it
fails, it does so as at the first item at which something is wrong.
-/

namespace RecordSearch

/-- The first of some items with which something is wrong is wrong in this way. -/
inductive First {α ε : Type} (Wrong : α → ε → Prop) : List α → ε → Prop where
  | here {item : α} {items : List α} {error : ε} :
      Wrong item error →
      First Wrong (item :: items) error
  | later {item : α} {items : List α} {error : ε} :
      (∀ other, ¬Wrong item other) →
      First Wrong items error →
      First Wrong (item :: items) error

namespace First

variable {α ε : Type} {Wrong : α → ε → Prop} {item : α} {items front back : List α} {error : ε}

theorem nil_iff : First Wrong [] error ↔ False := by
  constructor
  · intro first
    cases first
  · exact False.elim

theorem cons_iff :
    First Wrong (item :: items) error ↔
      Wrong item error ∨ (∀ other, ¬Wrong item other) ∧ First Wrong items error := by
  constructor
  · intro first
    cases first with
    | here wrong => exact .inl wrong
    | later right rest => exact .inr ⟨right, rest⟩
  · intro either
    rcases either with wrong | ⟨right, rest⟩
    · exact .here wrong
    · exact .later right rest

theorem cons_iff_of_right (right : ∀ other, ¬Wrong item other) :
    First Wrong (item :: items) error ↔ First Wrong items error := by
  rw [cons_iff]
  simp [right]

theorem exists_iff :
    (∃ error, First Wrong items error) ↔ ∃ item ∈ items, ∃ error, Wrong item error := by
  induction items with
  | nil => simp [nil_iff]
  | cons item items induction =>
      simp only [cons_iff, exists_or, exists_and_left, induction, List.mem_cons, exists_eq_or_imp]
      by_cases wrong : ∃ error, Wrong item error
      · simp [wrong]
      · simp [not_exists.1 wrong]

theorem forall_not_iff :
    (∀ error, ¬First Wrong items error) ↔ ∀ item ∈ items, ∀ error, ¬Wrong item error := by
  rw [← not_exists, exists_iff]
  simp

theorem exists_mem (first : First Wrong items error) : ∃ item ∈ items, Wrong item error := by
  induction first with
  | here wrong => exact ⟨_, List.mem_cons_self, wrong⟩
  | later _ _ induction =>
      obtain ⟨item, member, wrong⟩ := induction
      exact ⟨item, List.mem_cons_of_mem _ member, wrong⟩

theorem append_iff :
    First Wrong (front ++ back) error ↔
      First Wrong front error ∨
        (∀ item ∈ front, ∀ other, ¬Wrong item other) ∧ First Wrong back error := by
  induction front with
  | nil => simp [nil_iff]
  | cons item items induction =>
      rw [List.cons_append, cons_iff, cons_iff, induction, List.forall_mem_cons, and_or_left,
        or_assoc, and_assoc]

theorem congr {Other : α → ε → Prop}
    (same : ∀ item ∈ items, ∀ error, Wrong item error ↔ Other item error) :
    First Wrong items error ↔ First Other items error := by
  induction items with
  | nil => rw [nil_iff, nil_iff]
  | cons item items induction =>
      obtain ⟨itemSame, itemsSame⟩ := List.forall_mem_cons.1 same
      rw [cons_iff, cons_iff, induction itemsSame]
      simp only [itemSame]

/-- If items can be wrong in one way only, it does not matter which of them is the first. -/
theorem iff_of_single {Bad : α → Prop} {reason : ε}
    (single : ∀ item error, Wrong item error ↔ Bad item ∧ error = reason) :
    First Wrong items error ↔ (∃ item ∈ items, Bad item) ∧ error = reason := by
  induction items with
  | nil => simp [nil_iff]
  | cons item items induction =>
      simp only [cons_iff, single, induction, List.mem_cons, exists_eq_or_imp]
      by_cases bad : Bad item <;> simp [bad]

theorem map_iff {β : Type} {part : β → α} {owners : List β} :
    First Wrong (owners.map part) error ↔
      First (fun owner => Wrong (part owner)) owners error := by
  induction owners with
  | nil => rw [List.map_nil, nil_iff, nil_iff]
  | cons owner owners induction => rw [List.map_cons, cons_iff, cons_iff, induction]

/-- The first wrong part of some items is the first one of the first item that has any. -/
theorem flatMap_iff {β : Type} {parts : β → List α} {owners : List β} :
    First Wrong (owners.flatMap parts) error ↔
      First (fun owner => First Wrong (parts owner)) owners error := by
  induction owners with
  | nil => rw [List.flatMap_nil, nil_iff, nil_iff]
  | cons owner owners induction =>
      rw [List.flatMap_cons, append_iff, cons_iff, induction, forall_not_iff]

end First

namespace Run

variable {ε α β : Type}

theorem bind_eq_ok_iff {first : Except ε α} {next : α → Except ε β} {result : β} :
    first >>= next = .ok result ↔ ∃ value, first = .ok value ∧ next value = .ok result := by
  cases first <;> simp [bind, Except.bind]

theorem pure_eq_ok_iff {value result : α} :
    (pure value : Except ε α) = .ok result ↔ value = result := by
  simp [pure, Except.pure]

theorem mapM_cons_eq_ok_iff {step : α → Except ε β} {item : α} {items : List α}
    {results : List β} :
    (item :: items).mapM step = .ok results ↔
      ∃ result rest, step item = .ok result ∧ items.mapM step = .ok rest ∧
        result :: rest = results := by
  simp only [List.mapM_cons, bind_eq_ok_iff, pure_eq_ok_iff]
  constructor
  · intro run
    obtain ⟨result, stepped, rest, run, equal⟩ := run
    exact ⟨result, rest, stepped, run, equal⟩
  · intro parts
    obtain ⟨result, rest, stepped, run, equal⟩ := parts
    exact ⟨result, stepped, rest, run, equal⟩

theorem mapM_isOk_iff {step : α → Except ε β} {items : List α} :
    (∃ results, items.mapM step = .ok results) ↔
      ∀ item ∈ items, ∃ result, step item = .ok result := by
  induction items with
  | nil => simp [pure, Except.pure]
  | cons item items induction =>
      rw [List.forall_mem_cons, ← induction]
      constructor
      · intro succeeds
        obtain ⟨_, run⟩ := succeeds
        obtain ⟨result, rest, stepped, restRun, _⟩ := mapM_cons_eq_ok_iff.1 run
        exact ⟨⟨result, stepped⟩, rest, restRun⟩
      · intro parts
        obtain ⟨⟨result, stepped⟩, rest, restRun⟩ := parts
        exact ⟨result :: rest, mapM_cons_eq_ok_iff.2 ⟨result, rest, stepped, restRun, rfl⟩⟩

theorem mem_mapM_iff {step : α → Except ε β} {items : List α} {results : List β}
    (run : items.mapM step = .ok results) {result : β} :
    result ∈ results ↔ ∃ item ∈ items, step item = .ok result := by
  induction items generalizing results with
  | nil =>
      rw [List.mapM_nil, pure_eq_ok_iff] at run
      simp [← run]
  | cons item items induction =>
      obtain ⟨first, rest, stepped, restRun, rfl⟩ := mapM_cons_eq_ok_iff.1 run
      rw [List.mem_cons, induction restRun, eq_comm]
      simp only [List.mem_cons, exists_eq_or_imp, stepped, Except.ok.injEq]

theorem bind_eq_error_iff {first : Except ε α} {next : α → Except ε β} {error : ε} :
    first >>= next = .error error ↔
      first = .error error ∨ ∃ value, first = .ok value ∧ next value = .error error := by
  cases first <;> simp [bind, Except.bind]

theorem map_eq_error_iff {run : Except ε α} {change : α → β} {error : ε} :
    run.map change = .error error ↔ run = .error error := by
  cases run <;> simp [Except.map]

theorem isOk_iff_forall_ne_error {run : Except ε α} :
    (∃ result, run = .ok result) ↔ ∀ error, run ≠ .error error := by
  cases run <;> simp

/-- A run over some items fails as the first item at which the step fails. -/
theorem mapM_eq_error_iff {step : α → Except ε β} {items : List α} {error : ε} :
    items.mapM step = .error error ↔
      First (fun item other => step item = .error other) items error := by
  induction items with
  | nil => simp [pure, Except.pure, First.nil_iff]
  | cons item items induction =>
      rw [First.cons_iff, ← induction, List.mapM_cons, bind_eq_error_iff]
      cases step item <;> simp [bind_eq_error_iff, pure, Except.pure]

end Run

end RecordSearch
