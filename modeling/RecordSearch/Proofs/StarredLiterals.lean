import RecordSearch.Proofs.ForeignValues

/-!
# What literals with a star at the end accept

Which values a literal with a star at its end accepts can be said of the literal as it stands, for
values of the kind of a leaf and for others.  In general these are other values than the ones that
the literal accepts.  But no text is lost where the literal describes beginnings of texts already,
or is a regular expression, or a plain text.
-/

namespace RecordSearch

namespace LeafKind

variable {value : Value}

theorem accepts_string_iff : string.accepts value = true ↔ ∃ text, value = .string text := by
  cases value <;> simp [accepts]

theorem accepts_choice_iff {table : List (Text × Int)} :
    (choice table).accepts value = true ↔ ∃ name rank, value = .choice name rank := by
  cases value <;> simp [accepts]

end LeafKind

namespace Matcher

open Regex (Describes)

variable {literal core text : Text} {kind : LeafKind} {value : Value}
  {matcher completed : Matcher}

/-- With a star at its end, the literal accepts the value as a leaf of the kind. -/
inductive AcceptsStarred [PropertyTable] (literal : Text) : LeafKind → Value → Prop where
  /-- Nothing but marks stands in front of the star. -/
  | everything {kind : LeafKind} {value : Value} :
      bare literal = [] →
      Even (marks literal) →
      AcceptsStarred literal kind value
  | text {text : Text} :
      Unmarked (bare literal) →
      (Even (marks literal) ↔ Describes (bare literal ++ ['*']) text) →
      AcceptsStarred literal .string (.string text)
  | expression {body text : Text} {expression : Regex} :
      bare literal = regexMark ++ body →
      Regex.readWhole (body ++ ['*']) = some expression →
      (Even (marks literal) ↔ expression.matchesIn text = true) →
      AcceptsStarred literal .string (.string text)
  | name {table : List (Text × Int)} {name : Text} {rank : Int} :
      bare literal ≠ [] →
      (Comparison.split (bare literal)).1 = .equal →
      (Even (marks literal) ↔
        Text.lowerEach name = Text.lower (Comparison.split (bare literal ++ ['*'])).2) →
      AcceptsStarred literal (.choice table) (.choice name rank)
  | order {table : List (Text × Int)} {name : Text} {rank : Int} {entry : Text × Int} :
      bare literal ≠ [] →
      (Comparison.split (bare literal)).1 ≠ .equal →
      entryFor table (Comparison.split (bare literal ++ ['*'])).2 = some entry →
      (Even (marks literal) ↔
        (Comparison.split (bare literal)).1.accepts (compare rank entry.2) = true) →
      AcceptsStarred literal (.choice table) (.choice name rank)
  /-- A value of another kind, which every test refuses that is not negated. -/
  | foreign {kind : LeafKind} {value : Value} :
      kind.accepts value = false →
      bare literal ≠ [] →
      ¬Even (marks literal) →
      HasTest kind (bare literal ++ ['*']) →
      AcceptsStarred literal kind value

/-- Every text that the literal accepts is accepted with a star at its end. -/
inductive KeepsTexts (literal : Text) : Prop where
  | expression {body : Text} :
      Even (marks literal) →
      bare literal = regexMark ++ body →
      KeepsTexts literal
  | glob :
      Even (marks literal) →
      quoted? (bare literal) = none →
      '*' ∈ bare literal →
      KeepsTexts literal
  | plain :
      Even (marks literal) →
      quoted? (bare literal) = none →
      Text.CaseAgrees (bare literal) →
      KeepsTexts literal
  | openGlob {front : Text} :
      bare literal = front ++ ['*'] →
      Unmarked (bare literal) →
      KeepsTexts literal

/-- With a star at its end the literal accepts the value as a leaf of the kind, for which it is
known whether the literal accepts it as it stands. -/
inductive Keeps [PropertyTable] (literal : Text) (accepted : Prop) : LeafKind → Value → Prop where
  | starred {kind : LeafKind} {value : Value} :
      AcceptsStarred literal kind value →
      Keeps literal accepted kind value
  | text {text : Text} :
      accepted →
      KeepsTexts literal →
      Keeps literal accepted .string (.string text)

section Starred

variable [PropertyTable]

theorem accepts_starred_everything_iff (trimmed : Text.trim literal = literal)
    (empty : bare literal = [])
    (starred : compile kind (literal ++ wildcard) = some completed) :
    completed.accepts value = true ↔ Even (marks literal) := by
  have everything : compilePlain kind (bare literal ++ ['*']) = some .anything := by
    rw [empty]
    exact if_pos rfl
  rw [compile_concat_star trimmed, everything, Option.map_some] at starred
  obtain rfl := Option.some.inj starred
  have meaningful : anything ≠ .never := nofun
  rw [accepts_negateBy_iff meaningful]
  exact iff_true_right rfl

/-- Behind an odd number of marks a value of another kind is accepted by what is a test at all. -/
theorem accepts_starred_foreign_iff (trimmed : Text.trim literal = literal)
    (nonempty : bare literal ≠ []) (foreign : kind.accepts value = false)
    (starred : compile kind (literal ++ wildcard) = some completed) :
    completed.accepts value = true ↔
      ¬Even (marks literal) ∧ HasTest kind (bare literal ++ ['*']) := by
  rw [compile_concat_star trimmed] at starred
  obtain ⟨wide, wideCompiled, rfl⟩ := Option.map_eq_some_iff.1 starred
  have several := several_of_nonempty nonempty
  have refused := (isFor_of_compilePlain several wideCompiled).refuses foreign
  rw [← ne_never_iff_hasTest several wideCompiled]
  by_cases meaningful : wide = .never
  · subst meaningful
    rw [negateBy_never]
    exact iff_of_false (Bool.eq_false_iff.1 refused) fun both => both.2 rfl
  · rw [accepts_negateBy_iff meaningful, refused, and_iff_left meaningful]
    exact iff_false_right Bool.false_ne_true

theorem AcceptsStarred.accepts (trimmed : Text.trim literal = literal)
    (starred : compile kind (literal ++ wildcard) = some completed)
    (accepts : AcceptsStarred literal kind value) : completed.accepts value = true := by
  cases accepts with
  | everything empty even => exact (accepts_starred_everything_iff trimmed empty starred).2 even
  | text unmarked parity => exact (accepts_starred_text_iff trimmed unmarked starred).2 parity
  | expression marked read parity =>
      obtain ⟨other, otherRead, accepts⟩ := accepts_starred_expression_iff trimmed marked starred
      obtain rfl := Option.some.inj (read.symm.trans otherRead)
      exact (accepts _).2 parity
  | name nonempty equal parity =>
      rw [accepts_starred_choice_iff trimmed nonempty starred, if_pos equal]
      exact parity
  | order nonempty ordered found parity =>
      rw [accepts_starred_choice_iff trimmed nonempty starred, if_neg ordered]
      exact ⟨_, found, parity⟩
  | foreign other nonempty odd hasTest =>
      exact (accepts_starred_foreign_iff trimmed nonempty other starred).2 ⟨odd, hasTest⟩

theorem acceptsStarred_of_accepts_text (trimmed : Text.trim literal = literal)
    (starred : compile .string (literal ++ wildcard) = some completed)
    (accepted : completed.accepts (.string text) = true) :
    AcceptsStarred literal .string (.string text) := by
  by_cases marked : ∃ body, bare literal = regexMark ++ body
  · obtain ⟨body, marked⟩ := marked
    obtain ⟨expression, read, accepts⟩ := accepts_starred_expression_iff trimmed marked starred
    exact .expression marked read ((accepts text).1 accepted)
  · have unmarked : Unmarked (bare literal) := not_exists.1 marked
    exact .text unmarked ((accepts_starred_text_iff trimmed unmarked starred).1 accepted)

theorem acceptsStarred_of_accepts_choice {table : List (Text × Int)} {name : Text} {rank : Int}
    (trimmed : Text.trim literal = literal) (nonempty : bare literal ≠ [])
    (starred : compile (.choice table) (literal ++ wildcard) = some completed)
    (accepted : completed.accepts (.choice name rank) = true) :
    AcceptsStarred literal (.choice table) (.choice name rank) := by
  rw [accepts_starred_choice_iff trimmed nonempty starred] at accepted
  split at accepted
  next equal => exact .name nonempty equal accepted
  next ordered =>
    obtain ⟨entry, found, parity⟩ := accepted
    exact .order nonempty ordered found parity

theorem acceptsStarred_of_accepts (trimmed : Text.trim literal = literal)
    (starred : compile kind (literal ++ wildcard) = some completed)
    (accepted : completed.accepts value = true) : AcceptsStarred literal kind value := by
  by_cases empty : bare literal = []
  · exact .everything empty ((accepts_starred_everything_iff trimmed empty starred).1 accepted)
  have refused (meaningless : compilePlain kind (bare literal ++ ['*']) = some .never) :
      AcceptsStarred literal kind value := by
    rw [accepts_starred_eq_false trimmed meaningless starred] at accepted
    cases accepted
  cases ofKind : kind.accepts value with
  | false =>
      obtain ⟨odd, hasTest⟩ :=
        (accepts_starred_foreign_iff trimmed empty ofKind starred).1 accepted
      exact .foreign ofKind empty odd hasTest
  | true =>
      cases kind with
      | number => exact refused (compilePlain_number_concat_star (trim_bare trimmed) empty)
      | bool => exact refused (compilePlain_bool_concat_star empty)
      | string =>
          obtain ⟨text, rfl⟩ := LeafKind.accepts_string_iff.1 ofKind
          exact acceptsStarred_of_accepts_text trimmed starred accepted
      | choice table =>
          obtain ⟨name, rank, rfl⟩ := LeafKind.accepts_choice_iff.1 ofKind
          exact acceptsStarred_of_accepts_choice trimmed empty starred accepted

/-- Behind an odd number of marks the star takes away what begins like the literal. -/
theorem refuses_negated (trimmed : Text.trim literal = literal) (odd : ¬Even (marks literal))
    (unmarked : Unmarked (bare literal)) (describes : Describes (bare literal ++ ['*']) text)
    (starred : compile .string (literal ++ wildcard) = some completed) :
    completed.accepts (.string text) = false := by
  rw [← Bool.not_eq_true, accepts_starred_text_iff trimmed unmarked starred]
  exact fun parity => odd (parity.2 describes)

end Starred

section Keeping

theorem describes_open_iff {front : Text} :
    Describes (front ++ ['*'] ++ ['*']) text ↔ Describes (front ++ ['*']) text := by
  constructor
  · intro describes
    obtain ⟨first, second, rfl, opened⟩ := Regex.describes_concat_star_iff.1 describes
    obtain ⟨start, further, rfl, inFront⟩ := Regex.describes_concat_star_iff.1 opened
    exact Regex.describes_concat_star_iff.2
      ⟨start, further ++ second, List.append_assoc _ _ _, inFront⟩
  · exact Describes.concat_star

variable [PropertyTable]

theorem KeepsTexts.accepts (trimmed : Text.trim literal = literal) (kept : KeepsTexts literal)
    (compiled : compile .string literal = some matcher)
    (starred : compile .string (literal ++ wildcard) = some completed)
    (accepted : matcher.accepts (.string text) = true) :
    completed.accepts (.string text) = true := by
  rw [compile_eq_map] at compiled
  rw [compile_concat_star trimmed] at starred
  obtain ⟨narrow, narrowCompiled, rfl⟩ := Option.map_eq_some_iff.1 compiled
  obtain ⟨wide, wideCompiled, rfl⟩ := Option.map_eq_some_iff.1 starred
  cases kept with
  | expression even marked =>
      rw [marked] at narrowCompiled wideCompiled
      exact accepts_negateBy_of_accepts (ne_never_of_compilePlain wideCompiled)
        (fun _ => accepts_expression narrowCompiled wideCompiled) (absurd even) accepted
  | glob even unquoted star =>
      exact accepts_negateBy_of_accepts (ne_never_of_compilePlain wideCompiled)
        (fun _ => accepts_concat_star unquoted (.inl star) narrowCompiled wideCompiled)
        (absurd even) accepted
  | plain even unquoted agrees =>
      exact accepts_negateBy_of_accepts (ne_never_of_compilePlain wideCompiled)
        (fun _ => accepts_concat_star unquoted (.inr agrees) narrowCompiled wideCompiled)
        (absurd even) accepted
  | @openGlob front opened unmarked =>
      rw [opened] at narrowCompiled wideCompiled unmarked
      have same : wide.accepts (.string text) = true ↔ narrow.accepts (.string text) = true := by
        rw [accepts_concat_star_iff unmarked wideCompiled, describes_open_iff,
          accepts_glob_iff unmarked (quoted?_concat_star front) List.mem_concat_self narrowCompiled]
      exact accepts_negateBy_of_accepts (ne_never_of_compilePlain wideCompiled)
        (fun _ => same.2) (fun _ => same.1) accepted

/-- A star at the end of the literal takes exactly the other values away. -/
theorem keeps_iff (trimmed : Text.trim literal = literal)
    (compiled : compile kind literal = some matcher)
    (starred : compile kind (literal ++ wildcard) = some completed) :
    Keeps literal (matcher.accepts value = true) kind value ↔ completed.accepts value = true := by
  constructor
  · intro kept
    cases kept with
    | starred accepts => exact accepts.accepts trimmed starred
    | text accepted keeps => exact keeps.accepts trimmed compiled starred accepted
  · exact fun accepted => .starred (acceptsStarred_of_accepts trimmed starred accepted)

end Keeping

end Matcher

end RecordSearch
