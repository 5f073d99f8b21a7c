import Mathlib.Algebra.Group.Nat.Even
import RecordSearch.Proofs.Globs
import RecordSearch.Proofs.LetterCase
import RecordSearch.Proofs.LiteralTests
import RecordSearch.Proofs.RepeatedEnd
import RecordSearch.Proofs.Trimming

/-!
# Literals with a star at the end

A literal that is completed has a star at its end.  What the star means there depends on the kind of
leaf and on the rest of the literal.  In a glob or a plain text it lets the value go on, and in a
regular expression it repeats what stands before it.  But it is not part of any number or truth
value, a quotation with a star behind it is no quotation, and behind a negation mark whatever lets
more values through lets fewer through.
-/

namespace RecordSearch.Matcher

open Regex (Describes)

variable {literal core body text name : Text} {kind : LeafKind} {value : Value} {count : Nat}
  {matcher completed : Matcher} {rank : Int}

section Negations

theorem negateBy_never (count : Nat) : negateBy count .never = .never := by
  induction count with
  | zero => rfl
  | succ count induction => rw [negateBy, induction, negate]

theorem negate_ne_never (meaningful : matcher ≠ .never) : matcher.negate ≠ .never := by
  cases matcher with
  | never => exact absurd rfl meaningful
  | _ => exact nofun

theorem accepts_negate (meaningful : matcher ≠ .never) :
    matcher.negate.accepts value = !matcher.accepts value := by
  cases matcher with
  | never => exact absurd rfl meaningful
  | _ => rfl

theorem negateBy_ne_never (meaningful : matcher ≠ .never) : negateBy count matcher ≠ .never := by
  induction count with
  | zero => exact meaningful
  | succ count induction => exact negate_ne_never induction

theorem accepts_negateBy_iff (meaningful : matcher ≠ .never) :
    (negateBy count matcher).accepts value = true ↔
      (Even count ↔ matcher.accepts value = true) := by
  induction count with
  | zero => simp [negateBy]
  | succ count induction =>
      rw [negateBy, accepts_negate (negateBy_ne_never meaningful), Bool.not_eq_true',
        ← Bool.not_eq_true, induction, Nat.even_add_one]
      tauto

/-- An even number of marks passes on what more values are accepted, an odd one what fewer are. -/
theorem accepts_negateBy_of_accepts (meaningful : completed ≠ .never)
    (more : Even count → matcher.accepts value = true → completed.accepts value = true)
    (fewer : ¬Even count → completed.accepts value = true → matcher.accepts value = true)
    (accepted : (negateBy count matcher).accepts value = true) :
    (negateBy count completed).accepts value = true := by
  have narrow : matcher ≠ .never := by
    rintro rfl
    rw [negateBy_never] at accepted
    cases accepted
  rw [accepts_negateBy_iff narrow] at accepted
  rw [accepts_negateBy_iff meaningful]
  exact ⟨fun even => more even (accepted.1 even), fun wide => by_contra fun odd =>
    odd (accepted.2 (fewer odd wide))⟩

end Negations

section Reading

def marks (literal : Text) : Nat :=
  (takeNegations literal).1

theorem takeNegations_concat_star (literal : Text) :
    takeNegations (literal ++ ['*']) =
      ((takeNegations literal).1, (takeNegations literal).2 ++ ['*']) := by
  induction literal with
  | nil => rfl
  | cons character rest induction =>
      rw [List.cons_append, takeNegations, takeNegations, induction]
      split
      · rfl
      · split
        · rfl
        · rfl

/-- What follows the marks of a literal is the end of it and begins with no blank. -/
theorem takeNegations_rest (literal : Text) :
    (takeNegations literal).2 <:+ literal ∧
      ∀ nonempty : (takeNegations literal).2 ≠ [],
        Text.isBlank ((takeNegations literal).2.head nonempty) = false := by
  induction literal with
  | nil => exact ⟨List.suffix_refl [], fun nonempty => absurd rfl nonempty⟩
  | cons character rest induction =>
      obtain ⟨ending, visible⟩ := induction
      simp only [takeNegations]
      split
      · exact ⟨ending.trans (List.suffix_cons character rest), visible⟩
      · split
        · exact ⟨ending.trans (List.suffix_cons character rest), visible⟩
        next shown => exact ⟨List.suffix_refl _, fun _ => Bool.not_eq_true _ ▸ shown⟩

theorem trim_rest (trimmed : Text.trim literal = literal) :
    Text.trim (takeNegations literal).2 = (takeNegations literal).2 := by
  obtain ⟨ending, visible⟩ := takeNegations_rest literal
  rw [Text.trim_eq_self_iff]
  intro nonempty
  refine ⟨visible nonempty, ?_⟩
  rw [ending.getLast nonempty]
  exact (Text.trim_eq_self_iff.1 trimmed _).2

theorem trimEnd_of_trim (trimmed : Text.trim text = text) : Text.trimEnd text = text := by
  rw [Text.trimEnd_eq_rdropWhile, List.rdropWhile_eq_self_iff]
  intro nonempty
  rw [((Text.trim_eq_self_iff.1 trimmed) nonempty).2]
  exact Bool.false_ne_true

theorem bare_eq_rest (trimmed : Text.trim literal = literal) :
    bare literal = (takeNegations literal).2 :=
  trimEnd_of_trim (trim_rest trimmed)

theorem trim_bare (trimmed : Text.trim literal = literal) :
    Text.trim (bare literal) = bare literal := by
  rw [bare_eq_rest trimmed]
  exact trim_rest trimmed

theorem isBlank_star : Text.isBlank '*' = false := by decide

/-- A star behind a trimmed literal comes behind the part that its marks are about. -/
theorem compile_concat_star [PropertyTable] (trimmed : Text.trim literal = literal) :
    compile kind (literal ++ wildcard) =
      (compilePlain kind (bare literal ++ ['*'])).map (negateBy (marks literal)) := by
  rw [compile_eq_map, bare_eq_rest trimmed, marks, wildcard, bare, takeNegations_concat_star,
    Text.trimEnd_append_cons isBlank_star]
  rfl

end Reading

section Cores

/-- The part of a literal behind its marks is no regular expression. -/
def Unmarked (core : Text) : Prop :=
  ∀ body, core ≠ regexMark ++ body

theorem Unmarked.concat_star (unmarked : Unmarked core) : Unmarked (core ++ ['*']) := by
  intro body equal
  rcases List.eq_nil_or_concat' body with rfl | ⟨front, last, rfl⟩
  · rw [List.append_nil] at equal
    have last := congrArg List.getLast? equal
    rw [List.getLast?_concat] at last
    revert last
    decide
  · rw [← List.append_assoc] at equal
    exact unmarked front (List.append_inj_left' equal rfl)

theorem quoted?_concat_star (core : Text) : quoted? (core ++ ['*']) = none := by
  unfold quoted?
  split
  next rest whole =>
    rcases List.eq_nil_or_concat' rest with rfl | ⟨front, last, rfl⟩
    · rfl
    · rw [← List.cons_append] at whole
      obtain rfl : '*' = last := List.singleton_inj.1 (List.append_inj_right' whole rfl)
      rw [List.reverse_append, List.reverse_singleton, List.singleton_append]
      rfl
  next => rfl

variable [PropertyTable]

/-- Neither a regular expression nor a quotation: a glob, if it has a star, or else a plain text. -/
theorem ofString_unmarked (unmarked : Unmarked core) (unquoted : quoted? core = none) :
    ofString core =
      if '*' ∈ core then (Regex.readGlob core).map .pattern
      else some (.sameText (Text.lower core)) := by
  have noMark : regexMark.isPrefixOf? core = none := by
    cases marked : regexMark.isPrefixOf? core with
    | none => rfl
    | some body =>
        exact absurd (List.isPrefixOf?_eq_some_iff_append_eq.1 marked).symm (unmarked body)
  rw [ofString, noMark, unquoted]

theorem accepts_glob_iff (unmarked : Unmarked core) (unquoted : quoted? core = none)
    (star : '*' ∈ core) (compiled : compilePlain .string core = some matcher) :
    matcher.accepts (.string text) = true ↔ Describes core text := by
  unfold compilePlain at compiled
  split at compiled
  next everything =>
    cases compiled
    rw [everything]
    exact iff_of_true rfl (Regex.describes_anything text)
  next =>
    rw [ofString_unmarked unmarked unquoted, if_pos star] at compiled
    obtain ⟨expression, fits, rfl⟩ := Option.map_eq_some_iff.1 compiled
    obtain rfl := Regex.eq_of_fit fits
    exact Regex.matchesIn_ofGlob_iff

/-- With a star at its end, what is no regular expression accepts the texts that begin like it. -/
theorem accepts_concat_star_iff (unmarked : Unmarked core)
    (compiled : compilePlain .string (core ++ ['*']) = some matcher) :
    matcher.accepts (.string text) = true ↔ Describes (core ++ ['*']) text :=
  accepts_glob_iff unmarked.concat_star (quoted?_concat_star core) List.mem_concat_self compiled

/-- Globs accept only texts that they describe.  So do plain texts on which the two ways to ignore
case agree. -/
theorem describes_of_accepts (unmarked : Unmarked core) (unquoted : quoted? core = none)
    (either : '*' ∈ core ∨ Text.CaseAgrees core)
    (compiled : compilePlain .string core = some matcher)
    (accepted : matcher.accepts (.string text) = true) : Describes core text := by
  by_cases star : '*' ∈ core
  · exact (accepts_glob_iff unmarked unquoted star compiled).1 accepted
  · have several : core ≠ wildcard := by
      rintro rfl
      exact star List.mem_cons_self
    rw [compilePlain, if_neg several, ofString_unmarked unmarked unquoted, if_neg star] at compiled
    cases compiled
    have agrees : Text.CaseAgrees core := either.resolve_left star
    exact Regex.describes_of_map_fold_eq star (agrees text (eq_of_beq accepted))

theorem compilePlain_expression (body : Text) :
    compilePlain .string (regexMark ++ body) = (Regex.readWhole body).map .pattern := by
  have several : regexMark ++ body ≠ wildcard := nofun
  rw [compilePlain, if_neg several, ofString, List.isPrefixOf?_eq_some_iff_append_eq.2 rfl]

/-- A regular expression that does not end with a blank is read as it stands. -/
theorem compile_expression {body : Text} (trimmed : Text.trimEnd body = body) :
    compile .string (regexMark ++ body) = (Regex.readWhole body).map .pattern := by
  have unmarked : takeNegations (regexMark ++ body) = (0, regexMark ++ body) := rfl
  have visible : Text.isBlank '/' = false := by decide
  have whole : Text.trimEnd (regexMark ++ body) = regexMark ++ body :=
    (@Text.trimEnd_append_cons ['r'] body '/' visible).trans (congrArg (regexMark ++ ·) trimmed)
  rw [compile_eq_map, bare, unmarked, whole, compilePlain_expression]
  exact Option.map_id'

theorem accepts_expression {body : Text}
    (compiled : compilePlain .string (regexMark ++ body) = some matcher)
    (starred : compilePlain .string (regexMark ++ body ++ ['*']) = some completed)
    (accepted : matcher.accepts (.string text) = true) :
    completed.accepts (.string text) = true := by
  rw [compilePlain_expression] at compiled
  rw [List.append_assoc, compilePlain_expression] at starred
  obtain ⟨narrow, read, rfl⟩ := Option.map_eq_some_iff.1 compiled
  obtain ⟨wide, repeated, rfl⟩ := Option.map_eq_some_iff.1 starred
  exact (Regex.wider_readWhole read repeated).matchesIn accepted

theorem ne_never_of_compilePlain (compiled : compilePlain .string core = some matcher) :
    matcher ≠ .never := by
  rintro rfl
  simp only [compilePlain, ofString] at compiled
  split at compiled
  · cases compiled
  · split at compiled
    · simp at compiled
    · split at compiled
      · cases compiled
      · split at compiled
        · simp at compiled
        · cases compiled

/-- A star lets the text go on, or repeats the end of a regular expression. -/
theorem accepts_concat_star (unquoted : quoted? core = none)
    (either : '*' ∈ core ∨ Text.CaseAgrees core)
    (compiled : compilePlain .string core = some matcher)
    (starred : compilePlain .string (core ++ ['*']) = some completed)
    (accepted : matcher.accepts (.string text) = true) :
    completed.accepts (.string text) = true := by
  by_cases marked : ∃ body, core = regexMark ++ body
  · obtain ⟨body, rfl⟩ := marked
    exact accepts_expression compiled starred accepted
  · have unmarked : Unmarked core := fun body equal => marked ⟨body, equal⟩
    have describes := describes_of_accepts unmarked unquoted either compiled accepted
    exact (accepts_concat_star_iff unmarked starred).2 describes.concat_star

end Cores

section Choices

theorem takeSymbol_concat_star (text : Text) :
    Comparison.takeSymbol (text ++ ['*']) =
      ((Comparison.takeSymbol text).1, (Comparison.takeSymbol text).2 ++ ['*']) := by
  have still {text : Text} {mark : Char} (other : mark ≠ '*')
      (unlike : ∀ rest, text = mark :: rest → False) (further : Text) :
      text ++ ['*'] = mark :: further → False := by
    intro equal
    cases text with
    | nil => exact other (List.cons.inj equal).1.symm
    | cons first rest => exact unlike rest (by rw [(List.cons.inj equal).1])
  fun_cases Comparison.takeSymbol text with
  | case3 rest unlike =>
      rw [List.cons_append, Comparison.takeSymbol]
      exact still (by decide) unlike
  | case4 rest unlike =>
      rw [List.cons_append, Comparison.takeSymbol]
      exact still (by decide) unlike
  | case6 text _ _ notGreater notLess notEqual =>
      rw [Comparison.takeSymbol]
      · exact fun further => still (by decide) notGreater ('=' :: further)
      · exact fun further => still (by decide) notLess ('=' :: further)
      · exact still (by decide) notGreater
      · exact still (by decide) notLess
      · exact still (by decide) notEqual
  | _ => rfl

theorem split_concat_star (trimmed : Text.trim core = core) :
    (Comparison.split (core ++ ['*'])).1 = (Comparison.split core).1 ∧
      '*' ∈ (Comparison.split (core ++ ['*'])).2 := by
  simp only [Comparison.split, Text.trim_concat trimmed isBlank_star, trimmed,
    takeSymbol_concat_star, Text.trim_append_cons isBlank_star]
  exact ⟨trivial, List.mem_append_right _ List.mem_cons_self⟩

def entryFor (table : List (Text × Int)) (name : Text) : Option (Text × Int) :=
  table.find? fun entry => Text.lowerAscii entry.1 == Text.lowerAscii name

end Choices

section Numerals

theorem mem_dropWhile_isDigit (star : '*' ∈ text) : '*' ∈ text.dropWhile Char.isDigit := by
  rw [← @List.takeWhile_append_dropWhile _ Char.isDigit text, List.mem_append] at star
  rcases star with digit | rest
  · exact absurd (List.mem_takeWhile_imp digit) (by decide)
  · exact rest

theorem mem_takeSign (star : '*' ∈ text) : '*' ∈ (Numeral.takeSign text).2 := by
  fun_cases Numeral.takeSign text with
  | case1 rest => exact List.mem_of_ne_of_mem (by decide) star
  | case2 rest => exact List.mem_of_ne_of_mem (by decide) star
  | case3 => exact star

theorem readInteger_eq_none_of_star (star : '*' ∈ text) : Numeral.readInteger text = none := by
  simp only [Numeral.readInteger]
  rw [if_neg]
  rintro ⟨-, decimal⟩
  exact absurd (List.all_eq_true.1 decimal '*' (mem_takeSign star)) (by decide)

theorem readPower_eq_none_of_star (star : '*' ∈ text) : Numeral.readPower text = none := by
  cases text with
  | nil => cases star
  | cons mark rest =>
      rw [Numeral.readPower]
      split
      next exponent =>
        have other : '*' ≠ mark := by
          rintro rfl
          exact absurd exponent (by decide)
        exact readInteger_eq_none_of_star (List.mem_of_ne_of_mem other star)
      next => rfl

theorem readDecimal_eq_none_of_star (star : '*' ∈ text) : Numeral.readDecimal text = none := by
  have behind := mem_dropWhile_isDigit star
  simp only [Numeral.readDecimal]
  split
  next rest point =>
    rw [point] at behind
    have power := readPower_eq_none_of_star
      (mem_dropWhile_isDigit (List.mem_of_ne_of_mem (by decide) behind))
    simp [power]
  next => simp [readPower_eq_none_of_star behind]

theorem readNumber_eq_none_of_star (star : '*' ∈ text) : Number.read text = none := by
  have body := mem_takeSign star
  have word : '*' ∈ (Numeral.takeSign text).2.map Char.toLower := List.mem_map_of_mem body
  have other {name : Text} (plain : '*' ∉ name) :
      (Numeral.takeSign text).2.map Char.toLower ≠ name := fun equal => plain (equal ▸ word)
  have refused : (Numeral.readBinary text : Option Binary64) = none := by
    simp only [Numeral.readBinary]
    rw [if_neg (not_or.2 ⟨other (by decide), other (by decide)⟩), if_neg (other (by decide)),
      readDecimal_eq_none_of_star body]
    rfl
  rw [Number.read, readInteger_eq_none_of_star star, refused]
  rfl

end Numerals

section Starred

theorem several_of_nonempty (nonempty : core ≠ []) : core ++ ['*'] ≠ wildcard :=
  fun whole => nonempty (List.append_left_eq_self.1 whole)

variable [PropertyTable]

/-- What is no regular expression accepts with a star the texts that begin like it, and behind an
odd number of marks all others. -/
theorem accepts_starred_text_iff (trimmed : Text.trim literal = literal)
    (unmarked : Unmarked (bare literal))
    (starred : compile .string (literal ++ wildcard) = some completed) :
    completed.accepts (.string text) = true ↔
      (Even (marks literal) ↔ Describes (bare literal ++ ['*']) text) := by
  rw [compile_concat_star trimmed] at starred
  obtain ⟨wide, wideCompiled, rfl⟩ := Option.map_eq_some_iff.1 starred
  rw [accepts_negateBy_iff (ne_never_of_compilePlain wideCompiled),
    accepts_concat_star_iff unmarked wideCompiled]

theorem accepts_starred_expression_iff {body : Text} (trimmed : Text.trim literal = literal)
    (marked : bare literal = regexMark ++ body)
    (starred : compile .string (literal ++ wildcard) = some completed) :
    ∃ wide, Regex.readWhole (body ++ ['*']) = some wide ∧ ∀ text,
      completed.accepts (.string text) = true ↔
        (Even (marks literal) ↔ wide.matchesIn text = true) := by
  rw [compile_concat_star trimmed, marked, List.append_assoc, compilePlain_expression] at starred
  obtain ⟨_, wideCompiled, rfl⟩ := Option.map_eq_some_iff.1 starred
  obtain ⟨wide, read, rfl⟩ := Option.map_eq_some_iff.1 wideCompiled
  exact ⟨wide, read, fun text => accepts_negateBy_iff nofun⟩

/-- Where the star is part of no literal, marks make no difference. -/
theorem accepts_starred_eq_false (trimmed : Text.trim literal = literal)
    (meaningless : compilePlain kind (bare literal ++ ['*']) = some .never)
    (starred : compile kind (literal ++ wildcard) = some completed) :
    completed.accepts value = false := by
  rw [compile_concat_star trimmed, meaningless, Option.map_some, negateBy_never] at starred
  obtain rfl := Option.some.inj starred
  rfl

theorem compilePlain_number_concat_star (trimmed : Text.trim core = core) (nonempty : core ≠ []) :
    compilePlain .number (core ++ ['*']) = some .never := by
  have refused := readNumber_eq_none_of_star (split_concat_star trimmed).2
  simp only [compilePlain, if_neg (several_of_nonempty nonempty), ofNumber, refused]

theorem compilePlain_bool_concat_star (nonempty : core ≠ []) :
    compilePlain .bool (core ++ ['*']) = some .never := by
  have word : '*' ∈ Text.lowerAscii (core ++ ['*']) :=
    List.mem_map.2 ⟨'*', List.mem_concat_self, rfl⟩
  have other {name : Text} (plain : '*' ∉ name) : Text.lowerAscii (core ++ ['*']) ≠ name :=
    fun equal => plain (equal ▸ word)
  simp only [compilePlain, if_neg (several_of_nonempty nonempty), ofBool]
  rw [if_neg (other (by decide)), if_neg (other (by decide))]

/-- With a star a literal asks for the name with this star, or for the rank of the entry that has
this name. -/
theorem accepts_starred_choice_iff {table : List (Text × Int)}
    (trimmed : Text.trim literal = literal) (nonempty : bare literal ≠ [])
    (starred : compile (.choice table) (literal ++ wildcard) = some completed) :
    completed.accepts (.choice name rank) = true ↔
      if (Comparison.split (bare literal)).1 = .equal then
        (Even (marks literal) ↔
          Text.lowerEach name = Text.lower (Comparison.split (bare literal ++ ['*'])).2)
      else
        ∃ entry, entryFor table (Comparison.split (bare literal ++ ['*'])).2 = some entry ∧
          (Even (marks literal) ↔
            (Comparison.split (bare literal)).1.accepts (compare rank entry.2) = true) := by
  obtain ⟨symbol, star⟩ := split_concat_star (trim_bare trimmed)
  have compiled : compilePlain (.choice table) (bare literal ++ ['*']) =
      some (ofChoice table (bare literal ++ ['*'])) := if_neg (several_of_nonempty nonempty)
  rw [ofChoice_eq, if_neg (List.ne_nil_of_mem star), symbol] at compiled
  by_cases equal : (Comparison.split (bare literal)).1 = .equal
  · rw [compile_concat_star trimmed, compiled, if_pos equal, Option.map_some] at starred
    obtain rfl := Option.some.inj starred
    have meaningful {lowered : Text} : Matcher.named lowered ≠ .never := nofun
    rw [if_pos equal, accepts_negateBy_iff meaningful, accepts, equalsLowered, beq_iff_eq]
  rw [if_neg equal] at compiled ⊢
  change _ = some ((entryFor table _).elim _ _) at compiled
  cases entry : entryFor table (Comparison.split (bare literal ++ ['*'])).2 with
  | none =>
      rw [entry] at compiled
      rw [accepts_starred_eq_false trimmed compiled starred]
      exact iff_of_false nofun nofun
  | some entry =>
      rw [compile_concat_star trimmed, compiled, entry, Option.map_some] at starred
      obtain rfl := Option.some.inj starred
      have meaningful {comparison : Comparison} {bound : Int} :
          Matcher.ranked comparison bound ≠ .never := nofun
      rw [Option.elim_some, accepts_negateBy_iff meaningful, accepts]
      simp only [Option.some.injEq, exists_eq_left']

end Starred

end RecordSearch.Matcher
