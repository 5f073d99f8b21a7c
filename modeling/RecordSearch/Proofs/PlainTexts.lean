import RecordSearch.Proofs.CompletedLiterals
import RecordSearch.Samples.Properties

/-!
# Plain texts and names

A literal without any mark of its own is compared with a text by lowercase, and so is a literal for
choices without an operator with the name of a choice.  The literal is lowercased as a whole and the
text of the value character by character.  The two agree unless the value has a capital sigma at the
end of a word, since only as a part of a whole text such a sigma becomes a final one.
-/

namespace RecordSearch

namespace Text

variable {text before : Text}

/-- A word of the text ends with a capital sigma. -/
def HasFinalSigma (text : Text) : Prop :=
  ∃ front back, text = front ++ 'Σ' :: back ∧ meetsCased front.reverse = true ∧
    meetsCased back = false

/-- The lowercase of one character between what comes before it, read backwards, and behind it. -/
def lowerBetween (before : Text) (character : Char) (behind : Text) : Text :=
  if character = 'Σ' then
    if meetsCased before && !meetsCased behind then ['ς'] else ['σ']
  else
    lowerChar character

theorem lowerAfter_cons (before : Text) (character : Char) (behind : Text) :
    lowerAfter before (character :: behind) =
      lowerBetween before character behind ++ lowerAfter (character :: before) behind :=
  rfl

theorem lowerChar_sigma : lowerChar 'Σ' = ['σ'] := by
  decide +kernel

theorem length_lowerBetween (before : Text) (character : Char) (behind : Text) :
    (lowerBetween before character behind).length = (lowerChar character).length := by
  unfold lowerBetween
  split
  case isTrue capital =>
    rw [capital, lowerChar_sigma]
    split <;> rfl
  case isFalse => rfl

/-- Only a final sigma makes the place of a character matter. -/
theorem lowerBetween_eq_lowerChar_iff {character : Char} {behind : Text} :
    lowerBetween before character behind = lowerChar character ↔
      ¬(character = 'Σ' ∧ meetsCased before = true ∧ meetsCased behind = false) := by
  unfold lowerBetween
  by_cases capital : character = 'Σ'
  · subst capital
    rw [if_pos rfl, lowerChar_sigma]
    cases meetsCased before <;> cases meetsCased behind <;> simp
  · simp [capital]

/-- Taking the characters one by one gives the lowercase of the whole text, unless there is a final
sigma behind what comes before. -/
theorem lowerAfter_eq_lowerEach_iff :
    lowerAfter before text = lowerEach text ↔
      ¬∃ front back, text = front ++ 'Σ' :: back ∧
        meetsCased (front.reverse ++ before) = true ∧ meetsCased back = false := by
  induction text generalizing before with
  | nil => simp [lowerAfter, lowerEach]
  | cons character text induction =>
      have whole : lowerEach (character :: text) = lowerChar character ++ lowerEach text := rfl
      rw [lowerAfter_cons, whole,
        List.append_eq_append_iff_of_size_eq_left (length_lowerBetween before character text),
        lowerBetween_eq_lowerChar_iff, induction, ← not_or]
      refine not_congr ⟨?_, ?_⟩
      · rintro (⟨rfl, cased, final⟩ | ⟨front, back, rfl, cased, final⟩)
        · exact ⟨[], text, rfl, cased, final⟩
        · exact ⟨character :: front, back, rfl, by simpa using cased, final⟩
      · rintro ⟨front, back, parts, cased, final⟩
        cases front with
        | nil =>
            obtain ⟨rfl, rfl⟩ := List.cons.inj parts
            exact .inl ⟨rfl, cased, final⟩
        | cons first front =>
            obtain ⟨rfl, rfl⟩ := List.cons.inj parts
            exact .inr ⟨front, back, rfl, by simpa using cased, final⟩

theorem lower_eq_lowerEach_iff : lower text = lowerEach text ↔ ¬text.HasFinalSigma := by
  rw [lower, lowerAfter_eq_lowerEach_iff]
  simp only [HasFinalSigma, List.append_nil]

theorem lowerEach_eq_nil_iff : lowerEach text = [] ↔ text = [] := by
  have nonempty (character : Char) : lowerChar character ≠ [] := by
    unfold lowerChar
    split <;> exact List.cons_ne_nil _ _
  rw [lowerEach, List.flatMap_eq_nil_iff]
  simp only [nonempty, imp_false, List.eq_nil_iff_forall_not_mem]

instance : DecidablePred HasFinalSigma := fun text =>
  decidable_of_iff (lower text ≠ lowerEach text) (by rw [ne_eq, lower_eq_lowerEach_iff, not_not])

end Text

namespace Matcher

variable {literal text name : Text} {kind : LeafKind} {value : Value} {table : List (Text × Int)}

/-- A trimmed literal that is neither negated nor a regular expression nor in quotes. -/
structure IsUnadorned (literal : Text) : Prop where
  trimmed : Text.trim literal = literal
  unnegated : literal.head? ≠ some negationMark
  unmarked : Unmarked literal
  unquoted : ∀ inner, literal ≠ '"' :: (inner ++ ['"'])

/-- A literal that stands for a text and for nothing else. -/
structure IsPlain (literal : Text) : Prop extends IsUnadorned literal where
  unstarred : '*' ∉ literal

/-- A literal that stands for the name of a choice: it has no operator and is no wildcard. -/
structure IsName (literal : Text) : Prop where
  trimmed : Text.trim literal = literal
  unnegated : literal.head? ≠ some negationMark
  several : literal ≠ wildcard
  bare : ∀ comparison : Comparison, ¬comparison.symbol <+: literal

/-- For leaves of the kind the literal is compared with this text of the value. -/
inductive ComparesText (literal : Text) : LeafKind → Value → Text → Prop
  | string {text : Text} :
      IsPlain literal →
      ComparesText literal .string (.string text) text
  | choice {table : List (Text × Int)} {name : Text} {rank : Int} :
      IsName literal →
      name ≠ [] →
      ComparesText literal (.choice table) (.choice name rank) name

section Literals

theorem quoted?_eq_some_iff {inner : Text} :
    quoted? text = some inner ↔ text = '"' :: (inner ++ ['"']) := by
  unfold quoted?
  split
  next rest =>
    split
    next reversed equal =>
      rw [List.reverse_eq_iff, List.reverse_cons] at equal
      rw [Option.some.injEq, equal, List.cons.injEq, List.append_left_inj]
      exact ⟨fun same => ⟨rfl, same⟩, fun same => same.2⟩
    next other =>
      refine iff_of_false nofun fun equal => other inner.reverse ?_
      rw [(List.cons.inj equal).2, List.reverse_append, List.reverse_singleton,
        List.singleton_append]
  next other => exact iff_of_false nofun fun equal => other _ equal

theorem quoted?_eq_none_iff : quoted? text = none ↔ ∀ inner, text ≠ '"' :: (inner ++ ['"']) := by
  simp only [Option.eq_none_iff_forall_ne_some, ne_eq, quoted?_eq_some_iff]

instance : DecidablePred Unmarked := fun text =>
  decidable_of_iff (¬regexMark <+: text) <| by
    simp only [Unmarked, List.IsPrefix, not_exists, ne_eq, eq_comm]

instance : DecidablePred IsUnadorned := fun literal =>
  decidable_of_iff (Text.trim literal = literal ∧ literal.head? ≠ some negationMark ∧
      Unmarked literal ∧ quoted? literal = none) <| by
    rw [quoted?_eq_none_iff]
    exact ⟨fun ⟨trimmed, unnegated, unmarked, unquoted⟩ =>
        ⟨trimmed, unnegated, unmarked, unquoted⟩,
      fun ⟨trimmed, unnegated, unmarked, unquoted⟩ =>
        ⟨trimmed, unnegated, unmarked, unquoted⟩⟩

instance : DecidablePred IsPlain := fun literal =>
  decidable_of_iff (IsUnadorned literal ∧ '*' ∉ literal)
    ⟨fun plain => ⟨plain.1, plain.2⟩, fun plain => ⟨plain.toIsUnadorned, plain.unstarred⟩⟩

theorem takeNegations_eq_self (trimmed : Text.trim literal = literal)
    (unnegated : literal.head? ≠ some negationMark) : takeNegations literal = (0, literal) := by
  cases literal with
  | nil => rfl
  | cons first rest =>
      have notMark : first ≠ negationMark := fun same => unnegated (congrArg some same)
      have visible : Text.isBlank first = false :=
        ((Text.trim_eq_self_iff.1 trimmed) (List.cons_ne_nil first rest)).1
      rw [takeNegations, if_neg notMark, visible, if_neg Bool.false_ne_true]

theorem takeSymbol_of_bare (bare : ∀ comparison : Comparison, ¬comparison.symbol <+: literal) :
    Comparison.takeSymbol literal = (.equal, literal) := by
  unfold Comparison.takeSymbol
  split
  next rest => exact absurd ⟨rest, rfl⟩ (bare .greaterOrEqual)
  next rest => exact absurd ⟨rest, rfl⟩ (bare .lessOrEqual)
  next rest _ => exact absurd ⟨rest, rfl⟩ (bare .greater)
  next rest _ => exact absurd ⟨rest, rfl⟩ (bare .less)
  next rest => exact absurd ⟨rest, rfl⟩ (bare .equal)
  next => rfl

variable [PropertyTable]

theorem compile_eq_compilePlain (trimmed : Text.trim literal = literal)
    (unnegated : literal.head? ≠ some negationMark) (kind : LeafKind) :
    compile kind literal = compilePlain kind literal := by
  rw [compile_eq_map, bare, takeNegations_eq_self trimmed unnegated, trimEnd_of_trim trimmed]
  exact Option.map_id'

theorem IsUnadorned.compile_string (unadorned : IsUnadorned literal)
    (several : literal ≠ wildcard) :
    compile .string literal =
      if '*' ∈ literal then (Regex.readGlob literal).map .pattern
      else some (.sameText (Text.lower literal)) := by
  rw [compile_eq_compilePlain unadorned.trimmed unadorned.unnegated, compilePlain, if_neg several]
  exact ofString_unmarked unadorned.unmarked (quoted?_eq_none_iff.2 unadorned.unquoted)

theorem IsPlain.compile_string (plain : IsPlain literal) :
    compile .string literal = some (.sameText (Text.lower literal)) := by
  have several : literal ≠ wildcard := by
    rintro rfl
    exact plain.unstarred List.mem_cons_self
  rw [plain.toIsUnadorned.compile_string several, if_neg plain.unstarred]

theorem IsName.compile_choice (isName : IsName literal) (table : List (Text × Int)) :
    compile (.choice table) literal =
      some (if literal = [] then .never else .named (Text.lower literal)) := by
  have whole : Comparison.split literal = (.equal, literal) := by
    simp only [Comparison.split, isName.trimmed, takeSymbol_of_bare isName.bare]
  rw [compile_eq_compilePlain isName.trimmed isName.unnegated, compilePlain,
    if_neg isName.several]
  simp only [ofChoice, whole, if_true]

end Literals

variable [PropertyTable]

section Comparisons

theorem ComparesText.exists_compile (compares : ComparesText literal kind value text) :
    ∃ matcher, compile kind literal = some matcher ∧
      (matcher.accepts value = true ↔ Text.lowerEach text = Text.lower literal) := by
  cases compares with
  | string plain => exact ⟨_, plain.compile_string, beq_iff_eq⟩
  | choice isName named =>
      refine ⟨_, isName.compile_choice _, ?_⟩
      split
      next nothing =>
        rw [nothing]
        exact iff_of_false nofun fun same => named (Text.lowerEach_eq_nil_iff.1 same)
      next => exact beq_iff_eq

/-- A test on plain texts or on names asks for the same lowercase of the literal and the text, as
long as no capital sigma ends a word of the text.  If one does, no literal of the same lowercase
accepts the text, so the text does not even accept itself. -/
theorem compared_as_lowercase (compares : ComparesText literal kind value text) :
    ∃ matcher, compile kind literal = some matcher ∧
      (matcher.accepts value = true ↔ Text.lowerEach text = Text.lower literal) ∧
      (¬text.HasFinalSigma →
        (matcher.accepts value = true ↔ Text.lower text = Text.lower literal)) ∧
      (text.HasFinalSigma → Text.lower text = Text.lower literal →
        matcher.accepts value = false) ∧
      (text = literal → (matcher.accepts value = true ↔ ¬text.HasFinalSigma)) ∧
      ∀ otherKind otherValue other, ComparesText text otherKind otherValue literal →
        compile otherKind text = some other →
        ¬literal.HasFinalSigma → ¬text.HasFinalSigma →
        (matcher.accepts value = true ↔ other.accepts otherValue = true) := by
  obtain ⟨matcher, compiled, accepts⟩ := compares.exists_compile
  refine ⟨matcher, compiled, accepts, fun none => ?_, fun final same => ?_, ?_, ?_⟩
  · rw [accepts, Text.lower_eq_lowerEach_iff.2 none]
  · rw [← Bool.not_eq_true, accepts, ← same]
    exact fun each => Text.lower_eq_lowerEach_iff.1 each.symm final
  · rintro rfl
    rw [accepts, eq_comm, Text.lower_eq_lowerEach_iff]
  · intro otherKind otherValue other reversed otherCompiled literalNone textNone
    obtain ⟨_, equal, otherAccepts⟩ := reversed.exists_compile
    obtain rfl := Option.some.inj (otherCompiled.symm.trans equal)
    rw [accepts, otherAccepts, ← Text.lower_eq_lowerEach_iff.2 literalNone,
      ← Text.lower_eq_lowerEach_iff.2 textNone]
    exact eq_comm

end Comparisons

end Matcher

namespace Samples

open Matcher

/-- A name in capitals, the last of which is a sigma. -/
def odysseus : Text := "ΟΔΥΣΣΕΎΣ".toList

theorem compared_as_lowercase_odysseus :
    ComparesText odysseus .string (.string "Οδυσσεύς".toList) "Οδυσσεύς".toList ∧
      ∃ matcher, compile .string odysseus = some matcher ∧
        matcher.accepts (.string "Οδυσσεύς".toList) = true := by
  have compares :
      ComparesText odysseus .string (.string "Οδυσσεύς".toList) "Οδυσσεύς".toList :=
    .string (by decide +kernel)
  obtain ⟨matcher, compiled, -, asLowercase, -⟩ := compared_as_lowercase compares
  exact ⟨compares, matcher, compiled, (asLowercase (by decide +kernel)).2 (by decide +kernel)⟩

/-- A text that is compared with itself and not accepted. -/
theorem capital_sigma_refuses_itself :
    IsPlain odysseus ∧ ∃ matcher, compile .string odysseus = some matcher ∧
      ¬(matcher.accepts (.string odysseus) = true ↔
        Text.lower odysseus = Text.lower odysseus) := by
  have plain : IsPlain odysseus := by decide +kernel
  exact ⟨plain, _, plain.compile_string, by decide +kernel⟩

end Samples

end RecordSearch
