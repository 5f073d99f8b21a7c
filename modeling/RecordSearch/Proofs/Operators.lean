import RecordSearch.Proofs.NegationMarks
import RecordSearch.Proofs.PlainTexts

/-!
# Operators and their operands

An operator may be written with blanks on both sides of it.  It is taken off as a whole, and what
stands behind it is its operand, which is read as a number or looked up as a name.
-/

namespace RecordSearch

variable {comparison : Comparison} {mark text : Text} {kind : LeafKind}

namespace Comparison

/-- How an operator may be written; equality need not be written. -/
def spellings : Comparison → List Text
  | .equal => [[], ['=']]
  | comparison => [comparison.symbol]

/-- An operator as it may stand in front of an operand, with blanks around it. -/
def WrittenAs (comparison : Comparison) (mark : Text) : Prop :=
  ∃ symbol ∈ comparison.spellings, Text.Padded symbol mark

/-- A trimmed text that begins with no negation mark and with no operator. -/
structure IsOperand (text : Text) : Prop where
  trimmed : Text.trim text = text
  unnegated : text.head? ≠ some Matcher.negationMark
  bare : ∀ comparison : Comparison, ¬comparison.symbol <+: text

/-- An operator is taken off as a whole: what follows it does not make a longer one of it. -/
theorem takeSymbol_symbol (ends : text.head? ≠ some '=') :
    takeSymbol (comparison.symbol ++ text) = (comparison, text) := by
  have notEqual : ∀ rest, text ≠ '=' :: rest := by
    rintro rest rfl
    exact ends rfl
  cases comparison with
  | equal => rfl
  | greater =>
      change takeSymbol ('>' :: text) = _
      rw [takeSymbol]
      exact notEqual
  | greaterOrEqual => rfl
  | less =>
      change takeSymbol ('<' :: text) = _
      rw [takeSymbol]
      exact notEqual
  | lessOrEqual => rfl

/-- An operator is written by its symbol; only equality can be left out. -/
theorem mem_spellings_iff :
    mark ∈ comparison.spellings ↔ mark = comparison.symbol ∨ comparison = .equal ∧ mark = [] := by
  cases comparison <;> simp [spellings, symbol, or_comm]

theorem writtenAs_of_mem (written : mark ∈ comparison.spellings) : comparison.WrittenAs mark :=
  ⟨mark, written, Text.padded_self mark⟩

theorem IsOperand.takeSymbol_eq (operand : IsOperand text) :
    takeSymbol text = (.equal, text) :=
  Matcher.takeSymbol_of_bare operand.bare

/-- What stands behind an operator is trimmed at its end. -/
theorem trim_symbol_append (comparison : Comparison) (text : Text) :
    Text.trim (comparison.symbol ++ text) = comparison.symbol ++ Text.trimEnd text := by
  cases comparison with
  | equal => exact @Text.trim_append_cons [] text '=' (by decide)
  | greater => exact @Text.trim_append_cons [] text '>' (by decide)
  | greaterOrEqual => exact @Text.trim_append_cons ['>'] text '=' (by decide)
  | less => exact @Text.trim_append_cons [] text '<' (by decide)
  | lessOrEqual => exact @Text.trim_append_cons ['<'] text '=' (by decide)

/-- Behind an operator stand blanks and the operand; an operand alone is left as it is. -/
theorem trim_writtenAs (operand : IsOperand text) (written : comparison.WrittenAs mark) :
    (∃ blanks, (∀ character ∈ blanks, Text.isBlank character = true) ∧
        Text.trim (mark ++ text) = comparison.symbol ++ Text.trimEnd (blanks ++ text)) ∨
      comparison = .equal ∧ Text.trim (mark ++ text) = text := by
  obtain ⟨symbol, spelled, front, back, rfl, frontBlank, backBlank⟩ := written
  rw [List.append_assoc, List.append_assoc, (Text.padded_append frontBlank _).trim_eq]
  rcases mem_spellings_iff.1 spelled with rfl | ⟨rfl, rfl⟩
  · exact .inl ⟨back, backBlank, trim_symbol_append comparison (back ++ text)⟩
  · refine .inr ⟨rfl, ?_⟩
    rw [List.nil_append, (Text.padded_append backBlank text).trim_eq, operand.trimmed]

theorem head?_trimEnd {first : Char} (head : (Text.trimEnd text).head? = some first) :
    text.head? = some first := by
  have front : Text.trimEnd text <+: text := List.rdropWhile_prefix Text.isBlank text
  obtain ⟨rest, whole⟩ := front
  rw [← whole, List.head?_append, head]
  rfl

/-- The operator and the operand are found again, whatever blanks are around the operator. -/
theorem split_writtenAs (operand : IsOperand text) (written : comparison.WrittenAs mark) :
    split (mark ++ text) = (comparison, text) := by
  simp only [split]
  rcases trim_writtenAs operand written with ⟨blanks, blank, trimmed⟩ | ⟨rfl, trimmed⟩
  · have ends : (Text.trimEnd (blanks ++ text)).head? ≠ some '=' := by
      intro equal
      have first := head?_trimEnd equal
      cases blanks with
      | nil =>
          obtain ⟨rest, rfl⟩ := List.head?_eq_some_iff.1 first
          exact operand.bare .equal ⟨rest, rfl⟩
      | cons blankFirst others =>
          obtain rfl := Option.some.inj first
          exact absurd (blank _ List.mem_cons_self) (by decide)
    rw [trimmed, takeSymbol_symbol ends, ← (Text.padded_trimEnd (blanks ++ text)).trim_eq,
      (Text.padded_append blank text).trim_eq, operand.trimmed]
  · rw [trimmed, operand.takeSymbol_eq, operand.trimmed]

end Comparison

namespace Matcher

open Comparison (IsOperand)

theorem compile_of_unnegated [PropertyTable] {literal : Text}
    (unnegated : (Text.trim literal).head? ≠ some negationMark) (kind : LeafKind) :
    compile kind literal = compilePlain kind (Text.trim literal) := by
  rw [compile_padded (Text.padded_trim literal)]
  exact compile_eq_compilePlain (Text.trim_trim literal) unnegated kind

/-- A literal of an operator and an operand is read by the rules for the kind. -/
theorem exists_compilePlain [PropertyTable] (operand : IsOperand text) (several : text ≠ wildcard)
    (written : comparison.WrittenAs mark) (kind : LeafKind) :
    ∃ literal, compile kind (mark ++ text) = compilePlain kind literal ∧ literal ≠ wildcard ∧
      Comparison.split literal = (comparison, text) := by
  have unnegated : (Text.trim (mark ++ text)).head? ≠ some negationMark := by
    rcases Comparison.trim_writtenAs operand written with ⟨blanks, -, trimmed⟩ | ⟨-, trimmed⟩
    · rw [trimmed]
      cases comparison <;> nofun
    · rw [trimmed]
      exact operand.unnegated
  have parts : Comparison.split (Text.trim (mark ++ text)) = (comparison, text) := by
    rw [← Comparison.split_writtenAs operand written]
    simp only [Comparison.split, Text.trim_trim]
  refine ⟨Text.trim (mark ++ text), compile_of_unnegated unnegated kind,
    fun everything => ?_, parts⟩
  rw [everything] at parts
  exact several (Prod.ext_iff.1 parts).2.symm

variable [PropertyTable]

/-- An operator in front of a numeral compares with the number for which it stands, and in front of
anything else accepts nothing. -/
theorem compile_operated (operand : IsOperand text) (several : text ≠ wildcard)
    (written : comparison.WrittenAs mark) :
    compile .number (mark ++ text) =
      some ((Number.read text).elim .never (.compared comparison)) := by
  obtain ⟨literal, compiled, unequal, parts⟩ := exists_compilePlain operand several written .number
  rw [compiled, compilePlain, if_neg unequal]
  simp only [ofNumber_eq, parts]

/-- An operator in front of a name compares with the rank of the first entry of this name. -/
theorem compile_named (operand : IsOperand text) (several : text ≠ wildcard) (nonempty : text ≠ [])
    (written : comparison.WrittenAs mark) (table : List (Text × Int)) :
    compile (.choice table) (mark ++ text) =
      some (if comparison = .equal then .named (Text.lower text)
        else (table.find? fun entry => Text.lowerAscii entry.1 == Text.lowerAscii text).elim .never
          fun entry => .ranked comparison entry.2) := by
  obtain ⟨literal, compiled, unequal, parts⟩ :=
    exists_compilePlain operand several written (.choice table)
  rw [compiled, compilePlain, if_neg unequal]
  simp only [ofChoice_eq, parts, if_neg nonempty]

end Matcher

end RecordSearch
