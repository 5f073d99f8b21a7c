import RecordSearch.Proofs.NumberOrder
import RecordSearch.Proofs.Operators

/-!
# Numerals

An integer numeral is a sign, which may be missing, and at least one digit.  It is read as the
integer that it denotes as long as 64 bits can hold it, and else as the nearest value to it.  A
numeral behind an operator is the bound of a comparison.
-/

namespace RecordSearch

namespace Numeral

/-- What may stand before the digits of a numeral, and whether it makes the numeral negative. -/
inductive Sign : Text → Bool → Prop where
  | none : Sign [] false
  | plus : Sign ['+'] false
  | minus : Sign ['-'] true

def OnlyDigits (text : Text) : Prop :=
  ∀ character ∈ text, character.isDigit = true

instance (text : Text) : Decidable (OnlyDigits text) :=
  List.decidableBAll _ text

/-- An integer numeral with the integer that it denotes. -/
inductive Denotes : Text → Int → Prop where
  | intro {sign digits : Text} {negative : Bool} :
      Sign sign negative → digits ≠ [] → OnlyDigits digits →
      Denotes (sign ++ digits) (Binary.signed negative (Nat.ofDigitChars 10 digits 0))

variable {sign digits whole fraction rest : Text} {negative : Bool} {character : Char}
  {format : Format}

section Characters

theorem code_of_isDigit (digit : character.isDigit = true) :
    48 ≤ character.toNat ∧ character.toNat ≤ 57 :=
  Char.isDigit_iff_toNat.1 digit

theorem isBlank_of_isDigit (digit : character.isDigit = true) : Text.isBlank character = false := by
  obtain ⟨above, below⟩ := code_of_isDigit digit
  have apart : ∀ range ∈ Text.blankRanges, range.2 < 48 ∨ 57 < range.1 := by decide
  refine List.any_eq_false.2 fun range member => ?_
  rw [Bool.and_eq_true, decide_eq_true_eq, decide_eq_true_eq]
  have outside := apart range member
  omega

theorem ne_of_isDigit {other : Char} (digit : character.isDigit = true)
    (different : other.isDigit = false) : character ≠ other := by
  rintro rfl
  rw [different] at digit
  cases digit

theorem toLower_of_isDigit (digit : character.isDigit = true) : character.toLower = character := by
  have below : character.toNat ≤ 57 := (code_of_isDigit digit).2
  refine dif_neg fun capital => ?_
  have above : 65 ≤ character.toNat := capital.1
  omega

end Characters

theorem takeSign_append (written : Sign sign negative) (digit : character.isDigit = true) :
    takeSign (sign ++ character :: rest) = (negative, character :: rest) := by
  cases written with
  | none =>
      have notMinus : character ≠ '-' := ne_of_isDigit digit (by decide)
      have notPlus : character ≠ '+' := ne_of_isDigit digit (by decide)
      rw [List.nil_append, takeSign]
      · rintro _ same
        exact notMinus (List.cons.inj same).1
      · rintro _ same
        exact notPlus (List.cons.inj same).1
  | plus => rfl
  | minus => rfl

theorem readInteger_append (written : Sign sign negative) (nonempty : digits ≠ [])
    (decimal : OnlyDigits digits) :
    readInteger (sign ++ digits) = some (Binary.signed negative (digitsValue digits)) := by
  obtain ⟨first, others, rfl⟩ := List.exists_cons_of_ne_nil nonempty
  rw [readInteger, takeSign_append written (decimal first List.mem_cons_self)]
  exact if_pos ⟨nonempty, List.all_eq_true.2 decimal⟩

theorem readInteger_eq_none (written : Sign sign negative) (digit : character.isDigit = true)
    (broken : ¬OnlyDigits rest) : readInteger (sign ++ character :: rest) = none := by
  rw [readInteger, takeSign_append written digit]
  refine if_neg fun decimal => broken fun other member => ?_
  exact List.all_eq_true.1 decimal.2 other (List.mem_cons_of_mem _ member)

theorem readBinary_append (written : Sign sign negative) (digit : character.isDigit = true) :
    (readBinary (sign ++ character :: rest) : Option (Binary format)) =
      (readDecimal (character :: rest)).map (Decimal.toBinary negative) := by
  have notWord {word : Text} (differs : word.head?.any Char.isDigit = false) :
      (character :: rest).map Char.toLower ≠ word := by
    rintro rfl
    rw [List.map_cons, toLower_of_isDigit digit, List.head?_cons, Option.any_some, digit] at differs
    cases differs
  rw [readBinary, takeSign_append written digit]
  dsimp only
  rw [if_neg, if_neg (notWord (by decide))]
  rintro (short | long)
  · exact notWord (by decide) short
  · exact notWord (by decide) long

theorem takeWhile_digits (decimal : OnlyDigits digits)
    (ends : ∀ first ∈ rest.head?, first.isDigit = false) :
    (digits ++ rest).takeWhile Char.isDigit = digits := by
  rw [List.takeWhile_append_of_pos decimal]
  cases rest with
  | nil => exact List.append_nil _
  | cons first others =>
      rw [List.takeWhile_cons_of_neg (Bool.eq_false_iff.1 (ends first rfl)), List.append_nil]

theorem dropWhile_digits (decimal : OnlyDigits digits)
    (ends : ∀ first ∈ rest.head?, first.isDigit = false) :
    (digits ++ rest).dropWhile Char.isDigit = rest := by
  rw [List.dropWhile_append_of_pos decimal]
  cases rest with
  | nil => rfl
  | cons first others => exact List.dropWhile_cons_of_neg (Bool.eq_false_iff.1 (ends first rfl))

theorem takeWhile_onlyDigits (decimal : OnlyDigits digits) :
    digits.takeWhile Char.isDigit = digits :=
  List.takeWhile_eq_self_iff.2 decimal

theorem dropWhile_onlyDigits (decimal : OnlyDigits digits) :
    digits.dropWhile Char.isDigit = [] :=
  List.dropWhile_eq_nil_iff.2 decimal

theorem readDecimal_digits (nonempty : digits ≠ []) (decimal : OnlyDigits digits) :
    readDecimal digits = some ⟨digitsValue digits, 0⟩ := by
  rw [readDecimal, takeWhile_onlyDigits decimal, dropWhile_onlyDigits decimal]
  simp [nonempty, readPower]

theorem readDecimal_point (nonempty : whole ≠ []) (wholeDecimal : OnlyDigits whole)
    (decimal : OnlyDigits fraction) :
    readDecimal (whole ++ '.' :: fraction) =
      some ⟨digitsValue (whole ++ fraction), -(fraction.length : Int)⟩ := by
  have ends : ∀ first ∈ ('.' :: fraction).head?, first.isDigit = false := by simp
  rw [readDecimal, takeWhile_digits wholeDecimal ends, dropWhile_digits wholeDecimal ends]
  simp [takeWhile_onlyDigits decimal, dropWhile_onlyDigits decimal, nonempty, readPower]

end Numeral

namespace Number

variable {integer : Int} {amount : Number} {text : Text}

theorem integer?_ofInteger? (kept : ofInteger? integer = some amount) :
    amount.integer? = some integer := by
  unfold ofInteger? at kept
  split at kept
  case isTrue bounds =>
    obtain rfl := Option.some.inj kept
    exact congrArg some (Int64.toInt_ofInt_of_le bounds.1 (Int.lt_of_le_sub_one bounds.2))
  case isFalse =>
    split at kept
    case isTrue bounds =>
      obtain rfl := Option.some.inj kept
      refine congrArg some ?_
      rw [UInt64.toNat_ofNat_of_lt' (by omega)]
      omega
    case isFalse => cases kept

theorem ofInteger?_eq_none_iff :
    ofInteger? integer = none ↔ integer < -2 ^ 63 ∨ 2 ^ 64 ≤ integer := by
  have least : Int64.minValue.toInt = -2 ^ 63 := by decide
  have greatest : Int64.maxValue.toInt = 2 ^ 63 - 1 := by decide
  have size : UInt64.size = 2 ^ 64 := by decide
  unfold ofInteger?
  rw [least, greatest, size]
  split
  · simp only [reduceCtorEq, false_iff]
    omega
  · split
    · simp only [reduceCtorEq, false_iff]
      omega
    · simp only [true_iff]
      omega

theorem read_of_readBinary {value : Binary64}
    (broken : (Numeral.readInteger text).bind ofInteger? = none)
    (found : Numeral.readBinary text = some value) (known : value ≠ .nan) :
    Number.read text = some (.float value) := by
  rw [Number.read, broken]
  dsimp only
  rw [found]
  cases value with
  | nan => exact absurd rfl known
  | infinity negative => rfl
  | finite negative magnitude => rfl

/-- An integer numeral is read as its integer or, beyond 64 bits, as the nearest value. -/
theorem exists_read_of_denotes (denotes : Numeral.Denotes text integer) :
    ∃ bound, Number.read text = some bound ∧
      bound.toBinary.units? = some (Format.binary64.roundedUnits integer 1) ∧
      (bound.integer? = some integer ∨
        bound.isInteger = false ∧ (integer < -2 ^ 63 ∨ 2 ^ 64 ≤ integer)) := by
  obtain @⟨sign, digits, negative, written, nonempty, decimal⟩ := denotes
  have integral := Numeral.readInteger_append written nonempty decimal
  cases kept : ofInteger? (Binary.signed negative (Numeral.digitsValue digits)) with
  | some bound =>
      have whole := integer?_ofInteger? kept
      refine ⟨bound, ?_, ?_, .inl whole⟩
      · rw [Number.read, integral, Option.bind_some, kept]
      · rw [units?_toBinary (position?_of_integer whole), Format.settle_integer]
        rfl
  | none =>
      let value : Binary64 := Decimal.toBinary negative ⟨Numeral.digitsValue digits, 0⟩
      have units : value.units? = some (Format.binary64.roundedUnits
          (Binary.signed negative (Numeral.digitsValue digits)) 1) := by
        simp only [value]
        rw [Decimal.toBinary_eq_ofQuotient, Binary.units?_ofQuotient, Decimal.numerator,
          Decimal.denominator]
        simp
      refine ⟨.float value, read_of_readBinary ?_ ?_ (Decimal.toBinary_ne_nan negative _), units,
        .inr ⟨rfl, ofInteger?_eq_none_iff.1 kept⟩⟩
      · rw [integral, Option.bind_some, kept]
      · obtain ⟨first, others, rfl⟩ := List.exists_cons_of_ne_nil nonempty
        rw [Numeral.readBinary_append written (decimal first List.mem_cons_self),
          Numeral.readDecimal_digits nonempty decimal]
        rfl

end Number

namespace Comparison

variable {comparison : Comparison} {mark text : Text} {order : Ordering}

/-- The relation between integers for which an operator stands. -/
def Relates : Comparison → Int → Int → Prop
  | .equal, value, bound => value = bound
  | .greater, value, bound => bound < value
  | .greaterOrEqual, value, bound => bound ≤ value
  | .less, value, bound => value < bound
  | .lessOrEqual, value, bound => value ≤ bound

theorem accepts_compare_iff {value bound : Int} :
    comparison.accepts (Ord.compare value bound) = true ↔ comparison.Relates value bound := by
  rcases Int.lt_trichotomy value bound with less | rfl | greater
  · rw [Int.compare_eq_lt.2 less]
    cases comparison <;> simp [accepts, Relates] <;> omega
  · rw [Int.compare_eq_eq.2 rfl]
    cases comparison <;> simp [accepts, Relates]
  · rw [Int.compare_eq_gt.2 greater]
    cases comparison <;> simp [accepts, Relates] <;> omega

instance (comparison : Comparison) (value bound : Int) :
    Decidable (comparison.Relates value bound) :=
  decidable_of_iff _ accepts_compare_iff

/-- A text without blanks and without the marks that have a meaning in a literal for numbers. -/
def Clear (text : Text) : Prop :=
  ∀ character ∈ text, Text.isBlank character = false ∧ character ∉ ['!', '*', '<', '>', '=']

instance (text : Text) : Decidable (Clear text) :=
  List.decidableBAll _ text

theorem Clear.ne_cons {symbol : Char} (clear : Clear text)
    (special : symbol ∈ ['!', '*', '<', '>', '=']) (rest : Text) : text ≠ symbol :: rest := by
  rintro rfl
  exact (clear symbol List.mem_cons_self).2 special

theorem Clear.append (front : Clear mark) (back : Clear text) : Clear (mark ++ text) :=
  fun character member => (List.mem_append.1 member).elim (front character) (back character)

theorem clear_of_sign {negative : Bool} (written : Numeral.Sign text negative) : Clear text := by
  cases written <;> decide

theorem clear_of_onlyDigits (decimal : Numeral.OnlyDigits text) : Clear text := by
  intro character member
  have digit := decimal character member
  refine ⟨Numeral.isBlank_of_isDigit digit, fun marked => ?_⟩
  have unmarked : ['!', '*', '<', '>', '='].any Char.isDigit = false := by decide
  exact List.any_eq_false.1 unmarked character marked digit

theorem clear_of_denotes {integer : Int} (denotes : Numeral.Denotes text integer) : Clear text := by
  obtain @⟨sign, digits, negative, written, nonempty, decimal⟩ := denotes
  exact (clear_of_sign written).append (clear_of_onlyDigits decimal)

theorem Clear.isOperand (clear : Clear text) : IsOperand text where
  trimmed := Text.trim_eq_self_iff.2 fun nonempty =>
    ⟨(clear _ (List.head_mem nonempty)).1, (clear _ (List.getLast_mem nonempty)).1⟩
  unnegated := fun negated => (clear _ (List.mem_of_mem_head? negated)).2 (by decide)
  bare := fun comparison begins => by
    obtain ⟨rest, rfl⟩ := begins
    cases comparison <;> exact clear.ne_cons (by decide) _ rfl

end Comparison

namespace Matcher

variable {comparison : Comparison} {mark text : Text}

/-- An operator in front of a clear text is the operator of a comparison with the number for which
the text stands. -/
theorem compile_number [PropertyTable] {bound : Number} (written : mark ∈ comparison.spellings)
    (clear : Comparison.Clear text) (stands : Number.read text = some bound) :
    compile .number (mark ++ text) = some (.compared comparison bound) := by
  have several : text ≠ wildcard := clear.ne_cons (by decide) []
  rw [compile_operated clear.isOperand several (Comparison.writtenAs_of_mem written), stands]
  rfl

theorem accepts_compared {amount bound : Number} {order : Ordering}
    (compared : amount.compare bound = some order) :
    (Matcher.compared comparison bound).accepts (.number amount) = comparison.accepts order := by
  rw [accepts, compared]
  rfl

end Matcher

end RecordSearch
