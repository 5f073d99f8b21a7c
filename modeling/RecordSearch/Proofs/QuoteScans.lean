import RecordSearch.Proofs.WrittenPairs

/-!
# Where quotations hide separators

Quotes are counted twice: from the start of a raw query to cut it into pairs, and again from the
colon of a pair to cut its values.  The second count knows nothing of what stands before the colon.
All fragments before close their quotations, so the two counts differ exactly in pairs whose label
leaves one open.
-/

namespace RecordSearch.RawQuery

open Text (Closed)

variable {options : Options} {ahead before after behind label : Text} {pair : Pair}

def SeparatesPairs (before after : Text) : Prop :=
  fragments (before ++ pairSeparator :: after) = fragments before ++ fragments after

/-- The comma between the two parts of a list of values separates values. -/
def SeparatesValues (before after : Text) : Prop :=
  splitValues (before ++ valueSeparator :: after) = splitValues before ++ splitValues after

structure EndsInValues (ahead label before : Text) : Prop where
  fragment : (fragments ahead).getLast? = some (label ++ labelSeparator :: before)
  /-- The values begin behind the first colon. -/
  first : labelSeparator ∉ label

instance : DecidableRel SeparatesPairs := fun _ _ =>
  inferInstanceAs (Decidable (_ = _))

instance : DecidableRel SeparatesValues := fun _ _ =>
  inferInstanceAs (Decidable (_ = _))

section Separators

theorem separatesPairs_iff : SeparatesPairs before after ↔ Closed before :=
  Text.splitUnquoted_append_iff pairSeparator_ne_quote

theorem splitValues_eq (values : Text) :
    splitValues values = (Text.splitUnquoted valueSeparator values).map Text.trim :=
  (Text.map_trim_splitUnquoted valueSeparator_ne_quote isBlank_valueSeparator
    (Text.padded_trim values)).symm

/-- Blanks are no quotes, so trimming the values hides no separator and shows none. -/
theorem separatesValues_iff : SeparatesValues before after ↔ Closed before := by
  have differs := valueSeparator_ne_quote
  unfold SeparatesValues
  rw [splitValues_eq, splitValues_eq, splitValues_eq, ← List.map_append]
  constructor
  · intro split
    have cut : Text.IsCut valueSeparator
        (Text.splitUnquoted valueSeparator before ++ Text.splitUnquoted valueSeparator after) := by
      rw [← Text.isCut_map_trim_iff isBlank_valueSeparator, ← split,
        Text.isCut_map_trim_iff isBlank_valueSeparator]
      exact Text.isCut_splitUnquoted differs _
    rw [← Text.join_splitUnquoted differs before]
    exact cut.closed_front differs (Text.splitFrom_ne_nil _ _ _)
  · intro closed
    rw [Text.splitUnquoted_append differs closed]

end Separators

section Fragments

theorem EndsInValues.fragments_eq (inValues : EndsInValues ahead label before) :
    fragments ahead = (fragments ahead).dropLast ++ [label ++ labelSeparator :: before] :=
  (List.dropLast_append_getLast? _ inValues.fragment).symm

theorem EndsInValues.closed_iff (inValues : EndsInValues ahead label before) :
    Closed ahead ↔ Closed (label ++ before) := by
  have cut : Text.IsCut pairSeparator (fragments ahead) :=
    Text.isCut_splitUnquoted pairSeparator_ne_quote ahead
  have joined : Text.join [pairSeparator] (fragments ahead) = ahead :=
    Text.join_splitUnquoted pairSeparator_ne_quote ahead
  rw [inValues.fragments_eq] at cut joined
  rw [← joined, cut.closed_join_iff pairSeparator_ne_quote]
  unfold Closed
  rw [List.count_append, List.count_cons_of_ne (by decide), List.count_append]

theorem EndsInValues.exists_after (inValues : EndsInValues ahead label before) (behind : Text) :
    ∃ after back, fragments (ahead ++ valueSeparator :: behind) = (fragments ahead).dropLast ++
      (label ++ labelSeparator :: (before ++ valueSeparator :: after)) :: back := by
  obtain ⟨front, last, quoted, first, back, split, splitBehind, longer⟩ :=
    Text.exists_splitFrom_append false ahead (valueSeparator :: behind) pairSeparator_ne_quote
  have whole : fragments ahead = front ++ [last] := split
  have parts := inValues.fragments_eq
  rw [whole, List.dropLast_concat, List.append_cancel_left_eq] at parts
  obtain ⟨rfl, _⟩ := List.cons.inj parts
  rw [Text.splitFrom_cons pairSeparator_ne_quote,
    if_neg (fun cut => valueSeparator_ne_pairSeparator cut.1)] at splitBehind
  obtain ⟨piece, pieces, rest⟩ := List.exists_cons_of_ne_nil (Text.splitFrom_ne_nil pairSeparator
    (Text.openBehind quoted valueSeparator) behind)
  rw [rest] at splitBehind
  obtain ⟨rfl, rfl⟩ := List.cons.inj splitBehind
  refine ⟨piece, pieces, ?_⟩
  rw [whole, List.dropLast_concat, fragments, Text.splitUnquoted, longer, List.append_assoc,
    List.cons_append]

theorem values_of_readPair {values : Text} (first : labelSeparator ∉ label)
    (found : readPair options (label ++ labelSeparator :: values) = .ok pair) :
    pair.values = (splitValues values).filter fun value =>
      options.allowEmptyValues || value ≠ [] := by
  obtain ⟨other, others, parts, otherFirst, _, _, rfl⟩ := readPair_eq_ok_iff.1 found
  have cut : some (label, values) = some (other, others) :=
    (Text.cutAt_eq_some_iff.2 ⟨rfl, first⟩).symm.trans
      (Text.cutAt_eq_some_iff.2 ⟨parts, otherFirst⟩)
  obtain ⟨rfl, rfl⟩ := Prod.mk.inj (Option.some.inj cut)
  rw [keptValues, splitValues_eq]

end Fragments

/-- A plus sign separates pairs exactly where an even number of quotes stands before it.  A comma
behind the first colon of a pair separates values exactly where an even number of quotes stands
between that colon and the comma, which is the same count if and only if the label has an even
number of quotes. -/
theorem quote_scans_agree_iff (raw : Text) :
    (∀ before after, raw = before ++ pairSeparator :: after →
      (SeparatesPairs before after ↔ Closed before)) ∧
    ∀ ahead behind label before, raw = ahead ++ valueSeparator :: behind →
      EndsInValues ahead label before →
      ∃ after back,
        fragments raw = (fragments ahead).dropLast ++
          (label ++ labelSeparator :: (before ++ valueSeparator :: after)) :: back ∧
        (∀ options pair,
          readPair options (label ++ labelSeparator :: (before ++ valueSeparator :: after)) =
            .ok pair →
          pair.values = (splitValues (before ++ valueSeparator :: after)).filter fun value =>
            options.allowEmptyValues || value ≠ []) ∧
        (SeparatesValues before after ↔ Closed before) ∧
        ((SeparatesValues before after ↔ Closed ahead) ↔ Closed label) := by
  constructor
  · intro before after _
    exact separatesPairs_iff
  · intro ahead behind label before parts inValues
    obtain ⟨after, back, split⟩ := inValues.exists_after behind
    refine ⟨after, back, ?_, ?_, separatesValues_iff, ?_⟩
    · rw [parts]
      exact split
    · intro options pair found
      exact values_of_readPair inValues.first found
    · rw [separatesValues_iff, inValues.closed_iff]
      unfold Closed
      rw [List.count_append, Nat.even_add]
      tauto

end RecordSearch.RawQuery

namespace RecordSearch.Samples

open RawQuery

/-- In `Tag:"a+b"+Name:"x,y",z` both counts agree: the first of its plus signs stands inside a
quotation, and so does the first of its commas. -/
theorem quote_scans_agree_iff_tags :
    (¬SeparatesPairs "Tag:\"a".toList "b\"+Name:\"x,y\",z".toList ∧
      SeparatesPairs "Tag:\"a+b\"".toList "Name:\"x,y\",z".toList) ∧
    EndsInValues "Tag:\"a+b\"+Name:\"x".toList "Name".toList "\"x".toList ∧
      ∃ after, ¬SeparatesValues "\"x".toList after := by
  obtain ⟨plus, comma⟩ := quote_scans_agree_iff "Tag:\"a+b\"+Name:\"x,y\",z".toList
  have inValues : EndsInValues "Tag:\"a+b\"+Name:\"x".toList "Name".toList "\"x".toList :=
    ⟨rfl, by decide⟩
  refine ⟨⟨?_, ?_⟩, inValues, ?_⟩
  · rw [plus _ _ rfl]
    decide
  · rw [plus _ _ rfl]
    decide
  · obtain ⟨after, _, _, _, separates, _⟩ := comma _ "y\",z".toList _ _ rfl inValues
    exact ⟨after, by rw [separates]; decide⟩

/-- A label with one quote: the comma in `Na"me:"x,y"` stands behind two quotes, but inside the
quotation that its value is; the one in `Na"me:x,y"` behind one quote, but in no quoted value. -/
theorem quoted_label_shifts_scan :
    (EndsInValues "Na\"me:\"x".toList "Na\"me".toList "\"x".toList ∧
      Text.Closed "Na\"me:\"x".toList ∧ ¬SeparatesValues "\"x".toList "y\"".toList ∧
      pairs {} "Na\"me:\"x,y\"".toList =
        [{ label := "Na\"me".toList, values := ["\"x,y\"".toList] }]) ∧
    EndsInValues "Na\"me:x".toList "Na\"me".toList "x".toList ∧
      ¬Text.Closed "Na\"me:x".toList ∧ SeparatesValues "x".toList "y\"".toList ∧
      pairs {} "Na\"me:x,y\"".toList =
        [{ label := "Na\"me".toList, values := ["x".toList, "y\"".toList] }] := by
  refine ⟨⟨⟨rfl, by decide⟩, by decide, by decide, ?_⟩, ⟨rfl, by decide⟩, by decide, by decide, ?_⟩
  · decide
  · decide

end RecordSearch.Samples
