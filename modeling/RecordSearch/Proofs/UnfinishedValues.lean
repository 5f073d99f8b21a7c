import RecordSearch.Proofs.Completion

/-!
# The value being typed

A text can be read with its last value still being typed, or as a finished one.  Both readings drop
the same fragments and make queries of the same form.  Only the last condition differs: its value
goes on, and it is shown to the reader of the results.
-/

namespace RecordSearch

namespace Query

variable {Alike : Condition → Condition → Prop} {left right : Query} {lefts rights : List Query}
  {finished completed : FieldMatch}

/-- Two queries of one form have the same conditions but for the last one on a field. -/
structure DifferInLast (finished completed : FieldMatch) (left right : Query) : Prop where
  sameForm : left.SameForm
    (fun one other => one = other ∨ one = .field finished ∧ other = .field completed) right
  fields : ∃ front, left.fields = front ++ [finished] ∧ right.fields = front ++ [completed]

section SameForm

theorem SameForm.refl (alike : ∀ condition, Alike condition condition) (query : Query) :
    query.SameForm Alike query := by
  induction query with
  | conjunction children induction => exact .conjunction (List.forall₂_same.2 induction)
  | disjunction children induction => exact .disjunction (List.forall₂_same.2 induction)
  | boolean must mustNot mustInduction mustNotInduction =>
      exact .boolean (List.forall₂_same.2 mustInduction) (List.forall₂_same.2 mustNotInduction)
  | base condition => exact .base (alike condition)
  | empty => exact .empty

/-- Groups collapse alike if they have the same number of members. -/
theorem SameForm.collapse {wrap : List Query → Query}
    (wrapped : List.Forall₂ (SameForm Alike) lefts rights →
      (wrap lefts).SameForm Alike (wrap rights))
    (members : List.Forall₂ (SameForm Alike) lefts rights) :
    (Query.collapse wrap lefts).SameForm Alike (Query.collapse wrap rights) := by
  cases members with
  | nil => exact .empty
  | cons first rest =>
      cases rest with
      | nil => exact first
      | cons second rest => exact wrapped (.cons first (.cons second rest))

end SameForm

namespace DifferInLast

theorem single (finished completed : FieldMatch) :
    DifferInLast finished completed (.base (.field finished)) (.base (.field completed)) :=
  ⟨.base (.inr ⟨rfl, rfl⟩), [], rfl, rfl⟩

/-- Two groups that differ in their last member only. -/
theorem collapse {wrap : List Query → Query} (differ : DifferInLast finished completed left right)
    (wrapped : ∀ {Alike : Condition → Condition → Prop} {lefts rights : List Query},
      List.Forall₂ (SameForm Alike) lefts rights → (wrap lefts).SameForm Alike (wrap rights))
    (fields : ∀ queries, (Query.collapse wrap queries).fields = queries.flatMap Query.fields)
    (front : List Query) :
    DifferInLast finished completed (Query.collapse wrap (front ++ [left]))
      (Query.collapse wrap (front ++ [right])) := by
  constructor
  · have same : List.Forall₂ (SameForm fun one other =>
        one = other ∨ one = .field finished ∧ other = .field completed) front front :=
      List.forall₂_same.2 fun member _ => .refl (fun _ => .inl rfl) member
    exact SameForm.collapse wrapped (List.rel_append same (.cons differ.sameForm .nil))
  · obtain ⟨before, leftFields, rightFields⟩ := differ.fields
    refine ⟨front.flatMap Query.fields ++ before, ?_, ?_⟩
    · rw [fields, List.flatMap_append, List.flatMap_singleton, leftFields, List.append_assoc]
    · rw [fields, List.flatMap_append, List.flatMap_singleton, rightFields, List.append_assoc]

theorem allOf (differ : DifferInLast finished completed left right) (front : List Query) :
    DifferInLast finished completed (Query.allOf (front ++ [left]))
      (Query.allOf (front ++ [right])) :=
  differ.collapse .conjunction fields_allOf front

theorem anyOf (differ : DifferInLast finished completed left right) (front : List Query) :
    DifferInLast finished completed (Query.anyOf (front ++ [left]))
      (Query.anyOf (front ++ [right])) :=
  differ.collapse .disjunction fields_anyOf front

end DifferInLast

end Query

namespace RawQuery

variable {options other : Options} {raw typed : Text} {values : List Text} {pair : Pair}
  {kept : List Pair} {field : FieldMatch}

theorem skippedPairs_congr (same : options.allowEmptyValues = other.allowEmptyValues)
    (raw : Text) : skippedPairs options raw = skippedPairs other raw := by
  simp only [skippedPairs, readPair, same]

theorem highlight_finished (member : field ∈ (pairQueries false kept).flatMap Query.fields) :
    field.highlight = false := by
  rw [pairQueries_false, List.flatMap_map] at member
  obtain ⟨pair, _, inside⟩ := List.mem_flatMap.1 member
  rw [fields_pairQuery, fieldMatches_false] at inside
  obtain ⟨value, _, rfl⟩ := List.mem_map.1 inside
  rfl

theorem differInLast_pairQuery (last : pair.values = values ++ [typed]) :
    Query.DifferInLast (finishedMatch pair.label typed) (completingMatch pair.label typed)
      (pairQuery false pair) (pairQuery true pair) := by
  simp only [pairQuery, last, fieldMatches_concat, List.map_append, List.map_singleton]
  exact (Query.DifferInLast.single _ _).anyOf _

/-- Whether or not the last value of a text is still being typed, the same fragments are dropped and
the same label is the last one, as long as empty values are kept in both cases or in neither.  If
there is a pair in the text, the two queries differ only in the last condition: it is on the last
value of the last pair, and shown and with a star behind this value if that is still being typed. -/
theorem completing_changes_last_value (options : Options) (raw : Text) :
    (read { options with autocomplete := true } raw).skipped =
        (read { options with autocomplete := false } raw).skipped ∧
      (read { options with autocomplete := true } raw).lastLabel =
        (read { options with autocomplete := false } raw).lastLabel ∧
      (∀ field ∈ (read { options with autocomplete := false } raw).query.fields,
        field.highlight = false) ∧
      ((pairs options raw = [] ∧
          (read { options with autocomplete := false } raw).query = .empty ∧
          (read { options with autocomplete := true } raw).query = .empty) ∨
        ∃ pair typed, (pairs options raw).getLast? = some pair ∧
          pair.values.getLast? = some typed ∧
          Query.DifferInLast
            { label := pair.label, value := if typed = [] then ['*'] else typed }
            { label := pair.label, value := typed ++ ['*'], highlight := true }
            (read { options with autocomplete := false } raw).query
            (read { options with autocomplete := true } raw).query) := by
  have same (autocomplete : Bool) : pairs { options with autocomplete } raw = pairs options raw :=
    pairs_congr rfl raw
  refine ⟨skippedPairs_congr rfl raw, ?_, ?_, ?_⟩
  · simp only [read, same]
  · intro field member
    rw [fields_read] at member
    exact highlight_finished member
  · simp only [read, same]
    rcases List.eq_nil_or_concat' (pairs options raw) with none | ⟨front, pair, parts⟩
    · rw [none]
      exact .inl ⟨rfl, rfl, rfl⟩
    · have wellFormed : pair.WellFormed :=
        wellFormed_of_mem_pairs (parts ▸ List.mem_concat_self : pair ∈ pairs options raw)
      obtain ⟨values, typed, last⟩ := (List.eq_nil_or_concat' _).resolve_left wellFormed.nonempty
      right
      refine ⟨pair, typed, ?_, ?_, ?_⟩
      · rw [parts, List.getLast?_concat]
      · rw [last, List.getLast?_concat]
      · rw [parts, pairQueries_concat, pairQueries_concat]
        exact (differInLast_pairQuery last).allOf _

example :
    (read { autocomplete := true } "Name:Bob+Tag:vip,st, +x".toList).query =
      .conjunction [
        .matchField "Name".toList "Bob".toList,
        .disjunction [
          .matchField "Tag".toList "vip".toList,
          .base (.field ⟨"Tag".toList, "st*".toList, true⟩)]] := by rfl

end RawQuery

end RecordSearch
