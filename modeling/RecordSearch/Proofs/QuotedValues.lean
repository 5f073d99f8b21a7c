import RecordSearch.Proofs.RegisteredPlaces
import RecordSearch.Proofs.WrittenPairs
import RecordSearch.Samples.People

/-!
# Quoted values

A value in double quotes stands for itself.  Whatever text without quotes stands between them, no
cut, no trimming and no mark of a literal changes it: the value finds the leaves that are this text.
-/

namespace RecordSearch

variable {text label : Text} {value : Value} {path : FieldPath}

namespace Text

theorem isBlank_quote : isBlank '"' = false := by decide

theorem inQuotes_ne_nil : text.inQuotes ≠ [] :=
  List.cons_ne_nil _ _

theorem trimEnd_inQuotes : trimEnd text.inQuotes = text.inQuotes :=
  trimEnd_append_cons isBlank_quote

theorem trim_inQuotes : trim text.inQuotes = text.inQuotes := by
  rw [trim_eq_self_iff]
  intro _
  constructor
  · exact isBlank_quote
  · simp only [inQuotes, List.getLast_append_singleton]
    exact isBlank_quote

end Text

namespace Matcher

theorem takeNegations_cons {character : Char} {rest : Text} (unmarked : character ≠ negationMark)
    (visible : Text.isBlank character = false) :
    takeNegations (character :: rest) = (0, character :: rest) := by
  rw [takeNegations, if_neg unmarked, visible]
  rfl

theorem quoted?_inQuotes : quoted? text.inQuotes = some text := by
  simp [Text.inQuotes, quoted?]

theorem ofString_inQuotes [PropertyTable] : ofString text.inQuotes = some (.exactText text) := by
  have unmarked : regexMark.isPrefixOf? text.inQuotes = none := rfl
  rw [ofString, unmarked, quoted?_inQuotes]

theorem compilePlain_inQuotes [PropertyTable] :
    compilePlain .string text.inQuotes = some (.exactText text) := by
  have quote_ne_star : '"' ≠ '*' := by decide
  have narrow : text.inQuotes ≠ wildcard := fun equal => quote_ne_star (List.cons.inj equal).1
  rw [compilePlain, if_neg narrow, ofString_inQuotes]

/-- A quoted text has no mark that would be read in it: its test is equality with the text. -/
theorem compile_inQuotes [PropertyTable] :
    compile .string text.inQuotes = some (.exactText text) := by
  have whole : takeNegations text.inQuotes = (0, text.inQuotes) :=
    takeNegations_cons (by decide) Text.isBlank_quote
  rw [compile_eq_map, bare, whole, Text.trimEnd_inQuotes, compilePlain_inQuotes]
  rfl

theorem accepts_exactText_iff : (exactText text).accepts value = true ↔ value = .string text := by
  cases value <;> simp [accepts]

end Matcher

/-- With a single matcher there is no choice between kinds of leaves. -/
theorem LeafTest.accepts_singleton {key : Text} {kind : LeafKind} {matcher : Matcher} :
    ({ key, matchers := [(kind, matcher)] } : LeafTest).accepts value = matcher.accepts value := by
  unfold accepts matcherFor
  cases accepted : kind.accepts value <;> simp [accepted]

theorem FieldPath.leafTest_inQuotes [PropertyTable] (texts : path.leaves = [.string]) :
    path.leafTest text.inQuotes =
      .ok { key := path.wirePath, matchers := [(.string, .exactText text)] } := by
  refine leafTest_eq_ok_iff.2 ⟨rfl, ?_⟩
  rw [texts]
  exact Run.mapM_cons_eq_ok_iff.2
    ⟨_, _, kindTest_eq_ok_iff.2 ⟨rfl, Matcher.compile_inQuotes⟩, rfl, rfl⟩

namespace RawQuery

theorem isPlainValue_inQuotes (unquoted : '"' ∉ text) : IsPlainValue text.inQuotes where
  nonempty := Text.inQuotes_ne_nil
  trimmed := Text.trim_inQuotes
  closed := Text.closed_inQuotes unquoted
  enclosesPairs := Text.encloses_inQuotes (by decide) unquoted
  enclosesValues := Text.encloses_inQuotes (by decide) unquoted

/-- A plain label with one plain value is read as the condition that asks for the value. -/
theorem readStrict_single {written : Text} (plain : IsPlainLabel label)
    (value : IsPlainValue written) :
    readStrict {} (label ++ labelSeparator :: written) = some (.matchField label written) := by
  let pair : Pair := { label, values := [written] }
  have plainPair : pair.Plain := ⟨plain, List.cons_ne_nil _ _, List.forall_mem_singleton.2 value⟩
  have writtenPair : pair.Written (label ++ labelSeparator :: written) :=
    ⟨label, [written], Text.padded_self _, .cons (Text.padded_self _) .nil, rfl⟩
  have nonempty : [pair] ≠ [] := List.cons_ne_nil _ _
  have found := pairs_of_written {} nonempty (List.forall_mem_singleton.2 plainPair)
    ⟨_, .cons writtenPair .nil, rfl⟩
  exact readStrict_of_pairs found.1 nonempty
    (List.forall_mem_singleton.2 (List.forall_mem_singleton.2 value.toIsValue))

end RawQuery

namespace Schema

/-- A quoted text under a label for texts compiles, whatever text without quotes it is.  The query
holds where a text to which the label leads is the quoted one, character by character. -/
theorem quoted_matches_exactly [PropertyTable] {schema : Schema} {label : Text} {path : FieldPath}
    {text : Text}
    (plain : RawQuery.IsPlainLabel label) (known : schema.get? label = some path)
    (texts : path.leaves = [.string]) (unquoted : '"' ∉ text) :
    ∃ predicate, schema.compileRaw (label ++ ':' :: text.inQuotes) = .ok predicate ∧
      ∀ node, predicate.HoldsAt node ↔ node.Reaches path.steps (.leaf (.string text)) := by
  have read : RawQuery.readStrict {} (label ++ ':' :: text.inQuotes) =
      some (.matchField label text.inQuotes) :=
    RawQuery.readStrict_single plain (RawQuery.isPlainValue_inQuotes unquoted)
  refine ⟨.wrap path.steps
    (.leaf { key := path.wirePath, matchers := [(.string, .exactText text)] }), ?_, fun node => ?_⟩
  · rw [compileRaw, read]
    exact compile_field false known (FieldPath.leafTest_inQuotes texts)
  · rw [Predicate.holdsAt_wrap_leaf_iff]
    simp only [LeafTest.accepts_singleton, Matcher.accepts_exactText_iff, exists_eq_right]

end Schema

namespace Samples

def marksText : Text := " !r/A+b,*:c ".toList

theorem quoted_matches_exactly_marks :
    ∃ predicate, Person.schema.compileRaw "Tag:\" !r/A+b,*:c \"".toList = .ok predicate ∧
      predicate.HoldsAt (Inspectable.node ({ tags := [marksText] } : Person)) ∧
      ¬predicate.HoldsAt (Inspectable.node ({ tags := [Text.trim marksText] } : Person)) := by
  have plain : RawQuery.IsPlainLabel "Tag".toList := by decide
  have known : Person.schema.get? "Tag".toList =
      some { steps := [.field "tags".toList, .list], leaf := .string } := rfl
  have unquoted : '"' ∉ marksText := by decide
  obtain ⟨predicate, compiled, exactly⟩ :=
    Schema.quoted_matches_exactly plain known rfl unquoted
  refine ⟨predicate, compiled, (exactly _).2 ?_, fun holds => ?_⟩
  · exact .step (.field rfl) (.step (.list (List.mem_singleton_self _)) .here)
  · obtain ⟨tags, field, rest⟩ := Node.reaches_cons_iff.1 ((exactly _).1 holds)
    obtain ⟨tag, item, here⟩ := Node.reaches_cons_iff.1 rest
    obtain rfl := List.mem_singleton.1 (Step.mem_children_iff.2 field)
    obtain rfl := List.mem_singleton.1 (Step.mem_children_iff.2 item)
    have same : marksText = Text.trim marksText :=
      Value.string.inj (Node.leaf.inj (Node.reaches_nil_iff.1 here))
    exact absurd same (by decide)

end Samples

end RecordSearch
