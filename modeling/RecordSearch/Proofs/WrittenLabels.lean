import RecordSearch.Derive.Basic
import RecordSearch.Proofs.LetterCase
import RecordSearch.Proofs.QuotedValues
import RecordSearch.Proofs.RegisteredPlaces
import RecordSearch.Proofs.Rereading

/-!
# Labels that can be asked for

Any text that is not blank can be declared as the label of a field.  In a raw query a label ends at
the first colon, and the pair that it belongs to at the first separator outside quotations.  So
exactly the labels that have no colon, and such separators only inside their quotations, can be
read from a text; the others are never asked for, whatever case they are written in.
-/

namespace RecordSearch

namespace Text

variable {separator : Char} {text : Text}

theorem marks_lower (below : separator.toNat < 65) (text : Text) :
    marks separator (lower text) = marks separator text := by
  refine filter_lowerAfter (fun mark kept => ?_) text
  rcases of_decide_eq_true kept with rfl | rfl
  · decide
  · exact below

theorem encloses_lower_iff (below : separator.toNat < 65) :
    Encloses separator (lower text) ↔ Encloses separator text := by
  rw [← encloses_marks_iff, marks_lower below, encloses_marks_iff]

theorem Encloses.of_append {front back : Text} (enclosed : Encloses separator (front ++ back)) :
    Encloses separator front := by
  intro before after parts
  subst parts
  exact enclosed before (after ++ back) (by simp)

theorem Padded.encloses_iff {written : Text} (visible : isBlank separator = false)
    (padded : Padded text written) : Encloses separator written ↔ Encloses separator text := by
  rw [← encloses_marks_iff, padded.marks_eq visible, encloses_marks_iff]

end Text

namespace Derive

variable {settings after : Settings}

namespace Settings

def HasProperLabel (settings : Settings) : Prop :=
  ∀ label, settings.label = some label → Text.trim label ≠ []

theorem HasProperLabel.add {setting : Setting} (proper : settings.HasProperLabel)
    (run : settings.add setting = .ok after) : after.HasProperLabel := by
  revert run
  fun_cases settings.add setting with
  | case1 | case6 =>
      intro run
      cases run
      exact proper
  | case5 text visible =>
      intro run label labelled
      cases run
      cases labelled
      exact visible
  | case2 | case3 | case4 | case7 | case8 =>
      intro run
      cases run

theorem HasProperLabel.addAll {written : List Setting} (proper : settings.HasProperLabel)
    (run : settings.addAll written = .ok after) : after.HasProperLabel := by
  induction written generalizing settings with
  | nil =>
      cases run
      exact proper
  | cons setting written induction =>
      rw [Settings.addAll] at run
      cases first : settings.add setting with
      | error reason => simp [first] at run
      | ok between =>
          rw [first] at run
          exact induction (proper.add first) run

theorem HasProperLabel.check (proper : settings.HasProperLabel)
    (run : settings.check = .ok after) : after.HasProperLabel := by
  rw [Settings.check] at run
  split at run
  case isTrue => cases run
  case isFalse =>
    cases run
    exact proper

theorem hasProperLabel_empty : ({} : Settings).HasProperLabel :=
  nofun

theorem hasProperLabel_of_ofAttribute {written : Attribute}
    (run : ofAttribute written = .ok settings) : settings.HasProperLabel := by
  unfold ofAttribute at run
  cases listed : written.arguments with
  | bare | assigned => simp [listed] at run
  | list list =>
      cases added : ({} : Settings).addAll list with
      | error reason => simp [listed, added] at run
      | ok between =>
          simp only [listed, added] at run
          exact (hasProperLabel_empty.addAll added).check run

theorem hasProperLabel_of_ofAttributes {attributes : List Attribute}
    (run : ofAttributes attributes = .ok settings) : settings.HasProperLabel := by
  unfold ofAttributes at run
  cases first : attributes.find? fun written => written.path == "search".toList with
  | none =>
      rw [first] at run
      cases run
      exact hasProperLabel_empty
  | some written =>
      rw [first] at run
      exact hasProperLabel_of_ofAttribute run

end Settings

theorem label_of_deriveField {field : FieldDeclaration} {derived : DerivedField} {label : Text}
    (run : deriveField field = .ok (some derived)) (labelled : derived.label = some label) :
    Text.trim label ≠ [] := by
  obtain ⟨settings, accepted, rest⟩ := Run.bind_eq_ok_iff.1 run
  split at rest
  case isTrue => cases rest
  case isFalse =>
    cases rest
    exact Settings.hasProperLabel_of_ofAttributes accepted label labelled

end Derive

namespace RawQuery

variable {options : Options} {raw label : Text} {pair : Pair} {field : FieldMatch}

/-- No text is cut inside the label: it has no colon, and separators of pairs only inside its
quotations. -/
structure IsUncut (label : Text) : Prop where
  unmarked : ':' ∉ label
  enclosed : Text.Encloses '+' label

theorem isUncut_lower_iff : IsUncut (Text.lower label) ↔ IsUncut label := by
  have unmarked : ':' ∈ Text.lower label ↔ ':' ∈ label := Text.mem_lowerAfter_iff (by decide)
  have enclosed : Text.Encloses '+' (Text.lower label) ↔ Text.Encloses '+' label :=
    Text.encloses_lower_iff (by decide)
  exact ⟨fun uncut => ⟨mt unmarked.2 uncut.unmarked, enclosed.1 uncut.enclosed⟩,
    fun uncut => ⟨mt unmarked.1 uncut.unmarked, enclosed.2 uncut.enclosed⟩⟩

theorem isUncut_of_mem_pairs (member : pair ∈ pairs options raw) : IsUncut pair.label := by
  obtain ⟨fragment, inRaw, run⟩ := mem_pairs_iff.1 member
  have enclosed : Text.Encloses pairSeparator fragment :=
    (Text.isCut_splitUnquoted pairSeparator_ne_quote raw).enclosed fragment inRaw
  obtain ⟨written, values, rfl, _, _, _, rfl⟩ := readPair_eq_ok_iff.1 run
  refine ⟨(wellFormed_of_mem_pairs member).label.unmarked, ?_⟩
  exact ((Text.padded_trim written).encloses_iff isBlank_pairSeparator).1 enclosed.of_append

/-- Whatever is asked for in a text has an uncut label. -/
theorem isUncut_of_mem_fields_read (member : field ∈ (read options raw).query.fields) :
    IsUncut field.label := by
  obtain ⟨pair, kept, typing, inside⟩ := exists_pair_of_mem_fields_read member
  rw [label_of_mem_fieldMatches inside]
  exact isUncut_of_mem_pairs kept

/-- An uncut label in front of a colon and a star is read without the blanks at its ends. -/
theorem readStrict_wildcard (uncut : IsUncut label) (visible : Text.trim label ≠ []) :
    readStrict {} (label ++ ":*".toList) =
      some (.matchField (Text.trim label) Matcher.wildcard) := by
  have values : keptValues {} Matcher.wildcard = [Matcher.wildcard] := by rfl
  have read : readPair {} (label ++ ":*".toList) =
      .ok { label := Text.trim label, values := [Matcher.wildcard] } :=
    readPair_eq_ok_iff.2 ⟨label, Matcher.wildcard, rfl, uncut.unmarked, visible, by simp [values],
      by rw [values]⟩
  have whole : fragments (label ++ ":*".toList) = [label ++ ":*".toList] := by
    refine Text.splitUnquoted_of_encloses pairSeparator_ne_quote ?_
    have unmarked : Text.marks pairSeparator ":*".toList = [] := by decide
    rw [← Text.encloses_marks_iff, Text.marks_append, unmarked, List.append_nil]
    exact Text.encloses_marks_iff.2 uncut.enclosed
  obtain ⟨found, _⟩ := pairs_eq_of_fragments whole (.cons read .nil)
  have proper : IsValue Matcher.wildcard := ⟨List.cons_ne_nil _ _, by rfl⟩
  rw [readStrict_of_pairs found (List.cons_ne_nil _ _) (by simpa using proper)]
  rfl

end RawQuery

section Labels

open RawQuery

/-- If a label that is declared for a field is uncut, the label with a colon and a star is read as
the condition that asks for anything under the label without the blanks at its ends; without such
blanks this is the path of the field.  For any other label there is no text that asks for it. -/
theorem uncut_labels_are_asked_for [PropertyTable] {declared : Derive.FieldDeclaration}
    {derived : Derive.DerivedField} {label : Text} {schema : Schema} {path : FieldPath}
    (accepted : Derive.deriveField declared = .ok (some derived))
    (labelled : derived.label = some label) (known : schema.get? label = some path) :
    (IsUncut label →
        readStrict {} (label ++ ":*".toList) =
            some (.matchField (Text.trim label) "*".toList) ∧
          (Text.trim label = label →
            schema.get? (Text.trim label) = some path ∧
              schema.compileRaw (label ++ ":*".toList) =
                .ok (.wrap path.steps (.leaf path.wildcardTest)))) ∧
      (¬IsUncut label →
        ∀ options raw, ∀ field ∈ (read options raw).query.fields,
          Text.lower field.label ≠ Text.lower label) := by
  constructor
  · intro uncut
    have run := readStrict_wildcard uncut (Derive.label_of_deriveField accepted labelled)
    refine ⟨run, fun trimmed => ?_⟩
    rw [Schema.compileRaw, run, trimmed]
    exact ⟨known, Schema.compile_field false known path.leafTest_wildcard⟩
  · intro cut options raw field member same
    have uncut := isUncut_lower_iff.2 (isUncut_of_mem_fields_read member)
    rw [same] at uncut
    exact cut (isUncut_lower_iff.1 uncut)

end Labels

namespace Samples

open RawQuery

def labelledDeclaration (label : Text) : Derive.FieldDeclaration where
  name := "value".toList
  type := "String".toList
  attributes := [{
    path := "search".toList
    arguments := .list [.assignment "label".toList (.string label)] }]

def labelledField (label : Text) : Derive.DerivedField where
  name := "value".toList
  label := some label
  type := "String".toList

def labelledTable (label : Text) : TypeTable where
  definitions := [("Tagged".toList, {
    typeName := "Tagged".toList
    body := .record [{ name := "value".toList, label := some label, shape := .leaf .string }] })]

def labelledSchema (label : Text) : Schema :=
  Schema.ofShape "Tagged".toList (labelledTable label) (.named "Tagged".toList)

def labelledPath : FieldPath where
  steps := [.field "value".toList]
  leaf := .string

def quotedLabel : Text := "Port \"80+443\"".toList

/-- A separator in quotes does no harm to a label, and nothing asks for a label with others. -/
theorem uncut_labels_are_asked_for_quoted :
    (Derive.deriveField (labelledDeclaration quotedLabel) = .ok (some (labelledField quotedLabel)) ∧
      (labelledSchema quotedLabel).get? quotedLabel = some labelledPath ∧
      IsUncut quotedLabel ∧ Text.trim quotedLabel = quotedLabel ∧
      (labelledSchema quotedLabel).compileRaw (quotedLabel ++ ":*".toList) =
        .ok (.wrap labelledPath.steps (.leaf labelledPath.wildcardTest))) ∧
    Derive.deriveField (labelledDeclaration "C++".toList) =
        .ok (some (labelledField "C++".toList)) ∧
      (labelledSchema "C++".toList).get? "C++".toList = some labelledPath ∧
      ¬IsUncut "C++".toList ∧
      ∀ options raw, ∀ field ∈ (read options raw).query.fields,
        Text.lower field.label ≠ Text.lower "C++".toList := by
  constructor
  · have accepted : Derive.deriveField (labelledDeclaration quotedLabel) =
        .ok (some (labelledField quotedLabel)) := rfl
    have known : (labelledSchema quotedLabel).get? quotedLabel = some labelledPath := rfl
    have trimmed : Text.trim quotedLabel = quotedLabel := by rfl
    have uncut : IsUncut quotedLabel := by
      refine ⟨by decide, (Text.splitUnquoted_eq_self_iff (by decide)).1 ?_⟩
      rfl
    obtain ⟨_, resolved⟩ := (uncut_labels_are_asked_for accepted rfl known).1 uncut
    exact ⟨accepted, known, uncut, trimmed, (resolved trimmed).2⟩
  · have accepted : Derive.deriveField (labelledDeclaration "C++".toList) =
        .ok (some (labelledField "C++".toList)) := rfl
    have known : (labelledSchema "C++".toList).get? "C++".toList = some labelledPath := rfl
    have cut : ¬IsUncut "C++".toList := fun uncut =>
      uncut.enclosed "C".toList "+".toList rfl (Text.closed_of_not_mem (by decide))
    exact ⟨accepted, known, cut, (uncut_labels_are_asked_for accepted rfl known).2 cut⟩

/-- The label is accepted and known, and yet the text `<label>:*` is not read as a condition on
its field. -/
def IsMissed (label : Text) : Prop :=
  Derive.deriveField (labelledDeclaration label) = .ok (some (labelledField label)) ∧
    (labelledSchema label).get? label = some labelledPath ∧
    ¬∃ field : FieldMatch,
      readStrict {} (label ++ ":*".toList) = some (.base (.field field)) ∧
      (labelledSchema label).get? field.label = some labelledPath

/-- A colon, a separator or a blank at an end makes a label unknown or no label at all. -/
theorem labels_not_asked_for :
    IsMissed "Host:Port".toList ∧ IsMissed "C++".toList ∧ IsMissed " Name ".toList := by
  have misses {label : Text}
      (elsewhere : ∀ field, readStrict {} (label ++ ":*".toList) = some (.base (.field field)) →
        (labelledSchema label).get? field.label = none) :
      ¬∃ field : FieldMatch,
        readStrict {} (label ++ ":*".toList) = some (.base (.field field)) ∧
        (labelledSchema label).get? field.label = some labelledPath := by
    intro asked
    obtain ⟨field, read, found⟩ := asked
    rw [elsewhere field read] at found
    cases found
  refine ⟨⟨rfl, rfl, misses fun field read => ?_⟩, ⟨rfl, rfl, misses fun field read => ?_⟩,
    ⟨rfl, rfl, misses fun field read => ?_⟩⟩
  · have run : readStrict {} "Host:Port:*".toList =
        some (.matchField "Host".toList "Port:*".toList) := by rfl
    cases run.symm.trans read
    rfl
  · have run : readStrict {} "C++:*".toList = none := by rfl
    cases run.symm.trans read
  · have run : readStrict {} " Name :*".toList =
        some (.matchField "Name".toList "*".toList) := by rfl
    cases run.symm.trans read
    rfl

end Samples

end RecordSearch
