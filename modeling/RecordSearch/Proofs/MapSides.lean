import RecordSearch.Proofs.FieldConditions
import RecordSearch.Samples.Deployments

/-!
# The two sides of a map

The keys and the values of a map are leaves under the same label.  A literal
has a test for each kind of leaf, and a leaf is put to the first test of which
the kind accepts it.  Every kind but that of choices accepts its own leaves
only; choices are accepted whatever their table.  So if keys and values are
choices from different tables, the values are put to the test for the keys.
-/

namespace RecordSearch

namespace LeafKind

/-- Some leaves are of both kinds, though these differ: the kinds are choices from two tables. -/
def Overlaps (kind other : LeafKind) : Prop :=
  ∃ table otherTable, kind = .choice table ∧ other = .choice otherTable ∧ table ≠ otherTable

theorem eq_of_accepts {kind other : LeafKind} {value : Value} (apart : ¬kind.Overlaps other)
    (accepted : kind.accepts value = true) (acceptedToo : other.accepts value = true) :
    kind = other := by
  cases value with
  | choice =>
      cases kind with
      | choice table =>
          cases other with
          | choice otherTable =>
              by_contra different
              exact apart ⟨table, otherTable, rfl, rfl, fun same => different (by rw [same])⟩
          | _ => cases acceptedToo
      | _ => cases accepted
  | _ =>
      cases kind <;> cases accepted
      cases other <;> cases acceptedToo
      rfl

/-- Of the kinds of two sides, without repetition, the first that accepts a leaf of the second side
is that of the first side if it does. -/
theorem find?_sides (keyKind : LeafKind) {valueKind : LeafKind} {value : Value}
    (accepted : valueKind.accepts value = true) :
    [keyKind, valueKind].eraseDups.find? (fun kind => kind.accepts value) =
      some (if keyKind.accepts value then keyKind else valueKind) := by
  cases acceptedToo : keyKind.accepts value with
  | true => simp [List.eraseDups_cons, acceptedToo]
  | false =>
      have different : valueKind ≠ keyKind := by
        intro same
        rw [same, acceptedToo] at accepted
        cases accepted
      simp [List.eraseDups_cons, acceptedToo, accepted, different]

end LeafKind

namespace FieldPath

/-- A literal that compiles for both sides of a map has a test for their leaves. -/
theorem exists_sidesTest [PropertyTable] {path : FieldPath} {literal : Text}
    {keyKind valueKind : LeafKind}
    {onKeys onValues : Matcher} (kinds : path.leaves = [keyKind, valueKind].eraseDups)
    (keyCompiled : Matcher.compile keyKind literal = some onKeys)
    (valueCompiled : Matcher.compile valueKind literal = some onValues) :
    ∃ test, path.leafTest literal = .ok test ∧
      (∀ value, keyKind.accepts value = true → test.accepts value = onKeys.accepts value) ∧
      ∀ value, valueKind.accepts value = true →
        test.accepts value =
          if keyKind.accepts value then onKeys.accepts value else onValues.accepts value := by
  have compilesEach : ∀ kind ∈ path.leaves, ∃ matcher,
      Matcher.compile kind literal = some matcher := by
    intro kind member
    rw [kinds, List.mem_eraseDups, List.mem_pair] at member
    rcases member with rfl | rfl
    · exact ⟨_, keyCompiled⟩
    · exact ⟨_, valueCompiled⟩
  obtain ⟨test, compiled⟩ := exists_leafTest compilesEach
  have accepts {kind : LeafKind} {matcher : Matcher} {value : Value}
      (means : Matcher.compile kind literal = some matcher)
      (first : path.leaves.find? (fun kind => kind.accepts value) = some kind) :
      test.accepts value = matcher.accepts value := by
    rw [LeafTest.accepts, matcherFor_eq_compile compiled first, means, Option.any_some]
  refine ⟨test, compiled, fun value accepted => ?_, fun value accepted => ?_⟩
  · refine accepts keyCompiled ?_
    simp [kinds, List.eraseDups_cons, accepted]
  · have first := LeafKind.find?_sides keyKind accepted
    rw [← kinds] at first
    split at first
    · rw [if_pos ‹_›]
      exact accepts keyCompiled first
    · rw [if_neg ‹_›]
      exact accepts valueCompiled first

end FieldPath

namespace TypeTable

/-- The leaf at the end of the turns is a key that the one test accepts, or a value that the other
accepts. -/
inductive SideAccepted (onKeys onValues : Value → Bool) : List Turn → Value → Prop where
  | key {value : Value} : onKeys value = true → SideAccepted onKeys onValues [.key] value
  | value {value : Value} : onValues value = true → SideAccepted onKeys onValues [.value] value

variable {table : TypeTable} {keyKind valueKind : LeafKind} {node : Node} {turns : List Turn}
  {value : Value}

theorem LiesAt.accepted_of_leaf {kind : LeafKind}
    (lies : table.LiesAt (.leaf kind) node turns value)
    (conforms : table.Conforms (.leaf kind) node) : turns = [] ∧ kind.accepts value = true := by
  cases lies
  cases conforms with
  | leaf accepted => exact ⟨rfl, accepted⟩

/-- A leaf in a map of leaves is a key of the kind of the keys, or a value of that of the values. -/
theorem LiesAt.side_of_map
    (lies : table.LiesAt (.map (.leaf keyKind) (.leaf valueKind)) node turns value)
    (conforms : table.Conforms (.map (.leaf keyKind) (.leaf valueKind)) node) :
    turns = [.key] ∧ keyKind.accepts value = true ∨
      turns = [.value] ∧ valueKind.accepts value = true := by
  cases conforms with
  | map keysConform valuesConform =>
      cases lies with
      | key entry lies =>
          obtain ⟨rfl, accepted⟩ := lies.accepted_of_leaf (keysConform _ entry)
          exact .inl ⟨rfl, accepted⟩
      | value entry lies =>
          obtain ⟨rfl, accepted⟩ := lies.accepted_of_leaf (valuesConform _ entry)
          exact .inr ⟨rfl, accepted⟩

theorem sideAccepted_key_iff {onKeys onValues : Value → Bool} :
    SideAccepted onKeys onValues [.key] value ↔ onKeys value = true := by
  constructor
  · intro accepted
    cases accepted with
    | key accepted => exact accepted
  · exact .key

theorem sideAccepted_value_iff {onKeys onValues : Value → Bool} :
    SideAccepted onKeys onValues [.value] value ↔ onValues value = true := by
  constructor
  · intro accepted
    cases accepted with
    | value accepted => exact accepted
  · exact .value

end TypeTable

namespace Schema

/-- The condition on the label of a map tests each leaf as the literal says for the first kind, that
of the keys before that of the values, which accepts the leaf.  Unless the kinds are choices from
different tables, this is the kind of the leaf's own side. -/
theorem literal_tests_sides_of_map [PropertyTable] {typeName reference label literal : Text}
    {table : TypeTable}
    {position : Nat} {field : FieldShape} {keyKind valueKind : LeafKind}
    {onKeys onValues : Matcher} {highlight : Bool}
    (sole : table.SoleField reference position field label)
    (sides : field.shape = .map (.leaf keyKind) (.leaf valueKind))
    (keyCompiled : Matcher.compile keyKind literal = some onKeys)
    (valueCompiled : Matcher.compile valueKind literal = some onValues) :
    ∃ predicate,
      (ofShape typeName table (.named reference)).compile
        (.base (.field { label, value := literal, highlight })) = .ok predicate ∧
      ∀ node, table.Conforms (.named reference) node →
        predicate.Finds table field node (TypeTable.SideAccepted onKeys.accepts fun value =>
          if keyKind.accepts value then onKeys.accepts value else onValues.accepts value) ∧
        (¬keyKind.Overlaps valueKind →
          predicate.Finds table field node
            (TypeTable.SideAccepted onKeys.accepts onValues.accepts)) := by
  have container : field.shape.IsContainer := sides ▸ .map .leaf .leaf
  obtain ⟨path, leaves, compiles⟩ := sole.exists_condition container typeName
  have kinds : path.leaves = [keyKind, valueKind].eraseDups := by
    rw [leaves, sides]
    rfl
  obtain ⟨test, compiled, onKey, onValue⟩ :=
    FieldPath.exists_sidesTest kinds keyCompiled valueCompiled
  obtain ⟨predicate, queryCompiled, finds⟩ := compiles literal highlight test compiled
  refine ⟨predicate, queryCompiled, fun node conforms => ?_⟩
  have side {turns : List Turn} {value : Value}
      (lies : table.LiesAt field.shape (node.field field.name) turns value) :
      turns = [.key] ∧ keyKind.accepts value = true ∨
        turns = [.value] ∧ valueKind.accepts value = true := by
    have inside := sole.conforms_field conforms lies.present
    rw [sides] at lies inside
    exact lies.side_of_map inside
  have found : predicate.Finds table field node (TypeTable.SideAccepted onKeys.accepts fun value =>
      if keyKind.accepts value then onKeys.accepts value else onValues.accepts value) := by
    refine (finds node conforms).congr fun turns value lies => ?_
    rw [sides]
    rcases side lies with ⟨rfl, accepted⟩ | ⟨rfl, accepted⟩
    · rw [TypeTable.sideAccepted_key_iff, onKey value accepted]
      exact and_iff_right rfl
    · rw [TypeTable.sideAccepted_value_iff, onValue value accepted]
      exact and_iff_right rfl
  refine ⟨found, fun apart => found.congr fun turns value lies => ?_⟩
  rcases side lies with ⟨rfl, accepted⟩ | ⟨rfl, accepted⟩
  · rw [TypeTable.sideAccepted_key_iff, TypeTable.sideAccepted_key_iff]
  · rw [TypeTable.sideAccepted_value_iff, TypeTable.sideAccepted_value_iff]
    split
    · rename_i acceptedToo
      -- Both kinds accept the value, so they are one kind and the literal means one test.
      obtain rfl := LeafKind.eq_of_accepts apart acceptedToo accepted
      cases keyCompiled.symm.trans valueCompiled
      rfl
    · rfl

end Schema

namespace Samples

abbrev Limits := Dictionary Text UInt32

/-- Names are put to the test for texts, and amounts to that for numbers. -/
theorem literal_tests_sides_of_map_not_eight :
    (taggedTable Limits).SoleField "Tagged".toList 0 (taggedField Limits) "Value".toList ∧
      ∃ predicate,
        (Schema.ofShape "Tagged".toList (taggedTable Limits) (.named "Tagged".toList)).compile
          (.matchField "Value".toList "!8".toList) = .ok predicate ∧
        ∀ node, (taggedTable Limits).Conforms (.named "Tagged".toList) node →
          predicate.Finds (taggedTable Limits) (taggedField Limits) node
            (TypeTable.SideAccepted (Matcher.negation (.sameText "8".toList)).accepts
              (Matcher.negation (.compared .equal (.signed 8))).accepts) := by
  have container : (taggedField Limits).shape.IsContainer := .map .leaf .leaf
  have sole := taggedTable_sole container
  have sides : (taggedField Limits).shape = .map (.leaf .string) (.leaf .number) := rfl
  have onNames : Matcher.compile .string "!8".toList =
      some (.negation (.sameText "8".toList)) := rfl
  have onAmounts : Matcher.compile .number "!8".toList =
      some (.negation (.compared .equal (.signed 8))) := rfl
  have apart : ¬LeafKind.string.Overlaps .number := nofun
  obtain ⟨predicate, compiled, finds⟩ :=
    Schema.literal_tests_sides_of_map sole sides onNames onAmounts
  exact ⟨sole, predicate, compiled, fun node conforms => (finds node conforms).2 apart⟩

inductive Urgency
  | low
  | high

instance : Alternatives Urgency where
  table := [("Low".toList, 10), ("High".toList, 20)]
  name
    | .low => "Low".toList
    | .high => "High".toList
  rank
    | .low => 10
    | .high => 20

abbrev Triage := Dictionary Severity Urgency

def lowTriage : Triage where
  entries := [(.low, .low)]

/-- The urgency is ranked against the severity of the same name, and found to be above it. -/
theorem urgency_ranked_as_severity :
    (taggedTable Triage).SoleField "Tagged".toList 0 (taggedField Triage) "Value".toList ∧
      (taggedField Triage).shape =
        .map (.leaf (.choice (Alternatives.table Severity)))
          (.leaf (.choice (Alternatives.table Urgency))) ∧
      Matcher.compile (.choice (Alternatives.table Severity)) ">low".toList =
        some (.ranked .greater 1) ∧
      Matcher.compile (.choice (Alternatives.table Urgency)) ">low".toList =
        some (.ranked .greater 10) ∧
      (taggedTable Triage).Conforms (.named "Tagged".toList)
        (Inspectable.node (⟨lowTriage⟩ : Tagged Triage)) ∧
      ∃ predicate,
        (Schema.ofShape "Tagged".toList (taggedTable Triage) (.named "Tagged".toList)).compile
          (.matchField "Value".toList ">low".toList) = .ok predicate ∧
        predicate.ReportsAt (Inspectable.node (⟨lowTriage⟩ : Tagged Triage)) "value".toList
          "Low".toList ∧
        ¬predicate.Finds (taggedTable Triage) (taggedField Triage)
          (Inspectable.node (⟨lowTriage⟩ : Tagged Triage))
          (TypeTable.SideAccepted (Matcher.ranked .greater 1).accepts
            (Matcher.ranked .greater 10).accepts) := by
  have container : (taggedField Triage).shape.IsContainer := .map .leaf .leaf
  have sole := taggedTable_sole container
  have conforms : (taggedTable Triage).Conforms (Shaped.shape Triage)
      (Inspectable.node lowTriage) :=
    .map (List.forall_mem_singleton.2 (.leaf rfl)) (List.forall_mem_singleton.2 (.leaf rfl))
  refine ⟨sole, rfl, rfl, rfl, sole.conforms_record conforms, _, rfl, ?_, fun finds => ?_⟩
  · exact ⟨_, rfl, _, rfl, List.mem_singleton_self _⟩
  · obtain ⟨turns, value, lies, accepted⟩ := finds.holds.1 rfl
    cases lies with
    | key entry lies =>
        cases List.mem_singleton.1 entry
        cases lies
        cases accepted with
        | key above => cases above
    | value entry lies =>
        cases List.mem_singleton.1 entry
        cases lies
        cases accepted with
        | value above => cases above

end Samples

end RecordSearch
