import Mathlib.Data.List.Forall2
import RecordSearch.Proofs.ValidDeclarations

/-!
# Settings in several attributes

Of the attributes about the search the first one decides, and those behind it are not read.  So
settings that are split over several attributes come to the same as in a single one only if those
behind the first attribute add nothing: all of them together are accepted, and describe the field or
the variant as those in the first attribute do.
-/

namespace RecordSearch

section Kept

variable {α β : Type} {part : α → Option β} {items others : List α}

theorem length_filterMap_le_of_fewer
    (fewer : List.Forall₂ (fun other item => part item = none → part other = none) others items) :
    (others.filterMap part).length ≤ (items.filterMap part).length := by
  induction fewer with
  | nil => exact Nat.le_refl _
  | @cons other item others items first _ induction =>
      cases left : part item with
      | none => rwa [List.filterMap_cons_none (first left), List.filterMap_cons_none left]
      | some value =>
          rw [List.filterMap_cons_some left, List.length_cons]
          cases leftToo : part other with
          | none =>
              rw [List.filterMap_cons_none leftToo]
              exact Nat.le_succ_of_le induction
          | some other =>
              rw [List.filterMap_cons_some leftToo, List.length_cons]
              exact Nat.succ_le_succ induction

/-- If no item is left that was left out before, the same items are left only if each one is the
same. -/
theorem filterMap_eq_iff
    (fewer : List.Forall₂ (fun other item => part item = none → part other = none) others items) :
    others.filterMap part = items.filterMap part ↔
      List.Forall₂ (fun other item => part other = part item) others items := by
  induction fewer with
  | nil => exact ⟨fun _ => .nil, fun _ => rfl⟩
  | @cons other item others items first rest induction =>
      rw [List.forall₂_cons, ← induction]
      cases left : part item with
      | none =>
          rw [List.filterMap_cons_none (first left), List.filterMap_cons_none left]
          exact (and_iff_right (first left)).symm
      | some value =>
          rw [List.filterMap_cons_some left]
          cases leftToo : part other with
          | none =>
              rw [List.filterMap_cons_none leftToo]
              refine iff_of_false (fun same => ?_) fun both => nomatch both.1
              have longer := length_filterMap_le_of_fewer rest
              rw [same, List.length_cons] at longer
              exact Nat.not_succ_le_self _ longer
          | some other => rw [List.filterMap_cons_some leftToo, List.cons.injEq, Option.some.injEq]

theorem map_eq_map_iff {change : α → β} :
    others.map change = items.map change ↔
      List.Forall₂ (fun other item => change other = change item) others items := by
  rw [← List.forall₂_map_right_iff, ← List.forall₂_map_left_iff, List.forall₂_eq_eq_eq]

theorem forall_mem_of_forall₂ {Related : α → β → Prop} {Left : α → Prop} {Right : β → Prop}
    {lefts : List α} {rights : List β} (related : List.Forall₂ Related lefts rights)
    (keeps : ∀ {left right}, Related left right → Left left → Right right)
    (all : ∀ left ∈ lefts, Left left) : ∀ right ∈ rights, Right right := by
  induction related with
  | nil => exact List.forall_mem_nil _
  | cons first _ induction =>
      obtain ⟨holds, rest⟩ := List.forall_mem_cons.1 all
      exact List.forall_mem_cons.2 ⟨keeps first holds, induction rest⟩

end Kept

namespace Derive

/-- The attributes about the search list these settings, each attribute a part of them. -/
def ListsParts (attributes : List Attribute) (parts : List (List Setting)) : Prop :=
  (attributes.filter fun written => written.path == "search".toList).map (·.settings) =
    parts.map some

/-- All settings in the attributes about the search are written in a single one, which may stand
anywhere among other attributes. -/
def GathersSettings (attributes gathered : List Attribute) : Prop :=
  ∃ parts, ListsParts attributes parts ∧ ListsParts gathered [parts.flatten]

/-- The same field, whose settings may be written in a single attribute. -/
def FieldDeclaration.Gathered (field other : FieldDeclaration) : Prop :=
  ∃ attributes, (attributes = field.attributes ∨ GathersSettings field.attributes attributes) ∧
    other = { field with attributes }

/-- The same variant, whose settings may be written in a single attribute. -/
def VariantDeclaration.Gathered (variant other : VariantDeclaration) : Prop :=
  ∃ attributes,
    (attributes = variant.attributes ∨ GathersSettings variant.attributes attributes) ∧
    other = { variant with attributes }

/-- The same parts, the settings of each of which may be written in a single attribute. -/
inductive Declared.Gathered : Declared → Declared → Prop where
  | record {fields others : List FieldDeclaration} :
      List.Forall₂ FieldDeclaration.Gathered fields others →
      Gathered (.record fields) (.record others)
  | enumeration {variants others : List VariantDeclaration} :
      List.Forall₂ VariantDeclaration.Gathered variants others →
      Gathered (.enumeration variants) (.enumeration others)
  | tuple : Gathered .tuple .tuple
  | unit : Gathered .unit .unit
  | union : Gathered .union .union

/-- The same declaration, where the settings of each part may be written in a single attribute. -/
def Declaration.Gathered (declaration other : Declaration) : Prop :=
  ∃ declared, declaration.declared.Gathered declared ∧ other = { declaration with declared }

/-- The field is valid, and in a description it is the same as the other field. -/
def FieldDeclaration.Restates (field other : FieldDeclaration) : Prop :=
  AttributesValid field.attributes ∧ field.derived? = other.derived?

/-- The variant gives only valid names, and in a description it is the same as the other one. -/
def VariantDeclaration.Restates (variant other : VariantDeclaration) : Prop :=
  variant.WellNamed ∧ variant.derived = other.derived

/-- The variant gives only valid names, and in a table of names it is the same as the other one. -/
def VariantDeclaration.RestatesEntry (variant other : VariantDeclaration) : Prop :=
  variant.WellNamed ∧ variant.entry = other.entry

inductive Declared.Restates : Declared → Declared → Prop where
  | record {fields others : List FieldDeclaration} :
      List.Forall₂ FieldDeclaration.Restates fields others →
      Restates (.record fields) (.record others)
  | enumeration {variants others : List VariantDeclaration} :
      List.Forall₂ VariantDeclaration.Restates variants others →
      Restates (.enumeration variants) (.enumeration others)

/-- All variants are the same in a table of names. -/
inductive Declared.RestatesEntries : Declared → Declared → Prop where
  | enumeration {variants others : List VariantDeclaration} :
      List.Forall₂ VariantDeclaration.RestatesEntry variants others →
      RestatesEntries (.enumeration variants) (.enumeration others)

def firstOnly (attributes : List Attribute) : List Attribute :=
  (searchAttribute? attributes).toList

/-- The parts with their first attribute about the search, and no others. -/
def Declared.firstOnly : Declared → Declared
  | .record fields =>
      .record (fields.map fun field =>
        { field with attributes := Derive.firstOnly field.attributes })
  | .enumeration variants =>
      .enumeration (variants.map fun variant =>
        { variant with attributes := Derive.firstOnly variant.attributes })
  | .tuple => .tuple
  | .unit => .unit
  | .union => .union

/-- The declaration whose parts have only their first attribute about the search. -/
def Declaration.firstOnly (declaration : Declaration) : Declaration :=
  { declaration with declared := declaration.declared.firstOnly }

section Attributes

variable {attributes gathered : List Attribute} {parts : List (List Setting)}
  {front back : List Setting}

theorem Settings.accepted_nil : Settings.Accepted [] where
  proper := List.forall_mem_nil _
  unlabelled := nofun

theorem Settings.Accepted.of_append (accepted : Settings.Accepted (front ++ back)) :
    Settings.Accepted front where
  proper setting member := accepted.proper setting (List.mem_append_left back member)
  unlabelled skips := by
    have unlabelled := accepted.unlabelled
    rw [summary_append] at unlabelled
    have none := unlabelled (Bool.or_eq_true_iff.2 (.inl skips))
    exact (Option.or_eq_none_iff.1 none).2

theorem Settings.RenamesOnly.of_append (only : (Settings.summary (front ++ back)).RenamesOnly) :
    (Settings.summary front).RenamesOnly := by
  rw [summary_append] at only
  exact ⟨(Option.or_eq_none_iff.1 only.unlabelled).2, (Bool.or_eq_false_iff.1 only.kept).1⟩

theorem searchAttribute?_eq_head? (attributes : List Attribute) :
    searchAttribute? attributes =
      (attributes.filter fun written => written.path == "search".toList).head? :=
  List.head?_filter.symm

theorem givenSettings_eq (lists : ListsParts attributes parts) :
    givenSettings attributes = parts.headD [] ∧
      (AttributesValid attributes ↔ Settings.Accepted (parts.headD [])) := by
  rw [givenSettings, AttributesValid, searchAttribute?_eq_head?]
  rw [ListsParts] at lists
  cases found : attributes.filter fun written => written.path == "search".toList with
  | nil =>
      rw [found] at lists
      rw [List.map_eq_nil_iff.1 lists.symm]
      refine ⟨rfl, fun _ => Settings.accepted_nil, fun _ written found => ?_⟩
      cases found
  | cons written rest =>
      rw [found] at lists
      obtain ⟨list, others, rfl, listed, _⟩ := List.map_eq_cons_iff.1 lists.symm
      simp [← listed]

/-- Written in one attribute, the settings begin with those of the first attribute. -/
structure Continues (attributes gathered : List Attribute) : Prop where
  given : ∃ later, givenSettings gathered = givenSettings attributes ++ later
  valid : AttributesValid gathered → AttributesValid attributes

theorem Continues.refl (attributes : List Attribute) : Continues attributes attributes where
  given := ⟨[], (List.append_nil _).symm⟩
  valid := id

theorem GathersSettings.continues (gathers : GathersSettings attributes gathered) :
    Continues attributes gathered := by
  obtain ⟨parts, lists, listsAll⟩ := gathers
  obtain ⟨given, valid⟩ := givenSettings_eq lists
  obtain ⟨givenAll, validAll⟩ := givenSettings_eq listsAll
  have parted : parts.flatten = parts.headD [] ++ parts.tail.flatten := by
    cases parts <;> rfl
  rw [List.headD_cons, parted] at givenAll validAll
  refine ⟨⟨parts.tail.flatten, ?_⟩, fun accepted => ?_⟩
  · rw [givenAll, given]
  · exact valid.2 (validAll.1 accepted).of_append

theorem Continues.of_gathered
    (gathers : gathered = attributes ∨ GathersSettings attributes gathered) :
    Continues attributes gathered := by
  obtain rfl | gathers := gathers
  · exact .refl _
  · exact gathers.continues

theorem ofAttributes_firstOnly (attributes : List Attribute) :
    Settings.ofAttributes (firstOnly attributes) = Settings.ofAttributes attributes := by
  rw [firstOnly]
  cases found : searchAttribute? attributes with
  | none => exact (ofAttributes_of_none found).symm
  | some written =>
      have isSearch : (written.path == "search".toList) = true :=
        List.find?_some (p := fun written : Attribute => written.path == "search".toList) found
      have again : searchAttribute? [written] = some written := List.find?_cons_of_pos isSearch
      rw [Option.toList_some, ofAttributes_of_some again, ofAttributes_of_some found]

end Attributes

section Parts

variable {field other : FieldDeclaration} {variant otherVariant : VariantDeclaration}

theorem Setting.isSkip_iff {setting : Setting} :
    setting.isSkip = true ↔ setting = .word "skip".toList := by
  cases setting with
  | word name => rw [isSkip, beq_iff_eq, Setting.word.injEq]
  | assignment | list => exact iff_of_false nofun nofun

/-- A field is left out if its first attribute about the search says so. -/
theorem FieldDeclaration.derived?_eq_none_iff :
    field.derived? = none ↔ .word "skip".toList ∈ givenSettings field.attributes := by
  have skips :
      field.settings.skip = true ↔ .word "skip".toList ∈ givenSettings field.attributes := by
    rw [settings, Settings.summary, List.any_eq_true]
    simp only [Setting.isSkip_iff, exists_eq_right]
  rw [← skips, derived?]
  split
  case isTrue skipped => exact iff_of_true rfl skipped
  case isFalse kept => exact iff_of_false (Option.some_ne_none _) kept

theorem FieldDeclaration.Gathered.continues (gathered : field.Gathered other) :
    Continues field.attributes other.attributes := by
  obtain ⟨attributes, gathers, rfl⟩ := gathered
  exact .of_gathered gathers

theorem FieldDeclaration.Gathered.left_out (gathered : field.Gathered other)
    (skipped : field.derived? = none) : other.derived? = none := by
  obtain ⟨later, given⟩ := gathered.continues.given
  rw [derived?_eq_none_iff] at skipped ⊢
  rw [given]
  exact List.mem_append_left later skipped

theorem VariantDeclaration.Gathered.continues (gathered : variant.Gathered otherVariant) :
    Continues variant.attributes otherVariant.attributes := by
  obtain ⟨attributes, gathers, rfl⟩ := gathered
  exact .of_gathered gathers

theorem VariantDeclaration.Gathered.payload (gathered : variant.Gathered otherVariant) :
    otherVariant.payload = variant.payload := by
  obtain ⟨attributes, _, rfl⟩ := gathered
  rfl

theorem VariantDeclaration.Gathered.wellNamed (gathered : variant.Gathered otherVariant)
    (named : otherVariant.WellNamed) : variant.WellNamed := by
  obtain ⟨later, given⟩ := gathered.continues.given
  have only := named.only
  rw [settings, given] at only
  exact ⟨gathered.continues.valid named.valid, only.of_append⟩

theorem deriveField_firstOnly (field : FieldDeclaration) :
    deriveField { field with attributes := firstOnly field.attributes } = deriveField field := by
  simp only [deriveField, ofAttributes_firstOnly]

theorem deriveVariant_firstOnly (variant : VariantDeclaration) :
    deriveVariant { variant with attributes := firstOnly variant.attributes } =
      deriveVariant variant := by
  simp only [deriveVariant, ofAttributes_firstOnly]

theorem deriveName_firstOnly (variant : VariantDeclaration) :
    deriveName { variant with attributes := firstOnly variant.attributes } =
      deriveName variant := by
  simp only [deriveName, ofAttributes_firstOnly]

theorem mapM_map_of_eq {ε α β : Type} {change : α → α} {step : α → Except ε β}
    (same : ∀ item, step (change item) = step item) (items : List α) :
    (items.map change).mapM step = items.mapM step := by
  induction items with
  | nil => rfl
  | cons item items induction => rw [List.map_cons, List.mapM_cons, List.mapM_cons, same, induction]

theorem deriveFields_firstOnly (fields : List FieldDeclaration) :
    deriveFields (fields.map fun field => { field with attributes := firstOnly field.attributes }) =
      deriveFields fields := by
  rw [deriveFields_eq_map, deriveFields_eq_map, mapM_map_of_eq deriveField_firstOnly]

end Parts

section Whole

variable {declared others : Declared} {declaration other : Declaration} {description : Description}
  {fields otherFields : List FieldDeclaration} {variants otherVariants : List VariantDeclaration}

theorem Declared.described_record_iff {derived : List DerivedField} :
    (Declared.record fields).Described (.record derived) ↔
      fields.filterMap (·.derived?) = derived := by
  constructor
  · rintro ⟨⟩
    rfl
  · rintro rfl
    exact .record

theorem Declared.described_variants_iff {derived : List DerivedVariant} :
    (Declared.enumeration variants).Described (.variants derived) ↔
      variants.map (·.derived) = derived := by
  constructor
  · rintro ⟨⟩
    rfl
  · rintro rfl
    exact .variants

theorem Declared.listed_names_iff {names : List (Text × Text)} :
    (Declared.enumeration variants).Listed (.names names) ↔ variants.map (·.entry) = names := by
  constructor
  · rintro ⟨⟩
    rfl
  · rintro rfl
    exact .names

theorem Declared.restates_record_iff :
    (Declared.record otherFields).Restates (.record fields) ↔
      (∀ field ∈ otherFields, AttributesValid field.attributes) ∧
        List.Forall₂ (fun other field => other.derived? = field.derived?) otherFields fields := by
  rw [← List.forall₂_and_left]
  constructor
  · rintro ⟨⟩
    assumption
  · exact .record

theorem Declared.restates_enumeration_iff :
    (Declared.enumeration otherVariants).Restates (.enumeration variants) ↔
      (∀ variant ∈ otherVariants, variant.WellNamed) ∧
        otherVariants.map (·.derived) = variants.map (·.derived) := by
  rw [map_eq_map_iff, ← List.forall₂_and_left]
  constructor
  · rintro ⟨⟩
    assumption
  · exact .enumeration

theorem Declared.restatesEntries_iff :
    (Declared.enumeration otherVariants).RestatesEntries (.enumeration variants) ↔
      (∀ variant ∈ otherVariants, variant.WellNamed) ∧
        otherVariants.map (·.entry) = variants.map (·.entry) := by
  rw [map_eq_map_iff, ← List.forall₂_and_left]
  constructor
  · rintro ⟨⟩
    assumption
  · exact .enumeration

section Variants

variable (Carries : Payload → Prop)
  (alike : List.Forall₂ VariantDeclaration.Gathered variants otherVariants)

include alike

theorem ne_nil_iff_of_gathered : otherVariants ≠ [] ↔ variants ≠ [] := by
  rw [← List.length_pos_iff, ← List.length_pos_iff, alike.length_eq]

/-- Gathering settings can make only the attributes of a variant invalid. -/
theorem wellNamed_iff_of_gathered (nonempty : variants ≠ [])
    (carry : ∀ variant ∈ variants, Carries variant.payload) :
    (otherVariants ≠ [] ∧
        ∀ variant ∈ otherVariants, variant.WellNamed ∧ Carries variant.payload) ↔
      ∀ variant ∈ otherVariants, variant.WellNamed := by
  have carryToo : ∀ variant ∈ otherVariants, Carries variant.payload :=
    forall_mem_of_forall₂ alike (fun gathered carries => gathered.payload ▸ carries) carry
  constructor
  · exact fun valid variant member => (valid.2 variant member).1
  · intro named
    refine ⟨(ne_nil_iff_of_gathered alike).2 nonempty, fun variant member => ?_⟩
    exact ⟨named variant member, carryToo variant member⟩

theorem wellNamed_of_gathered
    (valid : otherVariants ≠ [] ∧
      ∀ variant ∈ otherVariants, variant.WellNamed ∧ Carries variant.payload) :
    variants ≠ [] ∧ ∀ variant ∈ variants, variant.WellNamed ∧ Carries variant.payload := by
  refine ⟨(ne_nil_iff_of_gathered alike).1 valid.1, forall_mem_of_forall₂ alike.flip ?_ valid.2⟩
  intro other variant (gathered : variant.Gathered other) both
  exact ⟨gathered.wellNamed both.1, gathered.payload ▸ both.2⟩

end Variants

theorem Declared.nameable_enumeration_iff :
    (Declared.enumeration variants).IsNameable ↔
      variants ≠ [] ∧ ∀ variant ∈ variants, variant.WellNamed ∧ variant.payload = .unit :=
  and_congr_right fun _ => forall₂_congr fun _ _ => and_comm

theorem Declared.Gathered.describable (gathered : declared.Gathered others)
    (describable : others.IsDescribable) : declared.IsDescribable := by
  cases gathered with
  | record alike =>
      exact forall_mem_of_forall₂ alike.flip
        (fun gathered => (FieldDeclaration.Gathered.continues gathered).valid) describable
  | enumeration alike => exact wellNamed_of_gathered Payload.IsSingle alike describable
  | tuple | unit | union => exact describable

theorem Declared.Gathered.nameable (gathered : declared.Gathered others)
    (nameable : others.IsNameable) : declared.IsNameable := by
  cases gathered with
  | enumeration alike =>
      rw [nameable_enumeration_iff] at nameable ⊢
      exact wellNamed_of_gathered (· = .unit) alike nameable
  | record | tuple | unit | union => exact nameable

theorem Declared.Gathered.described_iff (gathered : declared.Gathered others)
    (describable : declared.IsDescribable) (described : declared.Described description) :
    others.IsDescribable ∧ others.Described description ↔ others.Restates declared := by
  cases gathered with
  | @record fields otherFields alike =>
      cases described
      have fewer : List.Forall₂ (fun other field : FieldDeclaration =>
          field.derived? = none → other.derived? = none) otherFields fields :=
        (alike.imp fun _ _ gathered => gathered.left_out).flip
      rw [described_record_iff, restates_record_iff, filterMap_eq_iff fewer]
      rfl
  | enumeration alike =>
      cases described
      obtain ⟨nonempty, valid⟩ := describable
      have named : (Declared.enumeration _).IsDescribable ↔ _ :=
        wellNamed_iff_of_gathered Payload.IsSingle alike nonempty fun variant member =>
          (valid variant member).2
      rw [described_variants_iff, restates_enumeration_iff, named]
  | tuple | unit | union => exact describable.elim

theorem Declared.Gathered.listed_iff (gathered : declared.Gathered others)
    (nameable : declared.IsNameable) (listed : declared.Listed description) :
    others.IsNameable ∧ others.Listed description ↔ others.RestatesEntries declared := by
  cases gathered with
  | enumeration alike =>
      cases listed
      obtain ⟨nonempty, valid⟩ := nameable_enumeration_iff.1 nameable
      rw [listed_names_iff, restatesEntries_iff, nameable_enumeration_iff,
        wellNamed_iff_of_gathered (· = .unit) alike nonempty fun variant member =>
          (valid variant member).2]
  | record | tuple | unit | union => exact nameable.elim

theorem deriveSearchable_firstOnly (declaration : Declaration) :
    deriveSearchable declaration.firstOnly = deriveSearchable declaration := by
  obtain ⟨name, parameters, declared⟩ := declaration
  cases declared with
  | record fields =>
      exact congrArg (Except.map Description.record) (deriveFields_firstOnly fields)
  | enumeration variants =>
      cases variants with
      | nil => rfl
      | cons variant variants =>
          exact congrArg (Except.map Description.variants)
            (mapM_map_of_eq deriveVariant_firstOnly (variant :: variants))
  | tuple | unit | union => rfl

theorem deriveNames_firstOnly (declaration : Declaration) :
    deriveNames declaration.firstOnly = deriveNames declaration := by
  obtain ⟨name, parameters, declared⟩ := declaration
  cases declared with
  | enumeration variants =>
      simp only [deriveNames, Declaration.firstOnly, Declared.firstOnly,
        mapM_map_of_eq deriveName_firstOnly]
  | record | tuple | unit | union => rfl

theorem exists_deriveSearchable_of_gathered (gathered : declaration.Gathered other)
    (accepted : ∃ description, deriveSearchable other = .ok description) :
    ∃ description, deriveSearchable declaration = .ok description := by
  obtain ⟨declared, alike, rfl⟩ := gathered
  rw [exists_deriveSearchable_iff] at accepted ⊢
  exact alike.describable accepted

theorem exists_deriveNames_of_gathered (gathered : declaration.Gathered other)
    (accepted : ∃ description, deriveNames other = .ok description) :
    ∃ description, deriveNames declaration = .ok description := by
  obtain ⟨declared, alike, rfl⟩ := gathered
  rw [exists_deriveNames_iff] at accepted ⊢
  exact ⟨accepted.1, alike.nameable accepted.2⟩

theorem deriveSearchable_gathered_iff (gathered : declaration.Gathered other)
    (run : deriveSearchable declaration = .ok description) :
    deriveSearchable other = .ok description ↔
      other.declared.Restates declaration.declared := by
  obtain ⟨declared, alike, rfl⟩ := gathered
  obtain ⟨describable, described⟩ := deriveSearchable_eq_ok_iff.1 run
  rw [deriveSearchable_eq_ok_iff, alike.described_iff describable described]

theorem deriveNames_gathered_iff (gathered : declaration.Gathered other)
    (run : deriveNames declaration = .ok description) :
    deriveNames other = .ok description ↔
      other.declared.RestatesEntries declaration.declared := by
  obtain ⟨declared, alike, rfl⟩ := gathered
  obtain ⟨⟨plain, nameable⟩, listed⟩ := deriveNames_eq_ok_iff.1 run
  rw [deriveNames_eq_ok_iff, and_iff_right plain, alike.listed_iff nameable listed]

theorem exists_error_of_imp {ε α β : Type} {run : Except ε α} {next : Except ε β}
    (accepted : (∃ result, next = .ok result) → ∃ result, run = .ok result) {error : ε}
    (fails : run = .error error) : ∃ error, next = .error error := by
  cases same : next with
  | error reason => exact ⟨reason, rfl⟩
  | ok result =>
      obtain ⟨_, succeeds⟩ := accepted ⟨result, same⟩
      cases fails.symm.trans succeeds

/-- Only the first attribute about the search counts at each field or variant.  A declaration that
is refused is also refused if the settings of its parts are gathered in single attributes.  One that
is accepted has the same outcome then exactly if at each part all settings together are valid and
describe it as those in its first attribute do.  A field is left out exactly if the first attribute
says so. -/
theorem first_attribute_counts (gathered : declaration.Gathered other) :
    (deriveSearchable declaration.firstOnly = deriveSearchable declaration ∧
        deriveNames declaration.firstOnly = deriveNames declaration) ∧
      ((∀ reason, deriveSearchable declaration = .error reason →
          ∃ reason, deriveSearchable other = .error reason) ∧
        ∀ description, deriveSearchable declaration = .ok description →
          (deriveSearchable other = .ok description ↔
            other.declared.Restates declaration.declared)) ∧
      ((∀ reason, deriveNames declaration = .error reason →
          ∃ reason, deriveNames other = .error reason) ∧
        ∀ description, deriveNames declaration = .ok description →
          (deriveNames other = .ok description ↔
            other.declared.RestatesEntries declaration.declared)) ∧
      ∀ fields derived, declaration.declared = .record fields →
        deriveSearchable declaration = .ok (.record derived) →
          fields.filterMap (·.derived?) = derived ∧
            ∀ field ∈ fields, field.derived? = none ↔
              .word "skip".toList ∈ givenSettings field.attributes := by
  refine ⟨⟨deriveSearchable_firstOnly _, deriveNames_firstOnly _⟩, ⟨fun reason fails => ?_, ?_⟩,
    ⟨fun reason fails => ?_, ?_⟩, fun fields derived declared run => ⟨?_, ?_⟩⟩
  · exact exists_error_of_imp (exists_deriveSearchable_of_gathered gathered) fails
  · exact fun description run => deriveSearchable_gathered_iff gathered run
  · exact exists_error_of_imp (exists_deriveNames_of_gathered gathered) fails
  · exact fun description run => deriveNames_gathered_iff gathered run
  · have described := (deriveSearchable_eq_ok_iff.1 run).2
    rw [declared] at described
    exact Declared.described_record_iff.1 described
  · exact fun field _ => FieldDeclaration.derived?_eq_none_iff

end Whole

end Derive

namespace Samples

open Derive

def searchOf (settings : List Setting) : Attribute where
  path := "search".toList
  arguments := .list settings

def tokenDeclaration (attributes : List Attribute) : Declaration where
  name := "Session".toList
  declared := .record [{ name := "token".toList, type := "String".toList, attributes }]

def tokenField (name : Text) (label : Option Text) : DerivedField where
  name := name
  label := label
  type := "String".toList

def setLabel : Setting := .assignment "label".toList (.string "Token".toList)

def setName : Setting := .assignment "rename".toList (.string "key".toList)

def setSkip : Setting := .word "skip".toList

def docAttribute : Attribute where
  path := "doc".toList
  arguments := .assigned

theorem gathered_token {attributes gathered : List Attribute}
    (gathers : GathersSettings attributes gathered) :
    (tokenDeclaration attributes).Gathered (tokenDeclaration gathered) :=
  ⟨_, .record (.cons ⟨gathered, .inr gathers, rfl⟩ .nil), rfl⟩

theorem first_attribute_counts_token :
    (tokenDeclaration [searchOf [setLabel, setName], docAttribute, searchOf [setName]]).Gathered
        (tokenDeclaration [searchOf [setLabel, setName, setName]]) ∧
      deriveSearchable
          (tokenDeclaration [searchOf [setLabel, setName], docAttribute, searchOf [setName]]) =
        .ok (.record [tokenField "key".toList (some "Token".toList)]) ∧
      deriveSearchable (tokenDeclaration [searchOf [setLabel, setName, setName]]) =
        .ok (.record [tokenField "key".toList (some "Token".toList)]) := by
  have gathered :
      (tokenDeclaration [searchOf [setLabel, setName], docAttribute, searchOf [setName]]).Gathered
        (tokenDeclaration [searchOf [setLabel, setName, setName]]) :=
    gathered_token ⟨[[setLabel, setName], [setName]], rfl, rfl⟩
  have run : deriveSearchable
      (tokenDeclaration [searchOf [setLabel, setName], docAttribute, searchOf [setName]]) =
        .ok (.record [tokenField "key".toList (some "Token".toList)]) := by rfl
  refine ⟨gathered, run, ((first_attribute_counts gathered).2.1.2 _ run).2 ?_⟩
  exact .record (.cons ⟨(ofAttributes_eq_ok_iff.1 rfl).1, rfl⟩ .nil)

def levelDeclarationOf (attributes : List Attribute) : Declaration where
  name := "Level".toList
  declared := .enumeration [{ name := "Low".toList, attributes }]

theorem gathered_level {attributes gathered : List Attribute}
    (gathers : GathersSettings attributes gathered) :
    (levelDeclarationOf attributes).Gathered (levelDeclarationOf gathered) :=
  ⟨_, .enumeration (.cons ⟨gathered, .inr gathers, rfl⟩ .nil), rfl⟩

/-- What stands behind the first attribute is not read: a field that is left out there stays, also
with a label, and a variant can have a label. -/
theorem later_attributes_not_read :
    ((tokenDeclaration [searchOf [setName], searchOf [setSkip]]).Gathered
        (tokenDeclaration [searchOf [setName, setSkip]]) ∧
      deriveSearchable (tokenDeclaration [searchOf [setName], searchOf [setSkip]]) =
        .ok (.record [tokenField "key".toList none]) ∧
      deriveSearchable (tokenDeclaration [searchOf [setName, setSkip]]) = .ok (.record [])) ∧
    ((tokenDeclaration [searchOf [setLabel], searchOf [setSkip]]).Gathered
        (tokenDeclaration [searchOf [setLabel, setSkip]]) ∧
      deriveSearchable (tokenDeclaration [searchOf [setLabel], searchOf [setSkip]]) =
        .ok (.record [tokenField "token".toList (some "Token".toList)]) ∧
      deriveSearchable (tokenDeclaration [searchOf [setLabel, setSkip]]) = .error .skippedLabel) ∧
    (levelDeclarationOf [searchOf [setName], searchOf [setLabel]]).Gathered
        (levelDeclarationOf [searchOf [setName, setLabel]]) ∧
      deriveNames (levelDeclarationOf [searchOf [setName], searchOf [setLabel]]) =
        .ok (.names [("Low".toList, "key".toList)]) ∧
      deriveNames (levelDeclarationOf [searchOf [setName, setLabel]]) =
        .error (.renameOnly "SearchEnum variants".toList) := by
  refine ⟨⟨?_, rfl, rfl⟩, ⟨?_, rfl, rfl⟩, ?_, rfl, rfl⟩
  · exact gathered_token ⟨[[setName], [setSkip]], rfl, rfl⟩
  · exact gathered_token ⟨[[setLabel], [setSkip]], rfl, rfl⟩
  · exact gathered_level ⟨[[setName], [setLabel]], rfl, rfl⟩

end Samples

end RecordSearch
