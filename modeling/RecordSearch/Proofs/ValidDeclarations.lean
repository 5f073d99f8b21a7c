import RecordSearch.Derive.Basic
import RecordSearch.Proofs.DerivedNames
import RecordSearch.Proofs.WrittenSettings

/-!
# The declarations that are described

A structure is described if the attributes of its fields are valid, and an enumeration if it has
variants and all of them are valid: their attributes give nothing but names, and they carry what a
variant may carry.  The description lists the parts in their order.  A declaration that is no
structure or enumeration of the right form fails as a whole, and any other as the first of its parts
with which something is wrong.
-/

namespace RecordSearch

/-- A run whose step succeeds at valid items gives what these come to, item by item. -/
theorem Run.mapM_eq_ok_iff {ε α β : Type} {step : α → Except ε β} {Valid : α → Prop}
    {outcome : α → β}
    (steps : ∀ {item result}, step item = .ok result ↔ Valid item ∧ outcome item = result)
    {items : List α} {results : List β} :
    items.mapM step = .ok results ↔
      (∀ item ∈ items, Valid item) ∧ items.map outcome = results := by
  induction items generalizing results with
  | nil =>
      rw [List.mapM_nil, pure_eq_ok_iff]
      exact (and_iff_right (List.forall_mem_nil _)).symm
  | cons item items induction =>
      rw [mapM_cons_eq_ok_iff, List.forall_mem_cons, List.map_cons]
      simp only [steps, induction]
      constructor
      · rintro ⟨_, _, ⟨valid, rfl⟩, ⟨rest, rfl⟩, same⟩
        exact ⟨⟨valid, rest⟩, same⟩
      · rintro ⟨⟨valid, rest⟩, same⟩
        exact ⟨_, _, ⟨valid, rfl⟩, ⟨rest, rfl⟩, same⟩

theorem Run.error_ne_ok {ε α : Type} {error : ε} {result : α} :
    (Except.error error : Except ε α) ≠ .ok result := by
  intro same
  cases same

namespace Derive

def FieldDeclaration.settings (field : FieldDeclaration) : Settings :=
  .summary (givenSettings field.attributes)

def VariantDeclaration.settings (variant : VariantDeclaration) : Settings :=
  .summary (givenSettings variant.attributes)

/-- The field in a description, unless it is left out. -/
def FieldDeclaration.derived? (field : FieldDeclaration) : Option DerivedField :=
  if field.settings.skip then
    none
  else
    some {
      name := field.settings.rename.getD (withoutRawMark field.name)
      label := field.settings.label
      type := compact field.type }

def Payload.type? : Payload → Option Text
  | .tuple [type] => some type
  | _ => none

def VariantDeclaration.derived (variant : VariantDeclaration) : DerivedVariant where
  identifier := variant.name
  name := variant.settings.rename.getD (snakeCase variant.name)
  payload := variant.payload.type?.map compact

def VariantDeclaration.entry (variant : VariantDeclaration) : Text × Text :=
  (variant.name, variant.settings.rename.getD variant.name)

/-- There is nothing in it, or exactly one unnamed field. -/
inductive Payload.IsSingle : Payload → Prop where
  | unit : IsSingle .unit
  | field {type : Text} : IsSingle (.tuple [type])

/-- The attributes of the variant are valid and give nothing but a name. -/
structure VariantDeclaration.WellNamed (variant : VariantDeclaration) : Prop where
  valid : AttributesValid variant.attributes
  only : variant.settings.RenamesOnly

/-- What is wrong with the attributes of a variant; the place is where it stands. -/
inductive VariantDeclaration.NameFault (place : Text) (variant : VariantDeclaration) :
    DeriveError → Prop where
  | attributes {reason : DeriveError} :
      AttributesFault variant.attributes reason →
      NameFault place variant reason
  | more :
      AttributesValid variant.attributes →
      ¬variant.settings.RenamesOnly →
      NameFault place variant (.renameOnly place)

inductive VariantDeclaration.Fault (variant : VariantDeclaration) : DeriveError → Prop where
  | name {reason : DeriveError} :
      variant.NameFault "enum variants".toList reason →
      Fault variant reason
  | payload :
      variant.WellNamed →
      ¬variant.payload.IsSingle →
      Fault variant .payloadShape

/-- What is wrong with a variant in a table of names. -/
inductive VariantDeclaration.EntryFault (variant : VariantDeclaration) : DeriveError → Prop where
  | payload :
      variant.payload ≠ .unit →
      EntryFault variant .carriesData
  | name {reason : DeriveError} :
      variant.payload = .unit →
      variant.NameFault "SearchEnum variants".toList reason →
      EntryFault variant reason

namespace Declared

/-- It is a structure or an enumeration that has a description. -/
def IsDescribable : Declared → Prop
  | .record fields => ∀ field ∈ fields, AttributesValid field.attributes
  | .enumeration variants =>
      variants ≠ [] ∧ ∀ variant ∈ variants, variant.WellNamed ∧ variant.payload.IsSingle
  | _ => False

/-- It is an enumeration that has a table of names. -/
def IsNameable : Declared → Prop
  | .enumeration variants =>
      variants ≠ [] ∧ ∀ variant ∈ variants, variant.payload = .unit ∧ variant.WellNamed
  | _ => False

/-- The description of a structure or an enumeration. -/
inductive Described : Declared → Description → Prop where
  | record {fields : List FieldDeclaration} :
      Described (.record fields) (.record (fields.filterMap (·.derived?)))
  | variants {variants : List VariantDeclaration} :
      Described (.enumeration variants) (.variants (variants.map (·.derived)))

/-- The table of names of an enumeration. -/
inductive Listed : Declared → Description → Prop where
  | names {variants : List VariantDeclaration} :
      Listed (.enumeration variants) (.names (variants.map (·.entry)))

/-- Why there is no description. -/
inductive Fault : Declared → DeriveError → Prop where
  | tuple : Fault .tuple .unnamedFields
  | unit : Fault .unit .unnamedFields
  | union : Fault .union .union
  | empty : Fault (.enumeration []) .noVariants
  | field {fields : List FieldDeclaration} {reason : DeriveError} :
      First (fun field => AttributesFault field.attributes) fields reason →
      Fault (.record fields) reason
  | variant {variants : List VariantDeclaration} {reason : DeriveError} :
      First VariantDeclaration.Fault variants reason →
      Fault (.enumeration variants) reason

theorem exists_described {declared : Declared} (describable : declared.IsDescribable) :
    ∃ description, declared.Described description := by
  cases declared with
  | record => exact ⟨_, .record⟩
  | tuple | unit | union => exact describable.elim
  | enumeration => exact ⟨_, .variants⟩

theorem exists_listed {declared : Declared} (nameable : declared.IsNameable) :
    ∃ description, declared.Listed description := by
  cases declared with
  | record | tuple | unit | union => exact nameable.elim
  | enumeration => exact ⟨_, .names⟩

end Declared

namespace Declaration

/-- Why there is no table of names. -/
inductive NamesFault (declaration : Declaration) : DeriveError → Prop where
  | notEnumeration :
      (∀ variants, declaration.declared ≠ .enumeration variants) →
      NamesFault declaration .notEnumeration
  | generic {variants : List VariantDeclaration} :
      declaration.declared = .enumeration variants →
      declaration.parameters ≠ [] →
      NamesFault declaration .genericEnumeration
  | empty :
      declaration.declared = .enumeration [] →
      declaration.parameters = [] →
      NamesFault declaration .noNames
  | variant {variants : List VariantDeclaration} {reason : DeriveError} :
      declaration.declared = .enumeration variants →
      declaration.parameters = [] →
      First VariantDeclaration.EntryFault variants reason →
      NamesFault declaration reason

end Declaration

theorem Payload.not_isSingle {payload : Payload} (carries : payload ≠ .unit)
    (several : ∀ type, payload ≠ .tuple [type]) : ¬payload.IsSingle := by
  intro single
  cases single with
  | unit => exact carries rfl
  | field => exact several _ rfl

section Parts

variable {field : FieldDeclaration} {variant : VariantDeclaration} {reason : DeriveError}

theorem deriveField_eq_ok_iff {derived : Option DerivedField} :
    deriveField field = .ok derived ↔
      AttributesValid field.attributes ∧ field.derived? = derived := by
  rw [deriveField, Run.bind_eq_ok_iff]
  simp only [ofAttributes_eq_ok_iff, and_assoc, exists_and_left, exists_eq_left']
  rw [FieldDeclaration.derived?, FieldDeclaration.settings]
  split <;> simp [pure, Except.pure]

theorem deriveField_eq_error_iff :
    deriveField field = .error reason ↔ AttributesFault field.attributes reason := by
  rw [deriveField, Run.bind_eq_error_iff, ofAttributes_eq_error_iff, or_iff_left]
  rintro ⟨settings, _, run⟩
  split at run <;> cases run

section Named

variable {β : Type} {place : Text} {next : Option Text → Except DeriveError β}

/-- What both kinds of variants begin with: the attributes are read, and have to give only names. -/
theorem bind_renameOnly_eq_ok_iff {result : β} :
    (Settings.ofAttributes variant.attributes >>= fun settings =>
        settings.renameOnly place >>= next) = .ok result ↔
      variant.WellNamed ∧ next variant.settings.rename = .ok result := by
  simp only [Run.bind_eq_ok_iff, ofAttributes_eq_ok_iff, Settings.renameOnly_eq_ok_iff, and_assoc,
    exists_and_left, exists_eq_left']
  constructor
  · rintro ⟨valid, only, run⟩
    exact ⟨⟨valid, only⟩, run⟩
  · rintro ⟨named, run⟩
    exact ⟨named.valid, named.only, run⟩

theorem bind_renameOnly_eq_error_iff :
    (Settings.ofAttributes variant.attributes >>= fun settings =>
        settings.renameOnly place >>= next) = .error reason ↔
      variant.NameFault place reason ∨
        variant.WellNamed ∧ next variant.settings.rename = .error reason := by
  simp only [Run.bind_eq_error_iff, ofAttributes_eq_ok_iff, ofAttributes_eq_error_iff,
    Settings.renameOnly_eq_ok_iff, Settings.renameOnly_eq_error_iff, and_assoc, exists_and_left,
    exists_eq_left']
  constructor
  · rintro (fault | ⟨valid, ⟨more, rfl⟩ | ⟨only, run⟩⟩)
    · exact .inl (.attributes fault)
    · exact .inl (.more valid more)
    · exact .inr ⟨⟨valid, only⟩, run⟩
  · rintro (fault | ⟨named, run⟩)
    · cases fault with
      | attributes fault => exact .inl fault
      | more valid more => exact .inr ⟨valid, .inl ⟨more, rfl⟩⟩
    · exact .inr ⟨named.valid, .inr ⟨named.only, run⟩⟩

end Named

theorem deriveVariant_eq_ok_iff {derived : DerivedVariant} :
    deriveVariant variant = .ok derived ↔
      (variant.WellNamed ∧ variant.payload.IsSingle) ∧ variant.derived = derived := by
  rw [deriveVariant, bind_renameOnly_eq_ok_iff, and_assoc, VariantDeclaration.derived]
  refine and_congr_right fun _ => ?_
  split
  case h_1 unit =>
    rw [unit, Run.pure_eq_ok_iff]
    exact (and_iff_right .unit).symm
  case h_2 type single =>
    rw [single, Run.pure_eq_ok_iff]
    exact (and_iff_right .field).symm
  case h_3 carries several =>
    exact iff_of_false Run.error_ne_ok fun both => Payload.not_isSingle carries several both.1

theorem deriveVariant_eq_error_iff :
    deriveVariant variant = .error reason ↔ variant.Fault reason := by
  rw [deriveVariant, bind_renameOnly_eq_error_iff]
  constructor
  · rintro (fault | ⟨named, run⟩)
    · exact .name fault
    · split at run
      case h_1 | h_2 => cases run
      case h_3 carries several =>
        cases run
        exact .payload named (Payload.not_isSingle carries several)
  · intro fault
    cases fault with
    | name fault => exact .inl fault
    | payload named several =>
        refine .inr ⟨named, ?_⟩
        split
        case h_1 unit => exact absurd .unit (unit ▸ several)
        case h_2 type single => exact absurd .field (single ▸ several)
        case h_3 => rfl

theorem deriveName_eq_ok_iff {entry : Text × Text} :
    deriveName variant = .ok entry ↔
      (variant.payload = .unit ∧ variant.WellNamed) ∧ variant.entry = entry := by
  rw [deriveName, and_assoc]
  split
  case isTrue carries => exact iff_of_false Run.error_ne_ok fun both => carries both.1
  case isFalse plain =>
    have unit : variant.payload = .unit := Decidable.not_not.1 plain
    rw [and_iff_right unit]
    exact bind_renameOnly_eq_ok_iff.trans (and_congr_right fun _ => Run.pure_eq_ok_iff)

theorem deriveName_eq_error_iff :
    deriveName variant = .error reason ↔ variant.EntryFault reason := by
  rw [deriveName]
  split
  case isTrue carries =>
    constructor
    · rintro ⟨⟩
      exact .payload carries
    · intro fault
      cases fault with
      | payload => rfl
      | name unit => exact absurd unit carries
  case isFalse plain =>
    have unit : variant.payload = .unit := Decidable.not_not.1 plain
    refine bind_renameOnly_eq_error_iff.trans ?_
    constructor
    · rintro (fault | ⟨_, run⟩)
      · exact .name unit fault
      · cases run
    · intro fault
      cases fault with
      | payload carries => exact absurd unit carries
      | name _ fault => exact .inl fault

end Parts

section Whole

variable {declaration : Declaration} {reason : DeriveError}

theorem deriveFields_eq_map (fields : List FieldDeclaration) :
    deriveFields fields = (fields.mapM deriveField).map (List.filterMap id) := by
  induction fields with
  | nil => rfl
  | cons field fields induction =>
      rw [deriveFields, List.mapM_cons, induction]
      cases deriveField field with
      | error => rfl
      | ok derived =>
          cases fields.mapM deriveField with
          | error => rfl
          | ok rest => cases derived <;> rfl

theorem deriveFields_eq_ok_iff {fields : List FieldDeclaration} {derived : List DerivedField} :
    deriveFields fields = .ok derived ↔
      (∀ field ∈ fields, AttributesValid field.attributes) ∧
        fields.filterMap (·.derived?) = derived := by
  rw [deriveFields_eq_map, Run.map_eq_ok_iff]
  simp only [Run.mapM_eq_ok_iff deriveField_eq_ok_iff, and_assoc, exists_and_left,
    exists_eq_left', List.filterMap_map, Function.comp_def, id_eq]

theorem deriveFields_eq_error_iff {fields : List FieldDeclaration} :
    deriveFields fields = .error reason ↔
      First (fun field => AttributesFault field.attributes) fields reason := by
  rw [deriveFields_eq_map, Run.map_eq_error_iff, Run.mapM_eq_error_iff]
  exact First.congr fun field _ _ => deriveField_eq_error_iff

theorem deriveVariants_eq_error_iff {variants : List VariantDeclaration} :
    variants.mapM deriveVariant = .error reason ↔ First VariantDeclaration.Fault variants reason :=
  Run.mapM_eq_error_iff.trans (First.congr fun _ _ _ => deriveVariant_eq_error_iff)

theorem deriveEntries_eq_error_iff {variants : List VariantDeclaration} :
    variants.mapM deriveName = .error reason ↔
      First VariantDeclaration.EntryFault variants reason :=
  Run.mapM_eq_error_iff.trans (First.congr fun _ _ _ => deriveName_eq_error_iff)

theorem deriveSearchable_eq_ok_iff {description : Description} :
    deriveSearchable declaration = .ok description ↔
      declaration.declared.IsDescribable ∧ declaration.declared.Described description := by
  fun_cases deriveSearchable declaration with
  | case1 fields declared =>
      rw [declared, Run.map_eq_ok_iff]
      simp only [deriveFields_eq_ok_iff]
      constructor
      · rintro ⟨_, ⟨valid, rfl⟩, rfl⟩
        exact ⟨valid, .record⟩
      · rintro ⟨valid, ⟨⟩⟩
        exact ⟨_, ⟨valid, rfl⟩, rfl⟩
  | case2 declared | case3 declared | case4 declared =>
      rw [declared]
      exact iff_of_false Run.error_ne_ok fun both => both.1
  | case5 declared =>
      rw [declared]
      exact iff_of_false Run.error_ne_ok fun both => both.1.1 rfl
  | case6 variants nonempty declared =>
      rw [declared, Run.map_eq_ok_iff]
      simp only [Run.mapM_eq_ok_iff deriveVariant_eq_ok_iff]
      constructor
      · rintro ⟨_, ⟨valid, rfl⟩, rfl⟩
        exact ⟨⟨nonempty, valid⟩, .variants⟩
      · rintro ⟨⟨_, valid⟩, ⟨⟩⟩
        exact ⟨_, ⟨valid, rfl⟩, rfl⟩

theorem deriveSearchable_eq_error_iff :
    deriveSearchable declaration = .error reason ↔ declaration.declared.Fault reason := by
  constructor
  · fun_cases deriveSearchable declaration with
    | case1 fields declared =>
        intro run
        rw [declared]
        exact .field (deriveFields_eq_error_iff.1 (Run.map_eq_error_iff.1 run))
    | case2 declared =>
        rintro ⟨⟩
        rw [declared]
        exact .tuple
    | case3 declared =>
        rintro ⟨⟩
        rw [declared]
        exact .unit
    | case4 declared =>
        rintro ⟨⟩
        rw [declared]
        exact .union
    | case5 declared =>
        rintro ⟨⟩
        rw [declared]
        exact .empty
    | case6 variants nonempty declared =>
        intro run
        rw [declared]
        exact .variant (deriveVariants_eq_error_iff.1 (Run.map_eq_error_iff.1 run))
  · intro fault
    rw [deriveSearchable]
    generalize declaration.declared = declared at fault
    cases fault with
    | tuple | unit | union | empty => rfl
    | field first => exact Run.map_eq_error_iff.2 (deriveFields_eq_error_iff.2 first)
    | @variant variants reason first =>
        cases variants with
        | nil => exact (First.nil_iff.1 first).elim
        | cons => exact Run.map_eq_error_iff.2 (deriveVariants_eq_error_iff.2 first)

theorem deriveNames_eq_ok_iff {description : Description} :
    deriveNames declaration = .ok description ↔
      (declaration.parameters = [] ∧ declaration.declared.IsNameable) ∧
        declaration.declared.Listed description := by
  constructor
  · fun_cases deriveNames declaration with
    | case1 | case2 | case3 | case5 =>
        intro run
        cases run
    | case4 variants declared plain names nonempty run =>
        rintro ⟨⟩
        obtain ⟨valid, rfl⟩ := (Run.mapM_eq_ok_iff deriveName_eq_ok_iff).1 run
        rw [declared]
        refine ⟨⟨not_not.1 plain, ?_, valid⟩, .names⟩
        rintro rfl
        exact nonempty rfl
  · rintro ⟨⟨plain, nameable⟩, listed⟩
    cases declared : declaration.declared with
    | record | tuple | unit | union =>
        rw [declared] at nameable
        exact nameable.elim
    | enumeration variants =>
        rw [declared] at nameable listed
        obtain ⟨nonempty, valid⟩ := nameable
        cases listed
        exact deriveNames_eq_names_iff.2 ⟨variants, declared, plain, nonempty,
          (Run.mapM_eq_ok_iff deriveName_eq_ok_iff).2 ⟨valid, rfl⟩⟩

theorem deriveNames_eq_error_iff :
    deriveNames declaration = .error reason ↔ declaration.NamesFault reason := by
  constructor
  · fun_cases deriveNames declaration with
    | case1 variants declared generic =>
        rintro ⟨⟩
        exact .generic declared generic
    | case2 variants declared plain other run =>
        rintro ⟨⟩
        exact .variant declared (not_not.1 plain) (deriveEntries_eq_error_iff.1 run)
    | case3 variants declared plain run =>
        rintro ⟨⟩
        obtain ⟨_, none⟩ := (Run.mapM_eq_ok_iff deriveName_eq_ok_iff).1 run
        rw [List.map_eq_nil_iff.1 none] at declared
        exact .empty declared (not_not.1 plain)
    | case4 =>
        intro run
        cases run
    | case5 other =>
        rintro ⟨⟩
        exact .notEnumeration other
  · intro fault
    rw [deriveNames]
    cases fault with
    | notEnumeration other =>
        split
        case h_1 variants declared => exact absurd declared (other variants)
        case h_2 => rfl
    | generic declared generic =>
        rw [declared]
        exact if_pos generic
    | empty declared plain =>
        rw [declared, plain]
        rfl
    | variant declared plain first =>
        simp only [declared, plain, ne_eq, not_true_eq_false, if_false,
          deriveEntries_eq_error_iff.2 first]

theorem exists_deriveSearchable_iff :
    (∃ description, deriveSearchable declaration = .ok description) ↔
      declaration.declared.IsDescribable := by
  simp only [deriveSearchable_eq_ok_iff, exists_and_left]
  exact and_iff_left_of_imp Declared.exists_described

theorem exists_deriveNames_iff :
    (∃ description, deriveNames declaration = .ok description) ↔
      declaration.parameters = [] ∧ declaration.declared.IsNameable := by
  simp only [deriveNames_eq_ok_iff, exists_and_left]
  exact and_iff_left_of_imp fun both => Declared.exists_listed both.2

/-- A declaration is accepted exactly if it is valid, and then described in the order of its parts,
each with its last name and label or its default name.  Otherwise it fails as a whole, or as the
first of its fields or variants with which something is wrong. -/
theorem derives_exactly_valid (declaration : Declaration) :
    ((∃ description, deriveSearchable declaration = .ok description) ↔
        declaration.declared.IsDescribable) ∧
      (∀ description, deriveSearchable declaration = .ok description ↔
        declaration.declared.IsDescribable ∧ declaration.declared.Described description) ∧
      (∀ reason, deriveSearchable declaration = .error reason ↔
        declaration.declared.Fault reason) ∧
      ((∃ description, deriveNames declaration = .ok description) ↔
        declaration.parameters = [] ∧ declaration.declared.IsNameable) ∧
      (∀ description, deriveNames declaration = .ok description ↔
        (declaration.parameters = [] ∧ declaration.declared.IsNameable) ∧
          declaration.declared.Listed description) ∧
      ∀ reason, deriveNames declaration = .error reason ↔ declaration.NamesFault reason :=
  ⟨exists_deriveSearchable_iff, fun _ => deriveSearchable_eq_ok_iff,
    fun _ => deriveSearchable_eq_error_iff, exists_deriveNames_iff, fun _ => deriveNames_eq_ok_iff,
    fun _ => deriveNames_eq_error_iff⟩

end Whole

end Derive

namespace Samples

open Derive

/-- The variants of an enumeration, the first of which is given a label. -/
def labelledVariants : List VariantDeclaration := [
  { name := "Low".toList
    attributes := [{
      path := "search".toList
      arguments := .list [.assignment "label".toList (.string "Low Level".toList)] }] },
  { name := "High".toList }]

/-- An enumeration with a parameter and with a variant that is not valid. -/
def genericLevelDeclaration : Declaration where
  name := "Level".toList
  parameters := [.constant "N".toList]
  declared := .enumeration labelledVariants

/-- The parameters of an enumeration are reported before what is wrong with its variants. -/
theorem parameters_reported_first :
    deriveNames genericLevelDeclaration = .error .genericEnumeration ∧
      First VariantDeclaration.EntryFault labelledVariants
        (.renameOnly "SearchEnum variants".toList) ∧
      ¬First VariantDeclaration.EntryFault labelledVariants .genericEnumeration := by
  have fails : labelledVariants.mapM deriveName =
      .error (.renameOnly "SearchEnum variants".toList) := by rfl
  refine ⟨rfl, deriveEntries_eq_error_iff.1 fails, fun first => ?_⟩
  cases fails.symm.trans (deriveEntries_eq_error_iff.2 first)

end Samples

end RecordSearch
