import Mathlib.Data.List.Nodup
import RecordSearch.Derive.Basic
import RecordSearch.Proofs.Run
import RecordSearch.Proofs.SnakeCase

/-!
# The names of derived parts

A field or a variant has the name that its attributes give it, or else one that is made of its
identifier: without the raw mark for a field, in snake case for a variant with or without payload,
and unchanged in a table of names.  Every name that is derived is one of these, and no two parts
are ever compared.
-/

namespace RecordSearch

theorem Run.map_eq_ok_iff {ε α β : Type} {run : Except ε α} {change : α → β} {result : β} :
    run.map change = .ok result ↔ ∃ value, run = .ok value ∧ change value = result := by
  cases run <;> simp [Except.map]

theorem Run.map_eq_of_mapM {ε α β γ : Type} {step : α → Except ε β} {observe : β → γ}
    {expect : α → γ} (same : ∀ {item result}, step item = .ok result → observe result = expect item)
    {items : List α} {results : List β} (run : items.mapM step = .ok results) :
    results.map observe = items.map expect := by
  induction items generalizing results with
  | nil =>
      rw [List.mapM_nil, pure_eq_ok_iff] at run
      rw [← run]
      rfl
  | cons item items induction =>
      obtain ⟨result, rest, stepped, restRun, rfl⟩ := mapM_cons_eq_ok_iff.1 run
      rw [List.map_cons, List.map_cons, same stepped, induction restRun]

namespace Derive

/-- The name that some attributes give. -/
def renamed? (attributes : List Attribute) : Option Text :=
  match Settings.ofAttributes attributes with
  | .ok settings => settings.rename
  | .error _ => none

def leaveOut (attributes : List Attribute) : Bool :=
  match Settings.ofAttributes attributes with
  | .ok settings => settings.skip
  | .error _ => false

def FieldDeclaration.wireName (field : FieldDeclaration) : Text :=
  (renamed? field.attributes).getD (withoutRawMark field.name)

def VariantDeclaration.wireName (variant : VariantDeclaration) : Text :=
  (renamed? variant.attributes).getD (snakeCase variant.name)

def VariantDeclaration.literalName (variant : VariantDeclaration) : Text :=
  (renamed? variant.attributes).getD variant.name

def VariantDeclaration.carries (variant : VariantDeclaration) : Bool :=
  variant.payload != .unit

def keptFields (fields : List FieldDeclaration) : List FieldDeclaration :=
  fields.filter fun field => !leaveOut field.attributes

namespace Declared

def identifiers : Declared → List Text
  | .record fields => fields.map (·.name)
  | .enumeration variants => variants.map (·.name)
  | _ => []

def RenamesNothing : Declared → Prop
  | .record fields => ∀ field ∈ fields, renamed? field.attributes = none
  | .enumeration variants => ∀ variant ∈ variants, renamed? variant.attributes = none
  | _ => True

/-- No field or variant is given a name, and no two have one identifier, raw marks aside. -/
structure NamedByIdentifiers (declared : Declared) : Prop where
  renames : declared.RenamesNothing
  apart : (declared.identifiers.map withoutRawMark).Nodup

def wireNames : Declared → List Text
  | .record fields => (keptFields fields).map (·.wireName)
  | .enumeration variants => variants.map (·.wireName)
  | _ => []

def payloadNames : Declared → List Text
  | .enumeration variants => (variants.filter (·.carries)).map (·.wireName)
  | _ => []

def literalNames : Declared → List Text
  | .enumeration variants => variants.map (·.literalName)
  | _ => []

end Declared

section Parts

variable {attributes : List Attribute} {settings : Settings} {field : FieldDeclaration}
  {variant : VariantDeclaration}

theorem renamed?_eq (read : Settings.ofAttributes attributes = .ok settings) :
    renamed? attributes = settings.rename := by
  rw [renamed?, read]

theorem leaveOut_eq (read : Settings.ofAttributes attributes = .ok settings) :
    leaveOut attributes = settings.skip := by
  rw [leaveOut, read]

theorem renameOnly_eq_ok {place : Text} {rename : Option Text}
    (run : settings.renameOnly place = .ok rename) : rename = settings.rename := by
  rw [Settings.renameOnly] at run
  split at run
  case isTrue => cases run
  case isFalse => exact (Except.ok.inj run).symm

theorem left_out_of_deriveField (run : deriveField field = .ok none) :
    leaveOut field.attributes = true := by
  obtain ⟨settings, read, rest⟩ := Run.bind_eq_ok_iff.1 run
  rw [leaveOut_eq read]
  split at rest
  case isTrue skipped => exact skipped
  case isFalse => cases rest

theorem kept_of_deriveField {derived : DerivedField}
    (run : deriveField field = .ok (some derived)) :
    leaveOut field.attributes = false ∧ derived.name = field.wireName := by
  obtain ⟨settings, read, rest⟩ := Run.bind_eq_ok_iff.1 run
  rw [leaveOut_eq read, FieldDeclaration.wireName, renamed?_eq read]
  split at rest
  case isTrue => cases rest
  case isFalse kept =>
    cases rest
    exact ⟨Bool.eq_false_iff.2 kept, rfl⟩

theorem named_of_deriveVariant {derived : DerivedVariant}
    (run : deriveVariant variant = .ok derived) :
    derived.name = variant.wireName ∧ derived.payload.isSome = variant.carries := by
  obtain ⟨settings, read, rest⟩ := Run.bind_eq_ok_iff.1 run
  obtain ⟨rename, renamed, rest⟩ := Run.bind_eq_ok_iff.1 rest
  rw [VariantDeclaration.wireName, VariantDeclaration.carries, renamed?_eq read,
    ← renameOnly_eq_ok renamed]
  split at rest
  case h_1 unit =>
    cases rest
    rw [unit]
    exact ⟨rfl, rfl⟩
  case h_2 type carried =>
    cases rest
    rw [carried]
    exact ⟨rfl, rfl⟩
  case h_3 => cases rest

theorem named_of_deriveName {entry : Text × Text} (run : deriveName variant = .ok entry) :
    entry.2 = variant.literalName := by
  rw [deriveName] at run
  split at run
  case isTrue => cases run
  case isFalse =>
    obtain ⟨settings, read, rest⟩ := Run.bind_eq_ok_iff.1 run
    obtain ⟨rename, renamed, rest⟩ := Run.bind_eq_ok_iff.1 rest
    cases rest
    rw [VariantDeclaration.literalName, renamed?_eq read, ← renameOnly_eq_ok renamed]

end Parts

section Whole

variable {fields : List FieldDeclaration} {variants : List VariantDeclaration}

theorem names_of_deriveFields {derived : List DerivedField}
    (run : deriveFields fields = .ok derived) :
    derived.map (·.name) = (keptFields fields).map (·.wireName) := by
  induction fields generalizing derived with
  | nil =>
      cases run
      rfl
  | cons field fields induction =>
      obtain ⟨first, derivesFirst, rest⟩ := Run.bind_eq_ok_iff.1 run
      obtain ⟨others, derivesOthers, equal⟩ := Run.bind_eq_ok_iff.1 rest
      cases equal
      rw [List.map_append, induction derivesOthers]
      cases first with
      | none =>
          have skipped := left_out_of_deriveField derivesFirst
          simp [keptFields, skipped]
      | some first =>
          obtain ⟨kept, named⟩ := kept_of_deriveField derivesFirst
          simp [keptFields, kept, named]

theorem names_of_deriveVariants {derived : List DerivedVariant}
    (run : variants.mapM deriveVariant = .ok derived) :
    derived.map (·.name) = variants.map (·.wireName) ∧
      (derived.filter (·.payload.isSome)).map (·.name) =
        (variants.filter (·.carries)).map (·.wireName) := by
  have parts : derived.map (fun variant => (variant.name, variant.payload.isSome)) =
      variants.map fun variant => (variant.wireName, variant.carries) :=
    Run.map_eq_of_mapM (fun first => Prod.ext_iff.2 (named_of_deriveVariant first)) run
  constructor
  · simpa [Function.comp_def] using congrArg (List.map Prod.fst) parts
  · simpa [List.filter_map, Function.comp_def] using
      congrArg (fun parts => (parts.filter Prod.snd).map Prod.fst) parts

theorem names_of_deriveNames {names : List (Text × Text)}
    (run : variants.mapM deriveName = .ok names) :
    names.map Prod.snd = variants.map (·.literalName) :=
  Run.map_eq_of_mapM named_of_deriveName run

variable {declaration : Declaration}

theorem deriveSearchable_eq_record_iff {derived : List DerivedField} :
    deriveSearchable declaration = .ok (.record derived) ↔
      ∃ fields, declaration.declared = .record fields ∧ deriveFields fields = .ok derived := by
  constructor
  · fun_cases deriveSearchable declaration with
    | case1 fields declared =>
        intro run
        obtain ⟨_, derives, equal⟩ := Run.map_eq_ok_iff.1 run
        cases equal
        exact ⟨fields, declared, derives⟩
    | case2 | case3 | case4 | case5 =>
        intro run
        cases run
    | case6 variants =>
        intro run
        obtain ⟨_, _, equal⟩ := Run.map_eq_ok_iff.1 run
        cases equal
  · rintro ⟨fields, declared, derives⟩
    rw [deriveSearchable, declared]
    exact Run.map_eq_ok_iff.2 ⟨derived, derives, rfl⟩

theorem deriveSearchable_eq_variants_iff {derived : List DerivedVariant} :
    deriveSearchable declaration = .ok (.variants derived) ↔
      ∃ variants, declaration.declared = .enumeration variants ∧ variants ≠ [] ∧
        variants.mapM deriveVariant = .ok derived := by
  constructor
  · fun_cases deriveSearchable declaration with
    | case1 fields =>
        intro run
        obtain ⟨_, _, equal⟩ := Run.map_eq_ok_iff.1 run
        cases equal
    | case2 | case3 | case4 | case5 =>
        intro run
        cases run
    | case6 variants nonempty declared =>
        intro run
        obtain ⟨_, derives, equal⟩ := Run.map_eq_ok_iff.1 run
        cases equal
        exact ⟨variants, declared, nonempty, derives⟩
  · rintro ⟨variants, declared, nonempty, derives⟩
    rw [deriveSearchable, declared]
    cases variants with
    | nil => exact absurd rfl nonempty
    | cons variant variants => exact Run.map_eq_ok_iff.2 ⟨derived, derives, rfl⟩

theorem deriveNames_eq_names_iff {names : List (Text × Text)} :
    deriveNames declaration = .ok (.names names) ↔
      ∃ variants, declaration.declared = .enumeration variants ∧ declaration.parameters = [] ∧
        variants ≠ [] ∧ variants.mapM deriveName = .ok names := by
  constructor
  · fun_cases deriveNames declaration with
    | case1 | case2 | case3 | case5 =>
        intro run
        cases run
    | case4 variants declared plain listed nonempty derives =>
        intro run
        cases run
        refine ⟨variants, declared, not_not.1 plain, ?_, derives⟩
        rintro rfl
        exact nonempty (Except.ok.inj derives).symm
  · rintro ⟨variants, declared, plain, nonempty, derives⟩
    rw [deriveNames, declared, plain]
    cases variants with
    | nil => exact absurd rfl nonempty
    | cons variant variants =>
        obtain ⟨first, rest, _, _, rfl⟩ := Run.mapM_cons_eq_ok_iff.1 derives
        simp [derives]

theorem names_of_deriveSearchable_record {derived : List DerivedField}
    (run : deriveSearchable declaration = .ok (.record derived)) :
    derived.map (·.name) = declaration.declared.wireNames := by
  obtain ⟨fields, declared, derives⟩ := deriveSearchable_eq_record_iff.1 run
  rw [declared, names_of_deriveFields derives, Declared.wireNames]

theorem names_of_deriveSearchable_variants {derived : List DerivedVariant}
    (run : deriveSearchable declaration = .ok (.variants derived)) :
    derived.map (·.name) = declaration.declared.wireNames ∧
      (derived.filter (·.payload.isSome)).map (·.name) = declaration.declared.payloadNames := by
  obtain ⟨variants, declared, _, derives⟩ := deriveSearchable_eq_variants_iff.1 run
  rw [declared, Declared.wireNames, Declared.payloadNames]
  exact names_of_deriveVariants derives

theorem names_of_deriveNames_names {names : List (Text × Text)}
    (run : deriveNames declaration = .ok (.names names)) :
    names.map (·.2) = declaration.declared.literalNames := by
  obtain ⟨variants, declared, _, _, derives⟩ := deriveNames_eq_names_iff.1 run
  rw [declared, Declared.literalNames]
  exact names_of_deriveNames derives

end Whole

namespace Declared

variable {fields : List FieldDeclaration} {variants : List VariantDeclaration}

theorem NamedByIdentifiers.nodup_fields (named : (Declared.record fields).NamedByIdentifiers) :
    (Declared.record fields).wireNames.Nodup := by
  have names : (Declared.record fields).wireNames =
      (keptFields fields).map (withoutRawMark ·.name) := by
    refine List.map_congr_left fun field kept => ?_
    rw [FieldDeclaration.wireName, named.renames field (List.mem_of_mem_filter kept),
      Option.getD_none]
  have apart := named.apart
  rw [identifiers, List.map_map] at apart
  rw [names]
  exact apart.sublist (List.filter_sublist.map _)

theorem NamedByIdentifiers.nodup_identifiers {declared : Declared}
    (named : declared.NamedByIdentifiers) : declared.identifiers.Nodup :=
  List.Nodup.of_map withoutRawMark named.apart

theorem NamedByIdentifiers.nodup_literals
    (named : (Declared.enumeration variants).NamedByIdentifiers) :
    (Declared.enumeration variants).literalNames.Nodup := by
  have names : (Declared.enumeration variants).literalNames =
      (Declared.enumeration variants).identifiers := by
    refine List.map_congr_left fun variant member => ?_
    rw [VariantDeclaration.literalName, named.renames variant member, Option.getD_none]
  rw [names]
  exact named.nodup_identifiers

theorem NamedByIdentifiers.nodup_variants
    (named : (Declared.enumeration variants).NamedByIdentifiers)
    (camel : ∀ identifier ∈ (Declared.enumeration variants).identifiers,
      isCamelCase identifier = true) :
    (Declared.enumeration variants).wireNames.Nodup := by
  have names : (Declared.enumeration variants).wireNames =
      (Declared.enumeration variants).identifiers.map snakeCase := by
    rw [wireNames, identifiers, List.map_map]
    refine List.map_congr_left fun variant member => ?_
    rw [VariantDeclaration.wireName, named.renames variant member, Option.getD_none]
    rfl
  rw [names]
  exact List.Nodup.map_on (fun one member other among same =>
    eq_of_snakeCase_eq (camel one member) (camel other among) same) named.nodup_identifiers

end Declared

end Derive

end RecordSearch
