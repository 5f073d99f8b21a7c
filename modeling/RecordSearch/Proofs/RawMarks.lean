import Mathlib.Data.List.Forall2
import RecordSearch.Proofs.DerivedNames

/-!
# Identifiers with a raw mark

An identifier can be written with a raw mark in front and is the same identifier then.  The name of
a field does not change by this, since the mark is taken off.  The name of a variant does, by the
mark and in snake case by an underscore behind it, unless its attributes give it a name.
-/

namespace RecordSearch

namespace Derive

/-- The identifier, perhaps with a raw mark; there are no two marks. -/
inductive Spells (identifier : Text) : Text → Prop where
  | plain : Spells identifier identifier
  | raw : rawMark.isPrefixOf? identifier = none → Spells identifier (rawMark ++ identifier)

def FieldDeclaration.Respelled (field written : FieldDeclaration) : Prop :=
  ∃ name, Spells field.name name ∧ written = { field with name }

def VariantDeclaration.Respelled (variant written : VariantDeclaration) : Prop :=
  ∃ name, Spells variant.name name ∧ written = { variant with name }

/-- The same fields or variants, of which some are written with a raw mark. -/
inductive Declared.Respelled : Declared → Declared → Prop where
  | record {fields written : List FieldDeclaration} :
      List.Forall₂ FieldDeclaration.Respelled fields written →
      Respelled (.record fields) (.record written)
  | enumeration {variants written : List VariantDeclaration} :
      List.Forall₂ VariantDeclaration.Respelled variants written →
      Respelled (.enumeration variants) (.enumeration written)

/-- The same declaration, in which some fields or variants are written with a raw mark. -/
def Declaration.Respelled (declaration written : Declaration) : Prop :=
  ∃ declared, declaration.declared.Respelled declared ∧ written = { declaration with declared }

/-- The variant is given a name, or its identifier is written alike. -/
def VariantDeclaration.KeepsName (variant written : VariantDeclaration) : Prop :=
  written.name = variant.name ∨ (renamed? variant.attributes).isSome = true

def Declared.variants : Declared → List VariantDeclaration
  | .enumeration variants => variants
  | _ => []

/-- Each variant is given a name, or its identifier is written alike. -/
def Declaration.KeepsNames (declaration written : Declaration) : Prop :=
  List.Forall₂ VariantDeclaration.KeepsName declaration.declared.variants
    written.declared.variants

section Names

variable {identifier written : Text}

theorem withoutRawMark_rawMark_append (identifier : Text) :
    withoutRawMark (rawMark ++ identifier) = identifier := by
  rfl

theorem withoutRawMark_eq (spells : Spells identifier written) :
    withoutRawMark written = withoutRawMark identifier := by
  cases spells with
  | plain => rfl
  | raw unmarked =>
      rw [withoutRawMark_rawMark_append, withoutRawMark, unmarked, Option.getD_none]

theorem length_snakeCaseFrom_le (text : Text) :
    (snakeCaseFrom false text).length ≤ (snakeCaseFrom true text).length := by
  cases text with
  | nil => exact Nat.le_refl _
  | cons character rest =>
      rw [snakeCaseFrom, snakeCaseFrom]
      split
      · simp
      · exact Nat.le_refl _

theorem snakeCase_rawMark_append_ne (identifier : Text) :
    snakeCase (rawMark ++ identifier) ≠ snakeCase identifier := by
  intro same
  rw [snakeCase_rawMark_append] at same
  have lengths := congrArg List.length same
  have bound : (snakeCase identifier).length ≤ (snakeCaseFrom true identifier).length :=
    length_snakeCaseFrom_le identifier
  rw [List.length_append] at lengths
  have marks : rawMark.length = 2 := rfl
  omega

theorem rawMark_append_ne (identifier : Text) : rawMark ++ identifier ≠ identifier := by
  intro same
  have lengths := congrArg List.length same
  rw [List.length_append] at lengths
  have marks : rawMark.length = 2 := rfl
  omega

/-- A name that is made of the identifier, and changes with a raw mark, is kept only where the
identifier is written alike or another name is given. -/
theorem getD_eq_iff (default : Text → Text) (renamed : Option Text)
    (changes : ∀ identifier, default (rawMark ++ identifier) ≠ default identifier)
    (spells : Spells identifier written) :
    renamed.getD (default written) = renamed.getD (default identifier) ↔
      written = identifier ∨ renamed.isSome = true := by
  cases renamed with
  | some name => exact ⟨fun _ => .inr rfl, fun _ => rfl⟩
  | none =>
      cases spells with
      | plain => exact ⟨fun _ => .inl rfl, fun _ => rfl⟩
      | raw =>
          refine ⟨fun same => absurd same (changes identifier), fun kept => ?_⟩
          rcases kept with same | given
          · exact absurd same (rawMark_append_ne identifier)
          · cases given

variable {variant other : VariantDeclaration}

theorem wireName_eq_iff (respelled : variant.Respelled other) :
    other.wireName = variant.wireName ↔ variant.KeepsName other := by
  obtain ⟨name, spells, rfl⟩ := respelled
  exact getD_eq_iff snakeCase _ snakeCase_rawMark_append_ne spells

theorem literalName_eq_iff (respelled : variant.Respelled other) :
    other.literalName = variant.literalName ↔ variant.KeepsName other := by
  obtain ⟨name, spells, rfl⟩ := respelled
  exact getD_eq_iff id _ rawMark_append_ne spells

end Names

section Parts

theorem deriveField_respelled {field written : FieldDeclaration}
    (respelled : field.Respelled written) : deriveField written = deriveField field := by
  obtain ⟨name, spells, rfl⟩ := respelled
  simp only [deriveField, withoutRawMark_eq spells]

theorem deriveFields_respelled {fields written : List FieldDeclaration}
    (respelled : List.Forall₂ FieldDeclaration.Respelled fields written) :
    deriveFields written = deriveFields fields := by
  induction respelled with
  | nil => rfl
  | cons first _ induction =>
      rw [deriveFields, deriveFields, deriveField_respelled first, induction]

variable {variant written : VariantDeclaration}

theorem deriveVariant_respelled (respelled : variant.Respelled written) :
    deriveVariant written = (deriveVariant variant).map fun derived =>
      { derived with identifier := written.name, name := written.wireName } := by
  obtain ⟨name, _, rfl⟩ := respelled
  simp only [deriveVariant, VariantDeclaration.wireName]
  cases read : Settings.ofAttributes variant.attributes with
  | error reason => rfl
  | ok settings =>
      simp only [renamed?_eq read, bind, Except.bind]
      cases renamed : settings.renameOnly "enum variants".toList with
      | error reason => rfl
      | ok rename =>
          rw [← renameOnly_eq_ok renamed]
          cases variant.payload with
          | unit | fields => rfl
          | tuple types => rcases types with _ | ⟨type, _ | ⟨second, types⟩⟩ <;> rfl

theorem deriveName_respelled (respelled : variant.Respelled written) :
    deriveName written = (deriveName variant).map fun _ => (written.name, written.literalName) := by
  obtain ⟨name, _, rfl⟩ := respelled
  simp only [deriveName, VariantDeclaration.literalName]
  split
  case isTrue => rfl
  case isFalse =>
    cases read : Settings.ofAttributes variant.attributes with
    | error reason => rfl
    | ok settings =>
        simp only [renamed?_eq read, bind, Except.bind]
        cases renamed : settings.renameOnly "SearchEnum variants".toList with
        | error reason => rfl
        | ok rename =>
            rw [← renameOnly_eq_ok renamed]
            rfl

theorem exists_deriveVariant (respelled : variant.Respelled written) {derived : DerivedVariant}
    (run : deriveVariant variant = .ok derived) : ∃ other, deriveVariant written = .ok other := by
  rw [deriveVariant_respelled respelled, run]
  exact ⟨_, rfl⟩

theorem exists_deriveName (respelled : variant.Respelled written) {entry : Text × Text}
    (run : deriveName variant = .ok entry) : ∃ other, deriveName written = .ok other := by
  rw [deriveName_respelled respelled, run]
  exact ⟨_, rfl⟩

variable {variants others : List VariantDeclaration}

theorem exists_mapM_of_forall₂ {β : Type} {step : VariantDeclaration → Except DeriveError β}
    {results : List β}
    (steps : ∀ {variant written}, VariantDeclaration.Respelled variant written →
      ∀ {result}, step variant = .ok result → ∃ other, step written = .ok other)
    (respelled : List.Forall₂ VariantDeclaration.Respelled variants others)
    (run : variants.mapM step = .ok results) : ∃ found, others.mapM step = .ok found := by
  induction respelled generalizing results with
  | nil => exact ⟨_, run⟩
  | cons first _ induction =>
      obtain ⟨result, rest, stepped, restRun, _⟩ := Run.mapM_cons_eq_ok_iff.1 run
      obtain ⟨other, steppedToo⟩ := steps first stepped
      obtain ⟨found, restRunToo⟩ := induction restRun
      exact ⟨_, Run.mapM_cons_eq_ok_iff.2 ⟨other, found, steppedToo, restRunToo, rfl⟩⟩

theorem ne_nil_of_respelled (respelled : List.Forall₂ VariantDeclaration.Respelled variants others)
    (nonempty : variants ≠ []) : others ≠ [] := by
  rintro rfl
  exact nonempty (List.forall₂_nil_right_iff.1 respelled)

/-- The names of all variants are kept exactly if the name of each one is. -/
theorem names_eq_iff {name : VariantDeclaration → Text}
    (kept : ∀ {variant written}, VariantDeclaration.Respelled variant written →
      (name written = name variant ↔ variant.KeepsName written))
    (respelled : List.Forall₂ VariantDeclaration.Respelled variants others) :
    others.map name = variants.map name ↔
      List.Forall₂ VariantDeclaration.KeepsName variants others := by
  induction respelled with
  | nil => exact ⟨fun _ => .nil, fun _ => rfl⟩
  | cons first _ induction =>
      rw [List.map_cons, List.map_cons, List.cons.injEq, List.forall₂_cons, kept first, induction]

end Parts

section Whole

variable {declaration written : Declaration}

theorem deriveSearchable_respelled_record {fields : List DerivedField}
    (respelled : declaration.Respelled written)
    (run : deriveSearchable declaration = .ok (.record fields)) :
    deriveSearchable written = .ok (.record fields) := by
  obtain ⟨declared, alike, rfl⟩ := respelled
  obtain ⟨listed, isRecord, derives⟩ := deriveSearchable_eq_record_iff.1 run
  rw [isRecord] at alike
  cases alike with
  | record alike =>
      rw [← deriveFields_respelled alike] at derives
      exact deriveSearchable_eq_record_iff.2 ⟨_, rfl, derives⟩

theorem exists_deriveSearchable_respelled {variants : List DerivedVariant}
    (respelled : declaration.Respelled written)
    (run : deriveSearchable declaration = .ok (.variants variants)) :
    ∃ others, deriveSearchable written = .ok (.variants others) ∧
      (others.map (·.name) = variants.map (·.name) ↔ declaration.KeepsNames written) := by
  obtain ⟨declared, alike, rfl⟩ := respelled
  obtain ⟨listed, isEnumeration, nonempty, derives⟩ := deriveSearchable_eq_variants_iff.1 run
  rw [isEnumeration] at alike
  rw [Declaration.KeepsNames, isEnumeration]
  cases alike with
  | enumeration alike =>
      obtain ⟨others, derivesToo⟩ := exists_mapM_of_forall₂ exists_deriveVariant alike derives
      have someToo := ne_nil_of_respelled alike nonempty
      refine ⟨others, deriveSearchable_eq_variants_iff.2 ⟨_, rfl, someToo, derivesToo⟩, ?_⟩
      rw [(names_of_deriveVariants derives).1, (names_of_deriveVariants derivesToo).1]
      exact names_eq_iff wireName_eq_iff alike

theorem exists_deriveNames_respelled {names : List (Text × Text)}
    (respelled : declaration.Respelled written)
    (run : deriveNames declaration = .ok (.names names)) :
    ∃ others, deriveNames written = .ok (.names others) ∧
      (others.map (·.2) = names.map (·.2) ↔ declaration.KeepsNames written) := by
  obtain ⟨declared, alike, rfl⟩ := respelled
  obtain ⟨listed, isEnumeration, plain, nonempty, derives⟩ := deriveNames_eq_names_iff.1 run
  rw [isEnumeration] at alike
  rw [Declaration.KeepsNames, isEnumeration]
  cases alike with
  | enumeration alike =>
      obtain ⟨others, derivesToo⟩ := exists_mapM_of_forall₂ exists_deriveName alike derives
      have someToo := ne_nil_of_respelled alike nonempty
      refine ⟨others, deriveNames_eq_names_iff.2 ⟨_, rfl, plain, someToo, derivesToo⟩, ?_⟩
      rw [names_of_deriveNames derives, names_of_deriveNames derivesToo]
      exact names_eq_iff literalName_eq_iff alike

/-- A declaration in which some identifiers are written raw is accepted like before.  The
description of a structure stays the same, and the names of an enumeration do exactly if each
variant that is now written raw is given a name. -/
theorem raw_marks_keep_names_iff (respelled : declaration.Respelled written) :
    (∀ fields, deriveSearchable declaration = .ok (.record fields) →
      deriveSearchable written = .ok (.record fields)) ∧
      (∀ variants, deriveSearchable declaration = .ok (.variants variants) →
        ∃ others, deriveSearchable written = .ok (.variants others) ∧
          (others.map (·.name) = variants.map (·.name) ↔ declaration.KeepsNames written)) ∧
      ∀ names, deriveNames declaration = .ok (.names names) →
        ∃ others, deriveNames written = .ok (.names others) ∧
          (others.map (·.2) = names.map (·.2) ↔ declaration.KeepsNames written) :=
  ⟨fun _ run => deriveSearchable_respelled_record respelled run,
    fun _ run => exists_deriveSearchable_respelled respelled run,
    fun _ run => exists_deriveNames_respelled respelled run⟩

end Whole

end Derive

namespace Samples

open Derive

def jobDeclaration : Declaration where
  name := "Job".toList
  declared := .record [
    { name := "type".toList, type := "String".toList },
    { name := "state".toList, type := "String".toList }]

def rawJobDeclaration : Declaration where
  name := "Job".toList
  declared := .record [
    { name := "r#type".toList, type := "String".toList },
    { name := "state".toList, type := "String".toList }]

def jobFields : List DerivedField := [
  { name := "type".toList, label := none, type := "String".toList },
  { name := "state".toList, label := none, type := "String".toList }]

def roleDeclaration (identifier : Text) : Declaration where
  name := "Role".toList
  declared := .enumeration [
    { name := identifier
      attributes := [{
        path := "search".toList
        arguments := .list [.assignment "rename".toList (.string "kind".toList)] }] },
    { name := "Value".toList }]

theorem raw_marks_keep_names_iff_job :
    (jobDeclaration.Respelled rawJobDeclaration ∧
      deriveSearchable jobDeclaration = .ok (.record jobFields) ∧
      deriveSearchable rawJobDeclaration = .ok (.record jobFields)) ∧
      (roleDeclaration "Type".toList).Respelled (roleDeclaration "r#Type".toList) ∧
      ∃ variants others,
        deriveSearchable (roleDeclaration "Type".toList) = .ok (.variants variants) ∧
        deriveSearchable (roleDeclaration "r#Type".toList) = .ok (.variants others) ∧
        others.map (·.name) = variants.map (·.name) := by
  have jobRespelled : jobDeclaration.Respelled rawJobDeclaration :=
    ⟨_, .record (.cons ⟨_, .raw (by rfl), rfl⟩ (.cons ⟨_, .plain, rfl⟩ .nil)), rfl⟩
  have roleRespelled :
      (roleDeclaration "Type".toList).Respelled (roleDeclaration "r#Type".toList) :=
    ⟨_, .enumeration (.cons ⟨_, .raw (by rfl), rfl⟩ (.cons ⟨_, .plain, rfl⟩ .nil)), rfl⟩
  have job : deriveSearchable jobDeclaration = .ok (.record jobFields) := by rfl
  refine ⟨⟨jobRespelled, job, (raw_marks_keep_names_iff jobRespelled).1 _ job⟩, roleRespelled, ?_⟩
  have role : deriveSearchable (roleDeclaration "Type".toList) = .ok (.variants [
      { identifier := "Type".toList, name := "kind".toList, payload := none },
      { identifier := "Value".toList, name := "value".toList, payload := none }]) := by rfl
  obtain ⟨others, derives, kept⟩ := (raw_marks_keep_names_iff roleRespelled).2.1 _ role
  exact ⟨_, others, role, derives, kept.2 (.cons (.inr rfl) (.cons (.inl rfl) .nil))⟩

/-- An enumeration with a variant that could be a keyword. -/
def kindDeclaration : Declaration where
  name := "Kind".toList
  declared := .enumeration [{ name := "Type".toList }, { name := "Value".toList }]

def rawKindDeclaration : Declaration where
  name := "Kind".toList
  declared := .enumeration [{ name := "r#Type".toList }, { name := "Value".toList }]

/-- A raw mark on a variant changes both of its names. -/
theorem raw_mark_renames_variant :
    kindDeclaration.Respelled rawKindDeclaration ∧
      deriveSearchable kindDeclaration = .ok (.variants [
        { identifier := "Type".toList, name := "type".toList, payload := none },
        { identifier := "Value".toList, name := "value".toList, payload := none }]) ∧
      deriveSearchable rawKindDeclaration = .ok (.variants [
        { identifier := "r#Type".toList, name := "r#_type".toList, payload := none },
        { identifier := "Value".toList, name := "value".toList, payload := none }]) ∧
      deriveNames kindDeclaration = .ok (.names [
        ("Type".toList, "Type".toList), ("Value".toList, "Value".toList)]) ∧
      deriveNames rawKindDeclaration = .ok (.names [
        ("r#Type".toList, "r#Type".toList), ("Value".toList, "Value".toList)]) := by
  refine ⟨⟨_, .enumeration (.cons ⟨_, .raw ?_, rfl⟩ (.cons ⟨_, .plain, rfl⟩ .nil)), rfl⟩, ?_⟩
  · rfl
  · exact ⟨rfl, rfl, rfl, rfl⟩

end Samples

end RecordSearch
