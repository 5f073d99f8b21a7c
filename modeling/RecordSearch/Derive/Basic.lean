import RecordSearch.Derive.Settings

/-!
# Descriptions derived from declarations

A structure is described by its fields and an enumeration by its variants,
each under the name that queries and results use.  An enumeration whose
variants carry nothing can instead be described as a table of names.
-/

namespace RecordSearch

namespace Derive

structure DerivedField where
  name : Text
  label : Option Text
  type : Text
deriving DecidableEq, Repr

/-- A variant of a described enumeration: its identifier, its name and its payload. -/
structure DerivedVariant where
  identifier : Text
  name : Text
  payload : Option Text
deriving DecidableEq, Repr

inductive Description
  | record (fields : List DerivedField)
  | variants (variants : List DerivedVariant)
  /-- Identifiers with their names. -/
  | names (names : List (Text × Text))
deriving DecidableEq, Repr

namespace Description

def interfaces : Description → List Text
  | .record _ => ["Record".toList, "Inspect".toList]
  | .variants _ => ["Inspect".toList]
  | .names _ => ["SearchEnum".toList, "Inspect".toList]

end Description

/-- The mark of an identifier that would otherwise be a keyword. -/
def rawMark : Text := "r#".toList

def withoutRawMark (identifier : Text) : Text :=
  (rawMark.isPrefixOf? identifier).getD identifier

/--
Lowercases the words of an identifier and joins them with underscores.  A
capital begins a word if a letter that is not a capital stands before it.
-/
def snakeCaseFrom (afterLower : Bool) : Text → Text
  | [] => []
  | character :: rest =>
      if Text.isUppercase character then
        (if afterLower then ['_'] else []) ++
          Text.lowerChar character ++ snakeCaseFrom false rest
      else if character = '-' then
        '_' :: snakeCaseFrom false rest
      else
        character :: snakeCaseFrom (character != '_') rest

/-- An identifier in lowercase, its words joined with underscores. -/
def snakeCase (identifier : Text) : Text :=
  snakeCaseFrom false identifier

/-- The description of a field, unless the field is left out. -/
def deriveField (field : FieldDeclaration) : Except DeriveError (Option DerivedField) := do
  let settings ← Settings.ofAttributes field.attributes
  if settings.skip then
    return none
  else
    return some {
      name := settings.rename.getD (withoutRawMark field.name)
      label := settings.label
      type := compact field.type }

def deriveFields : List FieldDeclaration → Except DeriveError (List DerivedField)
  | [] => .ok []
  | field :: fields => do
      let derived ← deriveField field
      let rest ← deriveFields fields
      return derived.toList ++ rest

/-- The description of a variant with at most one unnamed field. -/
def deriveVariant (variant : VariantDeclaration) : Except DeriveError DerivedVariant := do
  let settings ← Settings.ofAttributes variant.attributes
  let rename ← settings.renameOnly "enum variants".toList
  let name := rename.getD (snakeCase variant.name)
  match variant.payload with
  | .unit => return { identifier := variant.name, name, payload := none }
  | .tuple [type] => return { identifier := variant.name, name, payload := some (compact type) }
  | _ => throw .payloadShape

def deriveName (variant : VariantDeclaration) : Except DeriveError (Text × Text) := do
  if variant.payload ≠ .unit then
    throw .carriesData
  let settings ← Settings.ofAttributes variant.attributes
  let rename ← settings.renameOnly "SearchEnum variants".toList
  return (variant.name, rename.getD variant.name)

/-- Derives the description of a structure or of an enumeration with payloads. -/
def deriveSearchable (declaration : Declaration) : Except DeriveError Description :=
  match declaration.declared with
  | .record fields => (deriveFields fields).map .record
  | .tuple => .error .unnamedFields
  | .unit => .error .unnamedFields
  | .union => .error .union
  | .enumeration [] => .error .noVariants
  | .enumeration variants => (variants.mapM deriveVariant).map .variants

/-- Derives the table of names of an enumeration whose variants carry nothing. -/
def deriveNames (declaration : Declaration) : Except DeriveError Description :=
  match declaration.declared with
  | .enumeration variants =>
      if declaration.parameters ≠ [] then
        .error .genericEnumeration
      else
        match variants.mapM deriveName with
        | .error reason => .error reason
        | .ok [] => .error .noNames
        | .ok names => .ok (.names names)
  | _ => .error .notEnumeration

end Derive

end RecordSearch
