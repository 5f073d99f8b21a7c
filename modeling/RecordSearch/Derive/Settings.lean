import RecordSearch.Derive.Declaration

/-!
# The settings of fields and variants

The attribute `search` of a field or a variant gives it a label or another
name, or leaves it out.  Only the first such attribute is read.
-/

namespace RecordSearch

namespace Derive

/-- Why no description can be derived from a declaration. -/
inductive DeriveError
  | unnamedFields
  | union
  | noVariants
  | payloadShape
  | notEnumeration
  | genericEnumeration
  | noNames
  | carriesData
  | bareAttribute
  | assignedAttribute
  | notString
  | blankLabel
  | unknownName
  | unknownSetting
  | skippedLabel
  | renameOnly (place : Text)
deriving DecidableEq, Repr

namespace DeriveError

def message : DeriveError → Text
  | .unnamedFields => "Searchable can only be derived for structs with named fields".toList
  | .union => "Searchable can only be derived for structs and enums".toList
  | .noVariants => "Searchable cannot be derived for enums without variants".toList
  | .payloadShape =>
      "Searchable enum variants must be unit or hold exactly one unnamed field".toList
  | .notEnumeration => "SearchEnum can only be derived for enums".toList
  | .genericEnumeration => "SearchEnum cannot be derived for generic enums".toList
  | .noNames => "SearchEnum cannot be derived for enums without variants".toList
  | .carriesData =>
      "SearchEnum variants cannot carry data; derive Searchable instead".toList
  | .bareAttribute =>
      "expected attribute arguments in parentheses: #[search(...)]".toList
  | .assignedAttribute => "expected parentheses: #[search(...)]".toList
  | .notString => "expected a string literal".toList
  | .blankLabel => "label must not be empty".toList
  | .unknownName => "unknown attribute. Expected: label or rename".toList
  | .unknownSetting =>
      ("unknown search attribute. Expected: " ++
        "label = \"...\", rename = \"...\", or skip").toList
  | .skippedLabel => "a skipped field cannot have a label".toList
  | .renameOnly place =>
      "only \x60rename = \"...\"\x60 is supported on ".toList ++ place

end DeriveError

/-- What the settings of a field or a variant come to. -/
structure Settings where
  label : Option Text := none
  rename : Option Text := none
  skip : Bool := false
deriving DecidableEq, Repr

namespace Settings

/-- Adds one setting; a later label or name replaces an earlier one. -/
def add (settings : Settings) : Setting → Except DeriveError Settings
  | .word name =>
      if name = "skip".toList then
        .ok { settings with skip := true }
      else
        .error .unknownSetting
  | .assignment _ .other => .error .notString
  | .assignment name (.string text) =>
      if name = "label".toList then
        if Text.trim text = [] then
          .error .blankLabel
        else
          .ok { settings with label := some text }
      else if name = "rename".toList then
        .ok { settings with rename := some text }
      else
        .error .unknownName
  | .list _ => .error .unknownSetting

def addAll (settings : Settings) : List Setting → Except DeriveError Settings
  | [] => .ok settings
  | setting :: rest =>
      match settings.add setting with
      | .ok settings => settings.addAll rest
      | .error reason => .error reason

/-- What is left out cannot have a label. -/
def check (settings : Settings) : Except DeriveError Settings :=
  if settings.skip ∧ settings.label.isSome then .error .skippedLabel else .ok settings

def ofAttribute (written : Attribute) : Except DeriveError Settings :=
  match written.arguments with
  | .bare => .error .bareAttribute
  | .assigned => .error .assignedAttribute
  | .list settings =>
      match ({} : Settings).addAll settings with
      | .ok settings => settings.check
      | .error reason => .error reason

def ofAttributes (attributes : List Attribute) : Except DeriveError Settings :=
  match attributes.find? fun written => written.path == "search".toList with
  | some written => ofAttribute written
  | none => .ok {}

/-- A variant can be renamed and nothing else; gives the new name. -/
def renameOnly (settings : Settings) (place : Text) : Except DeriveError (Option Text) :=
  if settings.label.isSome ∨ settings.skip then
    .error (.renameOnly place)
  else
    .ok settings.rename

end Settings

end Derive

end RecordSearch
