import RecordSearch.Text.Blank
import RecordSearch.Text.Case

/-!
# Declared types

The declaration of a type as its author writes it: names, type expressions as
text, and attributes.  What the declaration means for a search is derived from
it elsewhere.
-/

namespace RecordSearch

namespace Derive

/-- The right-hand side of an assignment in an attribute. -/
inductive Assigned
  | string (text : Text)
  | other
deriving DecidableEq, Repr

/-- One setting in the parentheses of an attribute. -/
inductive Setting
  | word (name : Text)
  | assignment (name : Text) (value : Assigned)
  | list (name : Text)
deriving DecidableEq, Repr

/-- What stands behind the path of an attribute. -/
inductive Arguments
  | bare
  | assigned
  | list (settings : List Setting)
deriving DecidableEq, Repr

structure Attribute where
  path : Text
  arguments : Arguments
deriving DecidableEq, Repr

def Attribute.settings (written : Attribute) : Option (List Setting) :=
  match written.arguments with
  | .list settings => some settings
  | .bare | .assigned => none

structure FieldDeclaration where
  name : Text
  type : Text
  attributes : List Attribute := []
deriving DecidableEq, Repr

/-- What a variant carries. -/
inductive Payload
  | unit
  | tuple (types : List Text)
  | fields
deriving DecidableEq, Repr

structure VariantDeclaration where
  name : Text
  payload : Payload := .unit
  attributes : List Attribute := []
deriving DecidableEq, Repr

inductive Declared
  | record (fields : List FieldDeclaration)
  | tuple
  | unit
  | union
  | enumeration (variants : List VariantDeclaration)
deriving DecidableEq, Repr

inductive Parameter
  | lifetime (name : Text)
  | type (name : Text)
  | constant (name : Text)
deriving DecidableEq, Repr

structure Declaration where
  name : Text
  parameters : List Parameter := []
  declared : Declared
deriving DecidableEq, Repr

namespace Parameter

def name : Parameter → Text
  | .lifetime name => name
  | .type name => name
  | .constant name => name

def isLifetime : Parameter → Bool
  | .lifetime _ => true
  | _ => false

def type? : Parameter → Option Text
  | .type name => some name
  | _ => none

/-- A written parameter up to its bounds or its default. -/
def head (written : Text) : Text :=
  Text.trim (written.takeWhile fun character => character != ':' && character != '=')

def read (written : Text) : Parameter :=
  let head := head written
  match "const ".toList.isPrefixOf? head with
  | some name => .constant (Text.trim name)
  | none =>
      match head with
      | '\'' :: _ => .lifetime head
      | _ => .type head

end Parameter

/-- A type expression without its blanks. -/
def compact (type : Text) : Text :=
  type.filter fun character => !Text.isBlank character

/-- Each parameter of a list, and whether a comma follows it there. -/
def withCommas : List Parameter → List (Parameter × Bool)
  | [] => []
  | parameter :: parameters => (parameter, parameters != []) :: withCommas parameters

/-- The names of some parameters, each with the comma that follows it. -/
def listed (parameters : List (Parameter × Bool)) : Text :=
  parameters.flatMap fun (parameter, comma) =>
    if comma then parameter.name ++ [','] else parameter.name

/--
The name of a declared type applied to its own parameters, lifetimes first.
Every parameter keeps the comma that it has in the declaration, and a comma is
added only where it is missing between the lifetimes and the other parameters.
-/
def Declaration.applied (declaration : Declaration) : Text :=
  if declaration.parameters = [] then
    declaration.name
  else
    let (lifetimes, others) :=
      (withCommas declaration.parameters).partition fun (parameter, _) => parameter.isLifetime
    let gap :=
      if others ≠ [] ∧ lifetimes.any fun (_, comma) => !comma then [','] else []
    declaration.name ++ ['<'] ++ listed lifetimes ++ gap ++ listed others ++ ['>']

def Declaration.typeParameters (declaration : Declaration) : List Text :=
  declaration.parameters.filterMap Parameter.type?

end Derive

end RecordSearch
