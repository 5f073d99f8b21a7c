import RecordSearch.Node
import RecordSearch.Schema.Basic
import RecordSearch.Text.Quote

/-!
# Descriptions for developers

The text by which a node or a schema is shown when a search is examined.  It
names the parts of a value, quotes its texts, and shows every floating-point
value with a point or a power of ten.
-/

namespace RecordSearch

namespace Decimal

/-- Digits with a point behind the first and a power of ten. -/
def scientific (decimal : Decimal) : Text :=
  let digits := Nat.toDigits 10 decimal.coefficient
  let trimmed := (digits.reverse.dropWhile (· == '0')).reverse
  let power := decimal.exponent + digits.length - 1
  let mantissa :=
    match trimmed with
    | [] => ['0']
    | [digit] => [digit]
    | digit :: rest => digit :: '.' :: rest
  mantissa ++ ['e'] ++ Number.integerText power

/-- Positional digits with at least one behind the point. -/
def pointed (decimal : Decimal) : Text :=
  let text := decimal.render
  if '.' ∈ text then text else text ++ ['.', '0']

/--
Positional digits for values that are at least `10 ^ (-4)` and less than `10 ^ 16`,
and a power of ten for all others.
-/
def described (decimal : Decimal) : Text :=
  let lead := decimal.exponent + decimal.width
  if 16 < lead ∨ lead < -3 then decimal.scientific else decimal.pointed

end Decimal

namespace Binary

variable {format : Format}

/-- A floating-point value that cannot be taken for an integer. -/
def describe : Binary format → Text
  | .nan => "NaN".toList
  | .infinity negative => signText negative ++ "inf".toList
  | .finite negative magnitude =>
      signText negative ++
        if magnitude.significand = 0 then "0.0".toList else magnitude.shortest.described

end Binary

namespace Number

def describe : Number → Text
  | .signed integer => "I64(".toList ++ integerText integer.toInt ++ [')']
  | .unsigned integer => "U64(".toList ++ integerText integer.toNat ++ [')']
  | .float value => "F64(".toList ++ value.describe ++ [')']

end Number

namespace Value

def describe : Value → Text
  | .string text => "String(".toList ++ Text.quote text ++ [')']
  | .number amount => "Number(".toList ++ amount.describe ++ [')']
  | .bool true => "Bool(true)".toList
  | .bool false => "Bool(false)".toList
  | .choice name rank =>
      "Enum \x7B name: ".toList ++ Text.quote name ++ ", discriminant: ".toList ++
        Number.integerText rank ++ " \x7D".toList

end Value

namespace Node

mutual

/-- A node with its kind; the fields of a record are not shown. -/
def describe : Node → Text
  | .absent => "Absent".toList
  | .leaf value => "Leaf(".toList ++ value.describe ++ [')']
  | .record _ => "Record(..)".toList
  | .pointer target => "Pointer(".toList ++ describeOption target ++ [')']
  | .variant name payload =>
      "Variant \x7B name: ".toList ++ Text.quote name ++ ", payload: ".toList ++
        describeOption payload ++ " \x7D".toList
  | .list items => "List([".toList ++ Text.join ", ".toList (describeList items) ++ "])".toList
  | .map entries =>
      "Map([".toList ++ Text.join ", ".toList (describeEntries entries) ++ "])".toList

def describeOption : Option Node → Text
  | none => "None".toList
  | some node => "Some(".toList ++ node.describe ++ [')']

def describeList : List Node → List Text
  | [] => []
  | node :: nodes => node.describe :: describeList nodes

def describeEntries : List (Node × Node) → List Text
  | [] => []
  | (key, value) :: entries =>
      (['('] ++ key.describe ++ ", ".toList ++ value.describe ++ [')']) ::
        describeEntries entries

end

@[simp]
theorem describeList_eq_map (nodes : List Node) : describeList nodes = nodes.map describe := by
  induction nodes with
  | nil => rfl
  | cons node nodes induction => simp [describeList, induction]

end Node

namespace Schema

/-- What compiles queries for a type: its name and the number of its labels. -/
def describe (schema : Schema) : Text :=
  "PredicateFactory \x7B type_name: ".toList ++ Text.quote schema.typeName ++
    ", labels: ".toList ++ Number.integerText schema.size ++ " \x7D".toList

end Schema

end RecordSearch
