import BoundSql.Condition.Basic
import BoundSql.Text.Visible

/-!
Two texts of a condition that are not SQL: its JSON form, and a description for diagnostics that
shows the kind of every value.
-/

namespace BoundSql

def Value.describe : Value → String
  | .null => "Null"
  | .bool b => "Bool(" ++ (if b then "true" else "false") ++ ")"
  | .int n => "Int(" ++ toString n.toInt ++ ")"
  | .bigInt n => "BigInt(" ++ toString n.toInt ++ ")"
  | .double x => "Double(" ++ Text.visibleDouble x ++ ")"
  | .text s => "Text(" ++ Text.visible s ++ ")"
  | .bytes bs => "Bytes([" ++ ", ".intercalate (bs.map fun b => toString b.toNat) ++ "])"

def describeList (items : List String) : String := "[" ++ ", ".intercalate items ++ "]"

def describeRecord (name : String) (fields : List (String × String)) : String :=
  name ++ " \x7b " ++ ", ".intercalate (fields.map fun field => field.1 ++ ": " ++ field.2) ++
    " \x7d"

def describeBool (b : Bool) : String := if b then "true" else "false"

namespace Condition

mutual

def describe : Condition → String
  | .compare op column value =>
      describeRecord "Simple"
        [("operator", op.name), ("column", Text.visible column), ("value", value.describe)]
  | .nullTest column isNull =>
      describeRecord "Null" [("column", Text.visible column), ("is_null", describeBool isNull)]
  | .member column values negated =>
      describeRecord "In"
        [("column", Text.visible column), ("values", describeList (values.map Value.describe)),
          ("negated", describeBool negated)]
  | .group logic children =>
      describeRecord "Group"
        [("logic", logic.name), ("children", describeList (describeAll children))]

def describeAll : List Condition → List String
  | [] => []
  | c :: cs => c.describe :: describeAll cs

end

mutual

def toJson : Condition → Json
  | .compare op column value =>
      .object [("kind", .text "Simple"), ("operator", .text op.name), ("column", .text column),
        ("value", value.toJson)]
  | .nullTest column isNull =>
      .object [("kind", .text "Null"), ("column", .text column), ("is_null", .bool isNull)]
  | .member column values negated =>
      .object [("kind", .text "In"), ("column", .text column),
        ("values", .array (values.map Value.toJson)), ("negated", .bool negated)]
  | .group logic children =>
      .object [("kind", .text "Group"), ("logic", .text logic.name),
        ("children", .array (toJsonAll children))]

def toJsonAll : List Condition → List Json
  | [] => []
  | c :: cs => c.toJson :: toJsonAll cs

end

end Condition

end BoundSql
