import BoundSql.Identifier
import BoundSql.Value

/-!
Conditions on the rows of a table, as trees. A leaf compares a column with a value, tests it for
null or asks whether it is in a list; a group combines its children by one logic word. Groups
made by `all` and `any` are never empty, but a tree may hold an empty group all the same.
-/

namespace BoundSql

inductive Comparison where
  | eq
  | ne
  | gt
  | ge
  | lt
  | le
  | like
deriving DecidableEq, Repr, Inhabited

namespace Comparison

def sql : Comparison → String
  | .eq => "="
  | .ne => "<>"
  | .gt => ">"
  | .ge => ">="
  | .lt => "<"
  | .le => "<="
  | .like => "LIKE"

def name : Comparison → String
  | .eq => "Eq"
  | .ne => "Ne"
  | .gt => "Gt"
  | .ge => "Ge"
  | .lt => "Lt"
  | .le => "Le"
  | .like => "Like"

end Comparison

inductive Logic where
  | and
  | or
deriving DecidableEq, Repr, Inhabited

namespace Logic

def sql : Logic → String
  | .and => "AND"
  | .or => "OR"

def name : Logic → String
  | .and => "And"
  | .or => "Or"

end Logic

inductive Condition where
  | compare (op : Comparison) (column : String) (value : Value)
  | nullTest (column : String) (isNull : Bool)
  | member (column : String) (values : List Value) (negated : Bool)
  | group (logic : Logic) (children : List Condition)
deriving Repr, Inhabited

namespace Condition

def contains (column pattern : String) : Condition :=
  .compare .like column (.text ("%" ++ pattern ++ "%"))

/-- A group of the children that are present, if there is one. -/
def group? (logic : Logic) (children : List (Option Condition)) : Option Condition :=
  match children.filterMap id with
  | [] => none
  | present => some (.group logic present)

mutual

/-- The columns of a condition, left to right, also those of lists and groups that reach no
SQL text. -/
def columns : Condition → List String
  | .compare _ column _ => [column]
  | .nullTest column _ => [column]
  | .member column _ _ => [column]
  | .group _ children => columnsOf children

def columnsOf : List Condition → List String
  | [] => []
  | c :: cs => c.columns ++ columnsOf cs

end

theorem columns_of_eq_flatMap (cs : List Condition) : columnsOf cs = cs.flatMap columns := by
  induction cs with
  | nil => rfl
  | cons c cs ih => rw [columnsOf, ih, List.flatMap_cons]

def checkColumns (c : Condition) : Except Error Unit := BoundSql.checkColumns c.columns

end Condition

end BoundSql
