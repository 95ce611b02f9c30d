import BoundSql.Association
import BoundSql.Condition.Describe
import BoundSql.Draft

/-!
The assignments of an UPDATE. A column stands at most once, at the place where it was first
assigned and with the value that it was last assigned. A step checks all its columns before it
assigns anything; assigning null is an assignment like any other.
-/

namespace BoundSql

structure ChangeSet where
  entries : List (String × Value)
deriving DecidableEq, Repr, Inhabited

namespace ChangeSet

def empty : ChangeSet := ⟨[]⟩

def put (changes : ChangeSet) (assignment : String × Value) : ChangeSet :=
  ⟨Association.put assignment.1 assignment.2 changes.entries⟩

def get? (changes : ChangeSet) (column : String) : Option Value := changes.entries.lookup column

/-- The last value assigned to a column is its value, and no other column is affected. -/
theorem get?_put (changes : ChangeSet) (column other : String) (value : Value) :
    (changes.put (column, value)).get? other =
      if other = column then some value else changes.get? other :=
  Association.lookup_put column other value changes.entries

inductive Step where
  | set (column : ColumnRef) (value : Value)
  | clear (column : ColumnRef)
  | setIfPresent (column : ColumnRef) (value : Value)
  | setAll (entries : List (ColumnRef × Value))
deriving Repr, Inhabited

def Step.assignments : Step → Except Error (List (String × Value))
  | .set column value => do return [(← column.column, value)]
  | .clear column => do return [(← column.column, .null)]
  | .setIfPresent column value => do
      let column ← column.column
      return if value.isNull then [] else [(column, value)]
  | .setAll entries => entries.mapM fun entry => do return (← entry.1.column, entry.2)

def apply (changes : ChangeSet) (step : Step) : Except Error ChangeSet := do
  let assignments ← step.assignments
  return assignments.foldl put changes

/-- The assignments after a step that may fail; a failing step changes nothing. -/
def keep (changes : ChangeSet) (step : Step) : ChangeSet :=
  match changes.apply step with
  | .ok next => next
  | .error _ => changes

/-- The assignments that a run of steps reaches, failing steps left out. -/
def reached (steps : List Step) : ChangeSet := steps.foldl keep empty

def ofSteps (steps : List Step) : Except Error ChangeSet := steps.foldlM apply empty

def resolve (changes : ChangeSet) : Resolver
  | [.key "updates", .key column] => changes.get? column
  | _ => none

/-- One assignment; null is written as a literal. -/
def assignment (base : Path) (entry : String × Value) : Draft :=
  if entry.2.isNull then .text (entry.1 ++ " = NULL")
  else .text (entry.1 ++ " = ") ++ .param (base ++ [.key "updates", .key entry.1])

/-- The body of a SET clause, which may not be empty. -/
def draft (base : Path) (changes : ChangeSet) : Draft :=
  match changes.entries with
  | [] => .fail (.nothingToWrite "UpdateSpec")
  | entries => .joined ", " (entries.map (assignment base))

def statement (changes : ChangeSet) (dialect : Dialect) : Except Error Statement :=
  (changes.draft []).statement dialect

def describe (changes : ChangeSet) : String :=
  describeRecord "UpdateSpec"
    [("updates", describeList (changes.entries.map fun entry =>
      "(" ++ Text.visible entry.1 ++ ", " ++ entry.2.describe ++ ")"))]

end ChangeSet

end BoundSql
