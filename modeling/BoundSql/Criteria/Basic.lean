import BoundSql.Condition.Sql
import BoundSql.Text.Blank

/-!
Search criteria, gathered step by step: conditions that must all hold, an order and a grouping.
A step first checks its columns, even if it then adds nothing; it fails on a bad column and
otherwise only appends. Steps that are told to ignore nulls, blank patterns or empty lists add
nothing for them.
-/

namespace BoundSql

structure OrderItem where
  column : String
  ascending : Bool
deriving DecidableEq, Repr, Inhabited

structure Criteria where
  conditions : List Condition
  orders : List OrderItem
  groups : List String
deriving Repr, Inhabited

namespace Criteria

def empty : Criteria := ⟨[], [], []⟩

def ofConditions (conditions : List Condition) : Criteria := ⟨conditions, [], []⟩

instance : Append Criteria where
  append a b := ⟨a.conditions ++ b.conditions, a.orders ++ b.orders, a.groups ++ b.groups⟩

inductive Step where
  | compare (op : Comparison) (column : ColumnRef) (value : Value) (ignoreNull : Bool)
  | like (column : ColumnRef) (pattern : Option String) (ignoreBlank : Bool)
  | nullTest (column : ColumnRef) (isNull : Bool)
  | member (column : ColumnRef) (values : List Value) (negated ignoreEmpty : Bool)
  | group (logic : Logic) (children : List (Option Condition))
  | orderBy (column : ColumnRef) (ascending : Bool)
  | groupBy (columns : List ColumnRef)
deriving Repr, Inhabited

/-- The condition that a pattern asks for; without a pattern it compares with null. -/
def patternCondition (column : String) : Option String → Condition
  | some pattern => .contains column pattern
  | none => .compare .like column .null

def Step.contribution : Step → Except Error Criteria
  | .compare op column value ignoreNull => do
      let column ← column.column
      return if ignoreNull && value.isNull then empty
        else ofConditions [.compare op column value]
  | .like column pattern ignoreBlank => do
      let column ← column.column
      return if ignoreBlank && pattern.all Text.blank then empty
        else ofConditions [patternCondition column pattern]
  | .nullTest column isNull => do
      let column ← column.column
      return ofConditions [.nullTest column isNull]
  | .member column values negated ignoreEmpty => do
      let column ← column.column
      return if ignoreEmpty && values.isEmpty then empty
        else ofConditions [.member column values negated]
  | .group logic children =>
      match Condition.group? logic children with
      | none => .ok empty
      | some tree => do
          tree.checkColumns
          return ofConditions [tree]
  | .orderBy column ascending => do
      let column ← column.column
      return ⟨[], [⟨column, ascending⟩], []⟩
  | .groupBy columns => do
      let columns ← columns.mapM ColumnRef.column
      return ⟨[], [], columns⟩

def apply (criteria : Criteria) (step : Step) : Except Error Criteria := do
  let added ← step.contribution
  return criteria ++ added

/-- The criteria after a step that may fail; a failing step changes nothing. -/
def keep (criteria : Criteria) (step : Step) : Criteria :=
  match criteria.apply step with
  | .ok next => next
  | .error _ => criteria

def reached (steps : List Step) : Criteria := steps.foldl keep empty

def ofSteps (steps : List Step) : Except Error Criteria := steps.foldlM apply empty

/-- The value at a path, which leads through the conditions. -/
def resolve (criteria : Criteria) : Resolver
  | .key "conditions" :: .index i :: rest => Condition.resolveAt criteria.conditions i rest
  | _ => none

def draft (base : Path) (criteria : Criteria) : Draft := Condition.clause base criteria.conditions

/-- The WHERE body alone. Its columns were checked by the steps and are not checked again. -/
def statement (criteria : Criteria) (dialect : Dialect) : Except Error Statement :=
  (criteria.draft []).statement dialect

def groupClause : List String → Draft
  | [] => .empty
  | groups => .text (" GROUP BY " ++ ", ".intercalate groups)

def OrderItem.sql (item : OrderItem) : String :=
  item.column ++ if item.ascending then " ASC" else " DESC"

def orderClause : List OrderItem → Draft
  | [] => .empty
  | orders => .text (" ORDER BY " ++ ", ".intercalate (orders.map OrderItem.sql))

end Criteria

end BoundSql
