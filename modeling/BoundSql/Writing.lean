import BoundSql.ChangeSet
import BoundSql.Criteria.Basic

/-!
Writing SQL piece by piece. A run of writes goes on after a write that failed, and keeps what
that write had written before it failed.
-/

namespace BoundSql

inductive Write where
  | text (s : String)
  | param (path : Path)
  | condition (c : Condition) (base : Path)
  | clause (conditions : List Condition) (base : Path)
  | assignments (changes : ChangeSet) (base : Path)
  | groupBy (columns : List String)
  | orderBy (orders : List OrderItem)
deriving Repr, Inhabited

namespace Write

def draft : Write → Draft
  | .text s => .text s
  | .param path => .param path
  | .condition c base => c.draft base
  | .clause conditions base => Condition.clause base conditions
  | .assignments changes base => changes.draft base
  | .groupBy columns => Criteria.groupClause columns
  | .orderBy orders => Criteria.orderClause orders

def pieces (writes : List Write) : List Piece := writes.flatMap fun write => write.draft.pieces

def transcript (writes : List Write) (dialect : Dialect) : Statement :=
  ⟨dialect.sql (pieces writes), paramPaths (pieces writes)⟩

end Write

end BoundSql
