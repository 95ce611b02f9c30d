import BoundSql.Condition.Basic
import BoundSql.Draft

/-!
Conditions in SQL, and the way from a placeholder back to its value. No value is ever written
into the text: each one becomes a parameter whose path leads to it through the tree, and
`resolve` walks such a path.
-/

namespace BoundSql

namespace Condition

mutual

/-- A condition in SQL; its parameters lie under the path `base`. Comparing with null is a null
test for equality and inequality, and an error for every other comparison. -/
def draft (base : Path) : Condition → Draft
  | .compare .eq column .null => .text (column ++ " IS NULL")
  | .compare .ne column .null => .text (column ++ " IS NOT NULL")
  | .compare op column .null => .fail (.nullComparison column op.sql)
  | .compare op column _ =>
      .text (column ++ " " ++ op.sql ++ " ") ++ .param (base ++ [.key "value"])
  | .nullTest column isNull => .text (column ++ if isNull then " IS NULL" else " IS NOT NULL")
  | .member _ [] negated => .text (if negated then "1=1" else "1=0")
  | .member column values negated =>
      .text (column ++ if negated then " NOT IN (" else " IN (") ++
        (.positions (base ++ [.key "values"]) values.length ++ .text ")")
  | .group _ [] => .text "1=1"
  | .group logic children =>
      .text "(" ++
        (.joined (" " ++ logic.sql ++ " ") (drafts (base ++ [.key "children"]) 0 children) ++
          .text ")")

def drafts (base : Path) (i : Nat) : List Condition → List Draft
  | [] => []
  | c :: cs => c.draft (base ++ [.index i]) :: drafts base (i + 1) cs

end

mutual

/-- The value at a path. A null that is compared with lies at its path as well. -/
def resolve : Condition → Resolver
  | .compare _ _ value, [.key "value"] => some value
  | .member _ values _, [.key "values", .index i] => values[i]?
  | .group _ children, .key "children" :: .index i :: rest => resolveAt children i rest
  | _, _ => none

def resolveAt : List Condition → Nat → Path → Option Value
  | [], _, _ => none
  | c :: _, 0, path => c.resolve path
  | _ :: cs, i + 1, path => resolveAt cs i path

end

theorem resolve_at_eq_bind (cs : List Condition) (i : Nat) (path : Path) :
    resolveAt cs i path = cs[i]?.bind fun c => c.resolve path := by
  induction cs generalizing i with
  | nil => rfl
  | cons c cs ih =>
    cases i with
    | zero => rfl
    | succ i => rw [resolveAt, ih, List.getElem?_cons_succ]

theorem getElem?_drafts (base : Path) (i j : Nat) (cs : List Condition) :
    (drafts base i cs)[j]? = cs[j]?.map fun c => c.draft (base ++ [.index (i + j)]) := by
  induction cs generalizing i j with
  | nil => rfl
  | cons c cs ih =>
    cases j with
    | zero => rfl
    | succ j =>
      rw [drafts, List.getElem?_cons_succ, List.getElem?_cons_succ, ih, Nat.add_assoc,
        Nat.add_comm 1]

/-- The conditions of a clause: all of them have to hold, and none at all is always true. -/
def clause (base : Path) : List Condition → Draft
  | [] => .text "1=1"
  | cs => .joined " AND " (drafts (base ++ [.key "conditions"]) 0 cs)

def statement (c : Condition) (dialect : Dialect) : Except Error Statement := do
  c.checkColumns
  (c.draft []).statement dialect

end Condition

end BoundSql
