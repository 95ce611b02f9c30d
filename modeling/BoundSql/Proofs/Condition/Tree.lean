import Mathlib
import BoundSql.Condition.Sql
import BoundSql.Proofs.Draft

/-!
Induction over condition trees, and what each kind of node writes. A comparison with null writes
the null test that it stands for, if there is one; every other comparison writes one parameter.
The draft of a list is described by position, so that proofs about groups and about clauses
share their induction over the list. A draft fails with the first comparison with null that has
no form, wherever its values lie.
-/

namespace BoundSql

theorem Value.eq_null_of_is_null {value : Value} (null : value.isNull = true) :
    value = .null := by
  cases value with
  | null => rfl
  | _ => cases null

def Comparison.nullTest? : Comparison → Option Bool
  | .eq => some true
  | .ne => some false
  | _ => none

namespace Condition

@[elab_as_elim]
theorem tree_induction {motive : Condition → Prop}
    (compare : ∀ op column value, motive (.compare op column value))
    (nullTest : ∀ column isNull, motive (.nullTest column isNull))
    (member : ∀ column values negated, motive (.member column values negated))
    (group : ∀ logic children, (∀ c ∈ children, motive c) → motive (.group logic children))
    (c : Condition) : motive c := by
  refine @Condition.rec motive (fun children => ∀ c ∈ children, motive c) compare nullTest member
    group (by simp) ?_ c
  intro head tail headHolds tailHolds
  exact List.forall_mem_cons.mpr ⟨headHolds, tailHolds⟩

theorem draft_compare_of_null (base : Path) (op : Comparison) (column : String) {isNull : Bool}
    (test : op.nullTest? = some isNull) :
    draft base (.compare op column .null) = draft base (.nullTest column isNull) := by
  cases op <;> simp only [Comparison.nullTest?, Option.some.injEq, reduceCtorEq] at test <;>
    subst test <;> simp [draft]

theorem draft_compare_of_no_test (base : Path) (op : Comparison) (column : String)
    (noTest : op.nullTest? = none) :
    draft base (.compare op column .null) = .fail (.nullComparison column op.sql) := by
  cases op <;> simp only [Comparison.nullTest?, reduceCtorEq] at noTest <;> rfl

theorem draft_compare_of_value (base : Path) (op : Comparison) (column : String) {value : Value}
    (present : value.isNull = false) :
    draft base (.compare op column value) =
      .text (column ++ " " ++ op.sql ++ " ") ++ .param (base ++ [.key "value"]) := by
  cases value with
  | null => simp [Value.isNull] at present
  | _ => cases op <;> rfl

theorem draft_member_cons (base : Path) (column : String) (value : Value) (values : List Value)
    (negated : Bool) :
    draft base (.member column (value :: values) negated) =
      .text (column ++ if negated then " NOT IN (" else " IN (") ++
        (.positions (base ++ [.key "values"]) (values.length + 1) ++ .text ")") := by
  simp [draft]

theorem draft_group_cons (base : Path) (logic : Logic) (child : Condition)
    (children : List Condition) :
    draft base (.group logic (child :: children)) =
      .text "(" ++
        (.joined (" " ++ logic.sql ++ " ")
          (drafts (base ++ [.key "children"]) 0 (child :: children)) ++ .text ")") := by
  simp [draft]

theorem clause_cons (base : Path) (c : Condition) (cs : List Condition) :
    clause base (c :: cs) = .joined " AND " (drafts (base ++ [.key "conditions"]) 0 (c :: cs)) := by
  simp [clause]

mutual

/-- The failures that a condition holds, left to right: comparisons with null without a form. -/
def failures : Condition → List Error
  | .compare op column value =>
      if value.isNull && op.nullTest?.isNone then [.nullComparison column op.sql] else []
  | .nullTest _ _ => []
  | .member _ _ _ => []
  | .group _ children => failuresOf children

def failuresOf : List Condition → List Error
  | [] => []
  | c :: cs => c.failures ++ failuresOf cs

end

theorem failures_of_eq_flatMap (cs : List Condition) : failuresOf cs = cs.flatMap failures := by
  induction cs with
  | nil => rfl
  | cons c cs ih => rw [failuresOf, ih, List.flatMap_cons]

theorem failure_drafts (base : Path) (i : Nat) (cs : List Condition)
    (failures : ∀ c ∈ cs, ∀ base, (c.draft base).failure = c.failures.head?) :
    (drafts base i cs).findSome? Draft.failure = (failuresOf cs).head? := by
  induction cs generalizing i with
  | nil => rfl
  | cons c cs ih =>
      have head := failures c List.mem_cons_self (base ++ [.index i])
      have tail := ih (i + 1) (fun other member => failures other (List.mem_cons_of_mem _ member))
      rw [drafts, List.findSome?_cons, head, tail, failuresOf, List.head?_append]
      cases c.failures.head? <;> rfl

theorem failure_draft (base : Path) (c : Condition) :
    (c.draft base).failure = c.failures.head? := by
  induction c using tree_induction generalizing base with
  | compare op column value =>
      cases null : value.isNull with
      | false =>
          rw [draft_compare_of_value base op column null]
          simp [failures, null, Draft.failure_append, Draft.text, Draft.param]
      | true =>
          have isNull := Value.eq_null_of_is_null null
          subst isNull
          cases test : op.nullTest? with
          | some isNull =>
              rw [draft_compare_of_null base op column test]
              simp [failures, test, draft, Draft.text]
          | none =>
              rw [draft_compare_of_no_test base op column test]
              simp [failures, test, Value.isNull, Draft.fail]
  | nullTest column isNull => rfl
  | member column values negated =>
      cases values with
      | nil => simp [draft, failures, Draft.text]
      | cons value values =>
          rw [draft_member_cons, Draft.failure_append, Draft.failure_append,
            Draft.complete_positions]
          rfl
  | group logic children ih =>
      cases children with
      | nil => simp [draft, failures, failuresOf, Draft.text]
      | cons child children =>
          rw [draft_group_cons, Draft.failure_append, Draft.failure_append, Draft.failure_joined,
            failure_drafts _ _ _ ih, failures]
          simp [Draft.text]

theorem complete_drafts (base : Path) (i : Nat) {cs : List Condition}
    (clean : failuresOf cs = []) : ∀ draft ∈ drafts base i cs, draft.failure = none := by
  rw [← List.findSome?_eq_none_iff, failure_drafts base i cs (fun c _ base => failure_draft base c),
    clean]
  rfl

theorem clean_of_complete {base : Path} {c : Condition} (complete : (c.draft base).failure = none) :
    c.failures = [] := by
  rwa [failure_draft, List.head?_eq_none_iff] at complete

theorem failures_of_eq_nil_iff (cs : List Condition) :
    failuresOf cs = [] ↔ ∀ c ∈ cs, c.failures = [] := by
  rw [failures_of_eq_flatMap, List.flatMap_eq_nil_iff]

theorem failure_clause (base : Path) (cs : List Condition) :
    (clause base cs).failure = (failuresOf cs).head? := by
  cases cs with
  | nil => rfl
  | cons c cs =>
      rw [clause_cons, Draft.failure_joined,
        failure_drafts _ _ _ (fun c _ base => failure_draft base c)]

end Condition

end BoundSql
