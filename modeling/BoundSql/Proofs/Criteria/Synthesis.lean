import Mathlib
import BoundSql.Proofs.Criteria.Runs

/-!
When a condition has no SQL text. A condition on its own is refused for its first column that is no
identifier, and only if there is none for its first comparison with null that has no form. The
columns of criteria were checked before, so that criteria are refused for such a comparison alone,
and those that leave out whatever is missing hold none.
-/

namespace BoundSql

theorem Draft.statement_eq_error_iff (draft : Draft) (dialect : Dialect) (e : Error) :
    draft.statement dialect = .error e ↔ draft.failure = some e := by
  unfold Draft.statement
  cases draft.failure <;> simp

theorem Draft.has_statement_iff (draft : Draft) (dialect : Dialect) :
    (∃ statement, draft.statement dialect = .ok statement) ↔ draft.failure = none := by
  simp [Draft.statement_eq_ok_iff]

namespace Condition

theorem statement_of_checked {c : Condition} (passed : c.checkColumns = .ok ())
    (dialect : Dialect) : c.statement dialect = (c.draft []).statement dialect := by
  rw [statement, passed]
  rfl

theorem statement_of_unchecked {c : Condition} {e : Error} (failed : c.checkColumns = .error e)
    (dialect : Dialect) : c.statement dialect = .error e := by
  rw [statement, failed]
  rfl

theorem statement_eq_error_iff (c : Condition) (dialect : Dialect) (e : Error) :
    c.statement dialect = .error e ↔ c.BlamesColumn e ∨ ¬c.Has misnamed ∧ c.BlamesNull e := by
  cases check : c.checkColumns with
  | error first =>
      have misnames : ¬¬c.Has misnamed := by
        rw [← check_columns_eq_ok_iff, check]
        nofun
      rw [statement_of_unchecked check, ← check_columns_eq_error_iff, check]
      simp [misnames]
  | ok _ =>
      have identifiers := (check_columns_eq_ok_iff c).mp check
      rw [statement_of_checked check, Draft.statement_eq_error_iff, failure_draft,
        head_failures_eq_some_iff, ← check_columns_eq_error_iff, check]
      simp [identifiers]

theorem has_statement_iff (c : Condition) (dialect : Dialect) :
    (∃ statement, c.statement dialect = .ok statement) ↔
      ¬c.Has misnamed ∧ ¬c.Has unanswerable := by
  cases check : c.checkColumns with
  | error first =>
      have misnames : ¬¬c.Has misnamed := by
        rw [← check_columns_eq_ok_iff, check]
        nofun
      rw [statement_of_unchecked check]
      simp [misnames]
  | ok _ =>
      have identifiers := (check_columns_eq_ok_iff c).mp check
      rw [statement_of_checked check, Draft.has_statement_iff, failure_draft,
        List.head?_eq_none_iff, failures_eq_nil_iff]
      simp [identifiers]

end Condition

namespace Criteria

/-- The conditions of criteria as the group that they form: all of them have to hold. -/
def tree (criteria : Criteria) : Condition := .group .and criteria.conditions

theorem failure_draft (base : Path) (criteria : Criteria) :
    (criteria.draft base).failure = criteria.tree.failures.head? :=
  Condition.failure_clause base criteria.conditions

theorem statement_eq_error_iff (criteria : Criteria) (dialect : Dialect) (e : Error) :
    criteria.statement dialect = .error e ↔ criteria.tree.BlamesNull e := by
  rw [statement, Draft.statement_eq_error_iff, failure_draft,
    Condition.head_failures_eq_some_iff]

theorem has_statement_iff (criteria : Criteria) (dialect : Dialect) :
    (∃ statement, criteria.statement dialect = .ok statement) ↔
      ¬criteria.tree.Has Condition.unanswerable := by
  rw [statement, Draft.has_statement_iff, failure_draft, List.head?_eq_none_iff,
    Condition.failures_eq_nil_iff]

/-- The step leaves out what is missing, which is a null value, a blank pattern or an empty list,
and asks whether a column is null by a null test only. -/
def Step.skipsMissing : Step → Bool
  | .compare _ _ _ ignoreNull => ignoreNull
  | .like _ _ ignoreBlank => ignoreBlank
  | .nullTest _ _ => true
  | .member _ _ _ ignoreEmpty => ignoreEmpty
  | .group _ _ => false
  | .orderBy _ _ | .groupBy _ => true

theorem Step.answerable_of_skips {step : Step} (skips : step.skipsMissing = true) :
    ∀ c ∈ step.conditions, c.failures = [] := by
  cases step with
  | compare op column value ignoreNull =>
      cases skips
      intro c asked
      obtain ⟨notSkipped, asked⟩ := List.mem_ite_nil_left.mp asked
      have present : value ≠ .null := fun null => notSkipped ⟨rfl, null⟩
      cases List.mem_singleton.mp asked
      cases value <;> simp [Condition.failures, Value.isNull] at present ⊢
  | like column pattern ignoreBlank =>
      cases skips
      intro c asked
      obtain ⟨notSkipped, asked⟩ := List.mem_ite_nil_left.mp asked
      cases pattern with
      | none =>
          have blank : Blank none := by
            intro text missing
            cases missing
          exact absurd ⟨rfl, blank⟩ notSkipped
      | some text =>
          cases List.mem_singleton.mp asked
          rfl
  | nullTest column isNull => simp [conditions, Condition.failures]
  | member column values negated ignoreEmpty => simp [conditions, Condition.failures]
  | group logic children => cases skips
  | orderBy column ascending => exact List.forall_mem_nil _
  | groupBy columns => exact List.forall_mem_nil _

theorem answerable_of_skipping_steps {steps : List Step}
    (skipping : ∀ step ∈ steps, step.skipsMissing = true) :
    ¬(reached steps).tree.Has Condition.unanswerable := by
  rw [← Condition.failures_eq_nil_iff, tree, Condition.failures,
    Condition.failures_of_eq_nil_iff, reached_eq_gathered]
  intro c gathered
  obtain ⟨step, accepted, asked⟩ := List.mem_flatMap.mp gathered
  exact step.answerable_of_skips (skipping step (List.mem_of_mem_filter accepted)) c asked

/-- A condition fails with its first column that is no identifier, else with its first comparison
with null that has no form, and is written otherwise. Criteria fail in the second way only, and
never if their steps leave out what is missing. -/
theorem synthesis_fails_at_first_offender (dialect : Dialect) :
    (∀ (c : Condition) (e : Error), c.statement dialect = .error e ↔
      c.BlamesColumn e ∨ ¬c.Has Condition.misnamed ∧ c.BlamesNull e) ∧
    (∀ c : Condition, (∃ statement, c.statement dialect = .ok statement) ↔
      ¬c.Has Condition.misnamed ∧ ¬c.Has Condition.unanswerable) ∧
    (∀ (criteria : Criteria) (e : Error), criteria.statement dialect = .error e ↔
      criteria.tree.BlamesNull e) ∧
    (∀ criteria : Criteria, (∃ statement, criteria.statement dialect = .ok statement) ↔
      ¬criteria.tree.Has Condition.unanswerable) ∧
    ∀ steps : List Step, (∀ step ∈ steps, step.skipsMissing = true) →
      ∃ statement, (reached steps).statement dialect = .ok statement := by
  refine ⟨fun c e => c.statement_eq_error_iff dialect e, fun c => c.has_statement_iff dialect,
    fun criteria e => criteria.statement_eq_error_iff dialect e,
    fun criteria => criteria.has_statement_iff dialect, ?_⟩
  intro steps skipping
  exact (has_statement_iff _ dialect).mpr (answerable_of_skipping_steps skipping)

def cautiousSearch : List Step :=
  [.compare .gt (.raw "age") .null true, .like (.raw "name") none true,
    .like (.raw "name") (some "an") true, .compare .le (.raw "age") (.int 7) true,
    .member (.raw "role") [] true true, .nullTest (.raw "left") false, .orderBy (.raw "age") true,
    .compare .ne (.raw "role;") .null true]

/-- The column of a list without values is blamed, although the list does not reach the text and a
comparison with null stands before it. -/
def strayColumn : Condition :=
  .group .or
    [.compare .like "name" .null,
      .group .and [.compare .eq "age" .null, .member "ro le" [] false, .nullTest "le ft" true]]

theorem cautious_search_written :
    (∀ step ∈ cautiousSearch, step.skipsMissing = true) ∧
    (∃ statement, (reached cautiousSearch).statement .mysql = .ok statement ∧
      statement.sql = "name LIKE ? AND age <= ? AND left IS NOT NULL") ∧
    strayColumn.BlamesColumn (.invalidColumn "ro le") ∧
    strayColumn.statement .mysql = .error (.invalidColumn "ro le") := by
  obtain ⟨refused, -, -, -, written⟩ := synthesis_fails_at_first_offender .mysql
  have skipping : ∀ step ∈ cautiousSearch, step.skipsMissing = true := by decide
  have blamed : strayColumn.BlamesColumn (.invalidColumn "ro le") :=
    ⟨.member "ro le" [] false, "ro le", (Condition.find_parts_eq_some_iff ..).mp rfl, rfl, rfl⟩
  obtain ⟨statement, made⟩ := written cautiousSearch skipping
  refine ⟨skipping, ⟨statement, made, ?_⟩, blamed, (refused strayColumn _).mpr (Or.inl blamed)⟩
  obtain ⟨-, rfl⟩ := (Draft.statement_eq_ok_iff ..).mp made
  decide +kernel

end Criteria

end BoundSql
