import Mathlib
import BoundSql.ChangeSet
import BoundSql.Criteria.Basic

/-!
The columns that steps bring into search criteria and change sets. A column given as text is
checked before it is stored, and a group is checked in all its depth, so a step that succeeds
stores identifiers only, provided that the fields that are taken on trust have identifiers for
columns. A step that fails stores nothing. So whatever the steps, and however many of them fail,
nothing but identifiers is ever stored.
-/

namespace BoundSql

def Identifiers (names : List String) : Prop := ∀ name ∈ names, isIdentifier name = true

theorem identifiers_singleton {name : String} (identifier : isIdentifier name = true) :
    Identifiers [name] := by
  intro other member
  cases List.mem_singleton.mp member
  exact identifier

theorem identifiers_append_iff (names others : List String) :
    Identifiers (names ++ others) ↔ Identifiers names ∧ Identifiers others :=
  List.forall_mem_append

theorem identifiers_of_check {names : List String} (passed : checkColumns names = .ok ()) :
    Identifiers names := by
  intro name member
  unfold checkColumns at passed
  cases found : names.find? (fun name => !isIdentifier name) with
  | some bad =>
      rw [found] at passed
      cases passed
  | none =>
      have none := List.find?_eq_none.mp found name member
      simpa using none

theorem ok_of_bind {β γ : Type} {first : Except Error β} {next : β → Except Error γ} {c : γ}
    (succeeded : (first >>= next) = .ok c) : ∃ b, first = .ok b ∧ next b = .ok c := by
  cases first with
  | error e => cases succeeded
  | ok b => exact ⟨b, rfl, succeeded⟩

theorem answers_of_mapM {β γ : Type} {step : β → Except Error γ} {entries : List β}
    {answers : List γ} (succeeded : entries.mapM step = .ok answers) :
    ∀ answer ∈ answers, ∃ entry ∈ entries, step entry = .ok answer := by
  induction entries generalizing answers with
  | nil =>
      cases succeeded
      simp
  | cons entry rest ih =>
      rw [List.mapM_cons] at succeeded
      obtain ⟨first, head, succeeded⟩ := ok_of_bind succeeded
      obtain ⟨others, tail, succeeded⟩ := ok_of_bind succeeded
      cases succeeded
      rw [List.forall_mem_cons]
      constructor
      · exact ⟨entry, List.mem_cons_self, head⟩
      · intro answer member
        obtain ⟨other, present, same⟩ := ih tail answer member
        exact ⟨other, List.mem_cons_of_mem entry present, same⟩

theorem mapM_of_answers {β γ : Type} {step : β → Except Error γ} {answer : β → γ}
    {entries : List β} (each : ∀ entry ∈ entries, step entry = .ok (answer entry)) :
    entries.mapM step = .ok (entries.map answer) := by
  induction entries with
  | nil => rfl
  | cons entry rest ih =>
      rw [List.forall_mem_cons] at each
      rw [List.mapM_cons, each.1, ih each.2]
      rfl

/-- Steps on the entries of a list fail at an entry that is not accepted, if there is one. -/
theorem mapM_of_refused {β γ : Type} {step : β → Except Error γ} {accepted : β → Prop}
    {blame : β → Error} {entries : List β}
    (answers : ∀ entry, accepted entry → ∃ answer, step entry = .ok answer)
    (fails : ∀ entry, ¬accepted entry → step entry = .error (blame entry))
    (refused : ¬∀ entry ∈ entries, accepted entry) :
    ∃ entry ∈ entries, ¬accepted entry ∧ entries.mapM step = .error (blame entry) := by
  induction entries with
  | nil => exact absurd nofun refused
  | cons entry rest ih =>
      rw [List.forall_mem_cons, not_and] at refused
      rw [List.mapM_cons]
      by_cases here : accepted entry
      · obtain ⟨answer, answered⟩ := answers entry here
        obtain ⟨other, member, notAccepted, ended⟩ := ih (refused here)
        rw [answered, ended]
        exact ⟨other, List.mem_cons_of_mem entry member, notAccepted, rfl⟩
      · rw [fails entry here]
        exact ⟨entry, List.mem_cons_self, here, rfl⟩

/-- A text is checked, so that only the column of a field has to be an identifier already. -/
def ColumnRef.Trusted : ColumnRef → Prop
  | .raw _ => True
  | .field column => isIdentifier column = true

theorem ColumnRef.identifier_of_column {ref : ColumnRef} {name : String} (trusted : ref.Trusted)
    (given : ref.column = .ok name) : isIdentifier name = true := by
  cases ref with
  | field column =>
      cases given
      exact trusted
  | raw text =>
      simp only [column] at given
      by_cases valid : isIdentifier text = true
      · rw [if_pos valid] at given
        cases given
        exact valid
      · rw [if_neg valid] at given
        cases given

theorem ColumnRef.made_of_identifier {β : Type} {ref : ColumnRef} {make : String → β} {made : β}
    (trusted : ref.Trusted) (given : (do return make (← ref.column)) = Except.ok made) :
    ∃ name, isIdentifier name = true ∧ made = make name := by
  obtain ⟨name, taken, given⟩ := ok_of_bind given
  cases given
  exact ⟨name, identifier_of_column trusted taken, rfl⟩

namespace Criteria

def columns (criteria : Criteria) : List String :=
  criteria.conditions.flatMap Condition.columns ++
    (criteria.orders.map OrderItem.column ++ criteria.groups)

theorem identifiers_columns_iff (criteria : Criteria) :
    Identifiers criteria.columns ↔ Identifiers (criteria.conditions.flatMap Condition.columns) ∧
      Identifiers (criteria.orders.map OrderItem.column) ∧ Identifiers criteria.groups := by
  rw [columns, identifiers_append_iff, identifiers_append_iff]

theorem identifiers_append {criteria added : Criteria} (all : Identifiers criteria.columns)
    (more : Identifiers added.columns) : Identifiers (criteria ++ added).columns := by
  rw [identifiers_columns_iff] at all more ⊢
  obtain ⟨conditions, orders, groups⟩ := all
  obtain ⟨newConditions, newOrders, newGroups⟩ := more
  show Identifiers ((criteria.conditions ++ added.conditions).flatMap Condition.columns) ∧
    Identifiers ((criteria.orders ++ added.orders).map OrderItem.column) ∧
    Identifiers (criteria.groups ++ added.groups)
  rw [List.flatMap_append, List.map_append, identifiers_append_iff, identifiers_append_iff,
    identifiers_append_iff]
  exact ⟨⟨conditions, newConditions⟩, ⟨orders, newOrders⟩, ⟨groups, newGroups⟩⟩

theorem identifiers_empty : Identifiers empty.columns := by
  intro name member
  cases member

theorem identifiers_of_condition {c : Condition} (all : Identifiers c.columns) :
    Identifiers (ofConditions [c]).columns := by
  simpa [columns, ofConditions] using all

theorem identifiers_of_optional {c : Condition} (skipped : Bool) (all : Identifiers c.columns) :
    Identifiers (if skipped then empty else ofConditions [c]).columns := by
  cases skipped with
  | true => exact identifiers_empty
  | false => exact identifiers_of_condition all

theorem columns_pattern (column : String) (pattern : Option String) :
    (patternCondition column pattern).columns = [column] := by
  cases pattern <;> rfl

namespace Step

/-- The columns that are given to a step one by one; those of a group stand in its conditions. -/
def refs : Step → List ColumnRef
  | .compare _ column _ _ => [column]
  | .like column _ _ => [column]
  | .nullTest column _ => [column]
  | .member column _ _ _ => [column]
  | .group _ _ => []
  | .orderBy column _ => [column]
  | .groupBy columns => columns

theorem identifiers_of_contribution {step : Step} {added : Criteria}
    (trusted : ∀ ref ∈ step.refs, ref.Trusted) (given : step.contribution = .ok added) :
    Identifiers added.columns := by
  cases step with
  | compare op column value ignoreNull =>
      obtain ⟨name, identifier, same⟩ :=
        ColumnRef.made_of_identifier (trusted column List.mem_cons_self) given
      rw [same]
      exact identifiers_of_optional _ (identifiers_singleton identifier)
  | like column pattern ignoreBlank =>
      obtain ⟨name, identifier, same⟩ :=
        ColumnRef.made_of_identifier (trusted column List.mem_cons_self) given
      rw [same]
      apply identifiers_of_optional
      rw [columns_pattern]
      exact identifiers_singleton identifier
  | nullTest column isNull =>
      obtain ⟨name, identifier, same⟩ :=
        ColumnRef.made_of_identifier (trusted column List.mem_cons_self) given
      rw [same]
      exact identifiers_of_condition (identifiers_singleton identifier)
  | member column values negated ignoreEmpty =>
      obtain ⟨name, identifier, same⟩ :=
        ColumnRef.made_of_identifier (trusted column List.mem_cons_self) given
      rw [same]
      exact identifiers_of_optional _ (identifiers_singleton identifier)
  | group logic children =>
      cases made : Condition.group? logic children with
      | none =>
          simp only [contribution, made] at given
          cases given
          exact identifiers_empty
      | some tree =>
          simp only [contribution, made] at given
          obtain ⟨_, passed, given⟩ := ok_of_bind given
          cases given
          exact identifiers_of_condition (identifiers_of_check passed)
  | orderBy column ascending =>
      obtain ⟨name, identifier, same⟩ :=
        ColumnRef.made_of_identifier (trusted column List.mem_cons_self) given
      rw [same]
      exact identifiers_singleton identifier
  | groupBy refs =>
      obtain ⟨names, taken, given⟩ := ok_of_bind given
      cases given
      intro name member
      obtain ⟨ref, present, same⟩ := answers_of_mapM taken name member
      exact ColumnRef.identifier_of_column (trusted ref present) same

end Step

theorem identifiers_keep {criteria : Criteria} (all : Identifiers criteria.columns) {step : Step}
    (trusted : ∀ ref ∈ step.refs, ref.Trusted) : Identifiers (criteria.keep step).columns := by
  unfold keep apply
  cases given : step.contribution with
  | error e => exact all
  | ok added => exact identifiers_append all (step.identifiers_of_contribution trusted given)

theorem identifiers_reached (steps : List Step)
    (trusted : ∀ step ∈ steps, ∀ ref ∈ step.refs, ref.Trusted) :
    Identifiers (reached steps).columns := by
  apply List.foldlRecOn steps keep
    (motive := fun criteria : Criteria => Identifiers criteria.columns)
  · exact identifiers_empty
  · intro criteria all step member
    exact identifiers_keep all (trusted step member)

end Criteria

namespace ChangeSet

def columns (changes : ChangeSet) : List String := changes.entries.map (·.1)

theorem mem_columns_put {changes : ChangeSet} {assignment : String × Value} {column : String}
    (member : column ∈ (changes.put assignment).columns) :
    column = assignment.1 ∨ column ∈ changes.columns := by
  obtain ⟨entries⟩ := changes
  obtain ⟨name, value⟩ := assignment
  simp only [columns, put] at member ⊢
  induction entries with
  | nil => exact Or.inl (List.mem_singleton.mp member)
  | cons entry rest ih =>
      obtain ⟨other, present⟩ := entry
      rw [Association.put] at member
      by_cases same : other = name
      · rw [if_pos same, List.map_cons, List.mem_cons] at member
        exact member.imp_right (List.mem_cons_of_mem _)
      · rw [if_neg same, List.map_cons, List.mem_cons] at member
        rw [List.map_cons, List.mem_cons]
        tauto

def Step.refs : Step → List ColumnRef
  | .set column _ => [column]
  | .clear column => [column]
  | .setIfPresent column _ => [column]
  | .setAll entries => entries.map (·.1)

theorem Step.identifiers_of_assignments {step : Step} {assignments : List (String × Value)}
    (trusted : ∀ ref ∈ step.refs, ref.Trusted) (given : step.assignments = .ok assignments) :
    ∀ assignment ∈ assignments, isIdentifier assignment.1 = true := by
  cases step with
  | set column value =>
      obtain ⟨name, identifier, same⟩ :=
        ColumnRef.made_of_identifier (trusted column List.mem_cons_self) given
      rw [same, List.forall_mem_singleton]
      exact identifier
  | clear column =>
      obtain ⟨name, identifier, same⟩ :=
        ColumnRef.made_of_identifier (trusted column List.mem_cons_self) given
      rw [same, List.forall_mem_singleton]
      exact identifier
  | setIfPresent column value =>
      obtain ⟨name, identifier, same⟩ :=
        ColumnRef.made_of_identifier (trusted column List.mem_cons_self) given
      rw [same]
      cases value.isNull with
      | true => exact nofun
      | false => exact List.forall_mem_singleton.mpr identifier
  | setAll entries =>
      intro assignment member
      obtain ⟨entry, present, same⟩ := answers_of_mapM given assignment member
      obtain ⟨name, taken, same⟩ := ok_of_bind same
      cases same
      exact ColumnRef.identifier_of_column
        (trusted entry.1 (List.mem_map_of_mem present)) taken

theorem identifiers_put_all {changes : ChangeSet} (all : Identifiers changes.columns)
    {assignments : List (String × Value)}
    (more : ∀ assignment ∈ assignments, isIdentifier assignment.1 = true) :
    Identifiers (assignments.foldl put changes).columns := by
  apply List.foldlRecOn assignments put
    (motive := fun changes : ChangeSet => Identifiers changes.columns)
  · exact all
  · intro reached before assignment present column member
    cases mem_columns_put member with
    | inl here =>
        rw [here]
        exact more assignment present
    | inr there => exact before column there

theorem identifiers_keep {changes : ChangeSet} (all : Identifiers changes.columns) {step : Step}
    (trusted : ∀ ref ∈ step.refs, ref.Trusted) : Identifiers (changes.keep step).columns := by
  unfold keep apply
  cases given : step.assignments with
  | error e => exact all
  | ok assignments =>
      exact identifiers_put_all all (step.identifiers_of_assignments trusted given)

theorem identifiers_reached (steps : List Step)
    (trusted : ∀ step ∈ steps, ∀ ref ∈ step.refs, ref.Trusted) :
    Identifiers (reached steps).columns := by
  apply List.foldlRecOn steps keep
    (motive := fun changes : ChangeSet => Identifiers changes.columns)
  · intro column member
    cases member
  · intro changes all step member
    exact identifiers_keep all (trusted step member)

end ChangeSet

end BoundSql
