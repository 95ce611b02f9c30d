import Mathlib
import BoundSql.Proofs.ChangeSet.Runs
import BoundSql.Proofs.Command.InsertTree
import BoundSql.Proofs.Condition.Offenders

/-!
What a run of search steps gathers. A step is accepted when all columns that are given to it as
texts, also those inside of its groups, are identifiers, whether or not it then adds anything. What
the accepted steps ask for, one after the other, makes up the criteria, and the conditions among it
are the parts of the WHERE text, each written for itself.
-/

namespace BoundSql

namespace Criteria

namespace Step

/-- The pattern is missing, or all its characters are white space. -/
def Blank (pattern : Option String) : Prop :=
  ∀ text ∈ pattern, ∀ character ∈ text.toList, Text.isBlank character = true

instance : DecidablePred Blank := fun _ => inferInstanceAs (Decidable (∀ _ ∈ _, _))

def present : Step → List Condition
  | .group _ children => children.filterMap id
  | .compare .. | .like .. | .nullTest .. | .member .. | .orderBy .. | .groupBy .. => []

/-- All columns of the step are accepted, and in the conditions that it combines all columns are
identifiers. -/
def Accepted (step : Step) : Prop :=
  (∀ ref ∈ step.refs, ref.Accepted) ∧ ∀ c ∈ step.present, ¬c.Has Condition.misnamed

instance : DecidablePred Accepted := fun _ => inferInstanceAs (Decidable (_ ∧ _))

def conditions : Step → List Condition
  | .compare op column value ignoreNull =>
      if ignoreNull = true ∧ value = .null then [] else [.compare op column.name value]
  | .like column pattern ignoreBlank =>
      if ignoreBlank = true ∧ Blank pattern then []
      else
        match pattern with
        | some text => [.compare .like column.name (.text ("%" ++ text ++ "%"))]
        | none => [.compare .like column.name .null]
  | .nullTest column isNull => [.nullTest column.name isNull]
  | .member column values negated ignoreEmpty =>
      if ignoreEmpty = true ∧ values = [] then [] else [.member column.name values negated]
  | .group logic children =>
      if children.filterMap id = [] then [] else [.group logic (children.filterMap id)]
  | .orderBy _ _ | .groupBy _ => []

def orders : Step → List OrderItem
  | .orderBy column ascending => [⟨column.name, ascending⟩]
  | .compare .. | .like .. | .nullTest .. | .member .. | .group .. | .groupBy .. => []

def groups : Step → List String
  | .groupBy columns => columns.map ColumnRef.name
  | .compare .. | .like .. | .nullTest .. | .member .. | .group .. | .orderBy .. => []

/-- The step is about the order or the grouping of rows, and not about which rows are meant. -/
def arranges : Step → Bool
  | .orderBy .. | .groupBy .. => true
  | .compare .. | .like .. | .nullTest .. | .member .. | .group .. => false

def added (step : Step) : Criteria := ⟨step.conditions, step.orders, step.groups⟩

theorem arrangement_of_search {step : Step} (searches : step.arranges = false) :
    step.orders = [] ∧ step.groups = [] := by
  cases step <;> simp [arranges] at searches <;> exact ⟨rfl, rfl⟩

theorem conditions_of_arrangement {step : Step} (arranges : step.arranges = true) :
    step.conditions = [] := by
  cases step <;> simp [Step.arranges] at arranges <;> rfl

theorem blank_iff (pattern : Option String) : pattern.all Text.blank = true ↔ Blank pattern := by
  cases pattern <;> simp [Blank, Text.blank]

theorem added_unless {skipped : Bool} {p : Prop} [Decidable p] (same : skipped = true ↔ p)
    (c : Condition) :
    (if skipped then empty else ofConditions [c]) = ⟨if p then [] else [c], [], []⟩ := by
  by_cases skip : p
  · rw [if_pos (same.mpr skip), if_pos skip]
    rfl
  · rw [if_neg (mt same.mp skip), if_neg skip]
    rfl

/-- The group that a step makes is of the conditions that are present, if there are any. -/
theorem group_of_present (logic : Logic) (children : List (Option Condition)) :
    Condition.group? logic children =
      if children.filterMap id = [] then none
      else some (.group logic (children.filterMap id)) := by
  unfold Condition.group?
  cases children.filterMap id with
  | nil => rfl
  | cons child rest => rfl

theorem group_has_misnamed_iff (logic : Logic) (children : List Condition) :
    (Condition.group logic children).Has Condition.misnamed ↔
      ∃ child ∈ children, child.Has Condition.misnamed := by
  rw [Condition.has_iff_children]
  exact or_iff_right Bool.false_ne_true

theorem contribution_of_accepted {step : Step} (accepted : step.Accepted) :
    step.contribution = .ok step.added := by
  obtain ⟨refs, inside⟩ := accepted
  cases step with
  | compare op column value ignoreNull =>
      have skipped : (ignoreNull && value.isNull) = true ↔ ignoreNull = true ∧ value = .null := by
        cases value <;> simp [Value.isNull]
      rw [contribution, ColumnRef.column_of_accepted (refs column List.mem_cons_self)]
      exact congrArg Except.ok (added_unless skipped _)
  | like column pattern ignoreBlank =>
      have skipped : (ignoreBlank && pattern.all Text.blank) = true ↔
          ignoreBlank = true ∧ Blank pattern := by
        rw [Bool.and_eq_true, blank_iff]
      rw [contribution, ColumnRef.column_of_accepted (refs column List.mem_cons_self)]
      cases pattern <;> exact congrArg Except.ok (added_unless skipped _)
  | nullTest column isNull =>
      rw [contribution, ColumnRef.column_of_accepted (refs column List.mem_cons_self)]
      rfl
  | member column values negated ignoreEmpty =>
      have skipped : (ignoreEmpty && values.isEmpty) = true ↔
          ignoreEmpty = true ∧ values = [] := by
        rw [Bool.and_eq_true, List.isEmpty_iff]
      rw [contribution, ColumnRef.column_of_accepted (refs column List.mem_cons_self)]
      exact congrArg Except.ok (added_unless skipped _)
  | group logic children =>
      rw [contribution, group_of_present, added, conditions]
      by_cases none : children.filterMap id = []
      · rw [if_pos none, if_pos none]
        rfl
      · have passed : (Condition.group logic (children.filterMap id)).checkColumns = .ok () := by
          rw [Condition.check_columns_eq_ok_iff, group_has_misnamed_iff]
          intro bad
          obtain ⟨child, member, misnamed⟩ := bad
          exact inside child member misnamed
        rw [if_neg none, if_neg none]
        simp only [passed]
        rfl
  | orderBy column ascending =>
      rw [contribution, ColumnRef.column_of_accepted (refs column List.mem_cons_self)]
      rfl
  | groupBy columns =>
      have taken : columns.mapM ColumnRef.column = .ok (columns.map ColumnRef.name) :=
        mapM_of_answers fun ref member => ColumnRef.column_of_accepted (refs ref member)
      rw [contribution, taken]
      rfl

theorem not_identifier_of_refused {ref : ColumnRef} (refused : ¬ref.Accepted) :
    isIdentifier ref.name = false := by
  cases ref with
  | raw name => exact Bool.eq_false_iff.mpr refused
  | field column => exact absurd trivial refused

/-- A column that is not accepted is reported, even if the step would add nothing. -/
theorem contribution_of_refused {step : Step} (refused : ¬step.Accepted) :
    ∃ name, isIdentifier name = false ∧ step.contribution = .error (.invalidColumn name) := by
  -- A step with one column reports that column, whatever it makes of it.
  have single {column : ColumnRef} {make : String → Criteria} (one : step.refs = [column])
      (alone : step.present = [])
      (takes : step.contribution = do return make (← column.column)) :
      ∃ name, isIdentifier name = false ∧ step.contribution = .error (.invalidColumn name) := by
    have bad : ¬column.Accepted := by simpa [Accepted, one, alone] using refused
    rw [takes, ColumnRef.column_of_refused bad]
    exact ⟨column.name, not_identifier_of_refused bad, rfl⟩
  cases step with
  | compare op column value ignoreNull => exact single rfl rfl rfl
  | like column pattern ignoreBlank => exact single rfl rfl rfl
  | nullTest column isNull => exact single rfl rfl rfl
  | member column values negated ignoreEmpty => exact single rfl rfl rfl
  | orderBy column ascending => exact single rfl rfl rfl
  | group logic children =>
      have bad : ∃ child ∈ children.filterMap id, child.Has Condition.misnamed := by
        by_contra none
        refine refused ⟨nofun, ?_⟩
        intro child member misnamed
        exact none ⟨child, member, misnamed⟩
      have some : children.filterMap id ≠ [] := by
        obtain ⟨child, member, -⟩ := bad
        exact List.ne_nil_of_mem member
      rw [← group_has_misnamed_iff logic] at bad
      rw [contribution, group_of_present, if_neg some]
      cases check : (Condition.group logic (children.filterMap id)).checkColumns with
      | ok _ => exact absurd bad ((Condition.check_columns_eq_ok_iff _).mp check)
      | error e =>
          obtain ⟨name, notIdentifier, rfl⟩ :=
            ((Condition.check_columns_eq_error_iff _ e).mp check).bad_column
          simp only [check]
          exact ⟨name, notIdentifier, rfl⟩
  | groupBy columns =>
      have bad : ¬∀ ref ∈ columns, ref.Accepted := by simpa [Accepted, refs, present] using refused
      obtain ⟨ref, -, notAccepted, failed⟩ := mapM_of_refused
        (fun _ accepted => ⟨_, ColumnRef.column_of_accepted accepted⟩)
        (fun _ notAccepted => ColumnRef.column_of_refused notAccepted) bad
      rw [contribution, failed]
      exact ⟨ref.name, not_identifier_of_refused notAccepted, rfl⟩

end Step

theorem append_assoc (first second third : Criteria) :
    (first ++ second) ++ third = first ++ (second ++ third) := by
  show Criteria.mk ((_ ++ _) ++ _) ((_ ++ _) ++ _) ((_ ++ _) ++ _) = Criteria.mk _ _ _
  rw [List.append_assoc, List.append_assoc, List.append_assoc]
  rfl

theorem append_empty (criteria : Criteria) : criteria ++ empty = criteria := by
  show Criteria.mk (_ ++ []) (_ ++ []) (_ ++ []) = criteria
  rw [List.append_nil, List.append_nil, List.append_nil]

theorem apply_of_accepted (criteria : Criteria) {step : Step} (accepted : step.Accepted) :
    criteria.apply step = .ok (criteria ++ step.added) := by
  rw [apply, Step.contribution_of_accepted accepted]
  rfl

theorem apply_of_refused (criteria : Criteria) {step : Step} (refused : ¬step.Accepted) :
    ∃ name, isIdentifier name = false ∧ criteria.apply step = .error (.invalidColumn name) := by
  obtain ⟨name, notIdentifier, failed⟩ := Step.contribution_of_refused refused
  rw [apply, failed]
  exact ⟨name, notIdentifier, rfl⟩

def accepted (steps : List Step) : List Step := steps.filter fun step => step.Accepted

/-- What the accepted steps of a run ask for, one after the other. -/
def gathered (steps : List Step) : Criteria :=
  ⟨(accepted steps).flatMap Step.conditions, (accepted steps).flatMap Step.orders,
    (accepted steps).flatMap Step.groups⟩

theorem gathered_cons_of_accepted {step : Step} (accepted : step.Accepted) (steps : List Step) :
    gathered (step :: steps) = step.added ++ gathered steps := by
  unfold gathered Criteria.accepted
  rw [List.filter_cons_of_pos (by simpa using accepted)]
  rfl

theorem gathered_cons_of_refused {step : Step} (refused : ¬step.Accepted) (steps : List Step) :
    gathered (step :: steps) = gathered steps := by
  unfold gathered Criteria.accepted
  rw [List.filter_cons_of_neg (by simpa using refused)]

theorem keep_all (steps : List Step) (criteria : Criteria) :
    steps.foldl keep criteria = criteria ++ gathered steps := by
  induction steps generalizing criteria with
  | nil => exact (append_empty criteria).symm
  | cons step rest ih =>
      rw [List.foldl_cons, ih]
      by_cases accepted : step.Accepted
      · rw [gathered_cons_of_accepted accepted, ← append_assoc, keep,
          criteria.apply_of_accepted accepted]
      · obtain ⟨name, -, failed⟩ := criteria.apply_of_refused accepted
        rw [gathered_cons_of_refused accepted, keep, failed]

theorem reached_eq_gathered (steps : List Step) : reached steps = gathered steps :=
  keep_all steps empty

/-- The text of each condition, with placeholders that are numbered on from condition to
condition. -/
def fragments (criteria : Criteria) (dialect : Dialect) : List String :=
  criteria.conditions.zipIdx.map fun item =>
    .ofList (dialect.spelling
      (1 + (Condition.leavesOf (criteria.conditions.take item.2)).length)
      (item.1.draft [.key "conditions", .index item.2]).pieces)

end Criteria

theorem Condition.take_drafts (base : Path) (i n : Nat) (cs : List Condition) :
    (drafts base i cs).take n = drafts base i (cs.take n) := by
  induction cs generalizing i n with
  | nil => simp [drafts]
  | cons c cs ih =>
      cases n with
      | zero => rfl
      | succ n => rw [drafts, List.take_succ_cons, ih, List.take_succ_cons, drafts]

namespace Criteria

theorem fragments_eq (criteria : Criteria) (dialect : Dialect)
    (clean : Condition.failuresOf criteria.conditions = []) :
    criteria.fragments dialect = dialect.itemTexts 1
      ((Condition.drafts [.key "conditions"] 0 criteria.conditions).map Draft.pieces) := by
  have eachClean := (Condition.failures_of_eq_nil_iff _).mp clean
  apply List.ext_getElem?
  intro i
  -- The placeholders before a condition are those of the leaf values before it.
  have before : (paramPaths (((Condition.drafts [.key "conditions"] 0 criteria.conditions).map
      Draft.pieces).take i).flatten).length =
      (Condition.leavesOf (criteria.conditions.take i)).length := by
    rw [← List.map_take, Condition.take_drafts, ← List.flatMap_def, param_paths_flatMap,
      Condition.params_drafts _ _ _ (fun c member base =>
        Condition.params_draft base (eachClean c (List.mem_of_mem_take member))),
      List.length_map, ← Condition.values_bindings_from 0 _ (fun c _ => c.values_bindings),
      List.length_map]
  rw [dialect.getElem_item_texts, before, fragments, List.getElem?_map, List.getElem?_map,
    Condition.getElem?_drafts, List.getElem?_zipIdx]
  cases criteria.conditions[i]? with
  | none => rfl
  | some c => simp

/-- The WHERE text of criteria with conditions is their texts with AND between them. -/
theorem sql_of_statement {criteria : Criteria} {dialect : Dialect} {statement : Statement}
    (some : criteria.conditions ≠ []) (made : criteria.statement dialect = .ok statement) :
    statement.sql = " AND ".intercalate (criteria.fragments dialect) := by
  obtain ⟨complete, rfl⟩ := (Draft.statement_eq_ok_iff ..).mp made
  have clean := clean_of_complete complete
  have joined : criteria.draft [] =
      .joined " AND " (Condition.drafts [.key "conditions"] 0 criteria.conditions) := by
    obtain ⟨c, cs, conditions⟩ := List.exists_cons_of_ne_nil some
    rw [draft, conditions, Condition.clause_cons]
    rfl
  apply String.toList_injective
  rw [criteria.fragments_eq dialect clean, ← Dialect.spelling_joined, ← Dialect.to_list_sql, joined,
    Draft.joined_of_complete _ (Condition.complete_drafts _ 0 clean)]

/-- A step succeeds exactly when its columns are accepted, whatever it then adds, and changes
either the conditions or the order and the grouping. A run of steps, in which some may fail,
gathers what the accepted steps ask for, and each condition that was gathered is one part of the
WHERE text. -/
theorem run_gathers_accepted_steps (steps : List Step) :
    (∀ (criteria : Criteria) (step : Step),
      ((∃ next, criteria.apply step = .ok next) ↔ step.Accepted) ∧
      (∀ e, criteria.apply step = .error e →
        ∃ name, isIdentifier name = false ∧ e = .invalidColumn name) ∧
      (step.arranges = false →
        (criteria.keep step).orders = criteria.orders ∧
          (criteria.keep step).groups = criteria.groups) ∧
      (step.arranges = true → (criteria.keep step).conditions = criteria.conditions)) ∧
    (reached steps).conditions = (accepted steps).flatMap Step.conditions ∧
    (reached steps).orders = (accepted steps).flatMap Step.orders ∧
    (reached steps).groups = (accepted steps).flatMap Step.groups ∧
    ∀ dialect statement, (reached steps).statement dialect = .ok statement →
      (reached steps).conditions ≠ [] →
        statement.sql = " AND ".intercalate ((reached steps).fragments dialect) := by
  have gathers := reached_eq_gathered steps
  refine ⟨?_, congrArg Criteria.conditions gathers, congrArg Criteria.orders gathers,
    congrArg Criteria.groups gathers, fun dialect statement made some =>
      sql_of_statement some made⟩
  intro criteria step
  by_cases accepted : step.Accepted
  · have applied := criteria.apply_of_accepted accepted
    rw [keep, applied]
    refine ⟨⟨fun _ => accepted, fun _ => ⟨_, rfl⟩⟩, nofun, ?_, ?_⟩
    · intro searches
      obtain ⟨noOrders, noGroups⟩ := Step.arrangement_of_search searches
      show criteria.orders ++ step.orders = _ ∧ criteria.groups ++ step.groups = _
      rw [noOrders, noGroups, List.append_nil, List.append_nil]
      exact ⟨rfl, rfl⟩
    · intro arranges
      show criteria.conditions ++ step.conditions = _
      rw [Step.conditions_of_arrangement arranges, List.append_nil]
  · obtain ⟨name, notIdentifier, failed⟩ := criteria.apply_of_refused accepted
    rw [keep, failed]
    refine ⟨⟨nofun, fun succeeds => absurd succeeds accepted⟩, ?_, fun _ => ⟨rfl, rfl⟩,
      fun _ => rfl⟩
    intro e same
    exact ⟨name, notIdentifier, (Except.error.inj same).symm⟩

/-- A search in which some steps have nothing to ask for and some are refused: a column that is no
identifier is refused also where its value is null, and deep inside of a group. -/
def hurriedSearch : List Step :=
  [.compare .eq (.raw "state") .null true, .compare .eq (.raw "state;") .null true,
    .like (.field "name") (some "\t\u3000") true, .like (.field "name") (some "li") true,
    .group .or [none], .orderBy (.raw "name") true,
    .group .or [some (.compare .lt "age" (.int 18)), none,
      some (.group .and [.member "left" [] true, .nullTest "role" true])],
    .group .and [some (.group .or [.compare .eq "role" .null, .nullTest "x y" false])],
    .groupBy [.raw "role", .raw "a-b"], .groupBy [.raw "role", .raw "team"],
    .member (.raw "id") [.int 4, .null] false true, .orderBy (.raw "age") false]

theorem hurried_search_gathered :
    ∃ statement, (reached hurriedSearch).statement .postgres = .ok statement ∧
      (reached hurriedSearch).conditions ≠ [] ∧
      (reached hurriedSearch).conditions = (accepted hurriedSearch).flatMap Step.conditions ∧
      (reached hurriedSearch).orders = [⟨"name", true⟩, ⟨"age", false⟩] ∧
      (reached hurriedSearch).groups = ["role", "team"] ∧
      statement.sql = " AND ".intercalate ((reached hurriedSearch).fragments .postgres) ∧
      (reached hurriedSearch).fragments .postgres =
        ["name LIKE $1", "(age < $2 OR (1=1 AND role IS NULL))", "id IN ($3, $4)"] := by
  obtain ⟨-, conditions, orders, groups, text⟩ := run_gathers_accepted_steps hurriedSearch
  have some : (reached hurriedSearch).conditions ≠ [] := by decide +kernel
  refine ⟨_, rfl, some, conditions, orders.trans ?_, groups.trans ?_, text .postgres _ rfl some, ?_⟩
  · decide +kernel
  · decide +kernel
  · decide +kernel

end Criteria

end BoundSql
