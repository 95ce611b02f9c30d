import Mathlib
import BoundSql.Proofs.Clause.Meaning
import BoundSql.Proofs.Clause.ThreeValued

/-!
Groups without children. Such a group is written as a predicate that always holds, whatever stands
around it. Among conditions that are joined by AND this is the same as leaving the group out; in an
OR group it makes the whole group hold. So a clause never selects fewer rows for its empty groups,
and exactly the same rows if none of them stands beside other conditions in an OR group.
-/

namespace BoundSql

namespace Condition

mutual

/-- The condition without its empty groups, and without the groups that become empty by this. -/
def pruned : Condition → Option Condition
  | .compare op column value => some (.compare op column value)
  | .nullTest column isNull => some (.nullTest column isNull)
  | .member column values negated => some (.member column values negated)
  | .group logic children =>
      match prunedOf children with
      | [] => none
      | left => some (.group logic left)

def prunedOf : List Condition → List Condition
  | [] => []
  | c :: cs => c.pruned.toList ++ prunedOf cs

end

mutual

/-- Whether a group that is left out stands beside a condition that stays, in some OR group. -/
def emptyUnderOr : Condition → Bool
  | .compare _ _ _ => false
  | .nullTest _ _ => false
  | .member _ _ _ => false
  | .group logic children =>
      (logic == .or && (children.any fun c => c.pruned.isNone) &&
          (children.any fun c => c.pruned.isSome)) ||
        emptyUnderOrOf children

def emptyUnderOrOf : List Condition → Bool
  | [] => false
  | c :: cs => c.emptyUnderOr || emptyUnderOrOf cs

end

theorem pruned_of_eq_flatMap (cs : List Condition) :
    prunedOf cs = cs.flatMap fun c => c.pruned.toList := by
  induction cs with
  | nil => rfl
  | cons c cs ih => rw [prunedOf, ih, List.flatMap_cons]

theorem pruned_group_eq_none_iff (logic : Logic) (children : List Condition) :
    (group logic children).pruned = none ↔ ∀ c ∈ children, c.pruned = none := by
  have left : prunedOf children = [] ↔ ∀ c ∈ children, c.pruned = none := by
    rw [pruned_of_eq_flatMap, List.flatMap_eq_nil_iff]
    simp only [Option.toList_eq_nil_iff]
  rw [← left, pruned]
  cases prunedOf children <;> simp

theorem pruned_group_eq_some {logic : Logic} {children : List Condition} {d : Condition}
    (stays : (group logic children).pruned = some d) :
    prunedOf children ≠ [] ∧ children ≠ [] ∧ d = .group logic (prunedOf children) := by
  rw [pruned] at stays
  cases left : prunedOf children with
  | nil =>
      rw [left] at stays
      cases stays
  | cons c cs =>
      rw [left] at stays
      cases stays
      refine ⟨List.cons_ne_nil c cs, ?_, rfl⟩
      rintro rfl
      cases left

theorem empty_under_or_of_eq_any (cs : List Condition) :
    emptyUnderOrOf cs = cs.any emptyUnderOr := by
  induction cs with
  | nil => rfl
  | cons c cs ih => rw [emptyUnderOrOf, ih, List.any_cons]

theorem children_of_clear {logic : Logic} {children : List Condition}
    (clear : (group logic children).emptyUnderOr = false)
    (some : prunedOf children ≠ []) :
    ∀ c ∈ children, c.emptyUnderOr = false ∧ (logic = .or → c.pruned ≠ none) := by
  rw [emptyUnderOr, Bool.or_eq_false_iff, empty_under_or_of_eq_any, List.any_eq_false] at clear
  obtain ⟨here, inside⟩ := clear
  intro c child
  refine ⟨Bool.eq_false_of_not_eq_true (inside c child), ?_⟩
  rintro rfl gone
  have empty : (children.any fun c => c.pruned.isNone) = true :=
    List.any_eq_true.mpr ⟨c, child, Option.isNone_iff_eq_none.mpr gone⟩
  rw [empty, beq_self_eq_true, Bool.and_self, Bool.true_and, List.any_eq_false] at here
  apply some
  rw [pruned_of_eq_flatMap, List.flatMap_eq_nil_iff]
  intro other beside
  rw [Option.toList_eq_nil_iff, ← Option.not_isSome_iff_eq_none]
  exact here other beside

/-- What is collected from the leaves is not changed. -/
theorem flatMap_pruned {β : Type} {read : Condition → List β}
    (ofGroup : ∀ logic children, read (.group logic children) = children.flatMap read)
    (c : Condition) : c.pruned.toList.flatMap read = read c := by
  induction c using tree_induction with
  | compare op column value => exact List.flatMap_singleton ..
  | nullTest column isNull => exact List.flatMap_singleton ..
  | member column values negated => exact List.flatMap_singleton ..
  | group logic children ih =>
      have inside : (prunedOf children).flatMap read = children.flatMap read := by
        rw [pruned_of_eq_flatMap, List.flatMap_assoc]
        exact List.flatMap_congr ih
      rw [ofGroup, ← inside, pruned]
      cases prunedOf children with
      | nil => rfl
      | cons d ds => exact (List.flatMap_singleton ..).trans (ofGroup logic (d :: ds))

theorem flatMap_pruned_of {β : Type} {read : Condition → List β}
    (ofGroup : ∀ logic children, read (.group logic children) = children.flatMap read)
    (cs : List Condition) : (prunedOf cs).flatMap read = cs.flatMap read := by
  rw [pruned_of_eq_flatMap, List.flatMap_assoc]
  exact List.flatMap_congr fun c _ => flatMap_pruned ofGroup c

theorem leaves_of_eq_flatMap (cs : List Condition) : leavesOf cs = cs.flatMap leaves := by
  induction cs with
  | nil => rfl
  | cons c cs ih => rw [leavesOf, ih, List.flatMap_cons]

theorem failures_of_pruned (cs : List Condition) : failuresOf (prunedOf cs) = failuresOf cs := by
  rw [failures_of_eq_flatMap, failures_of_eq_flatMap]
  exact flatMap_pruned_of (fun _ children => failures_of_eq_flatMap children) cs

theorem leaves_of_pruned (cs : List Condition) : leavesOf (prunedOf cs) = leavesOf cs := by
  rw [leaves_of_eq_flatMap, leaves_of_eq_flatMap]
  exact flatMap_pruned_of (fun _ children => leaves_of_eq_flatMap children) cs

theorem columns_of_pruned (cs : List Condition) : columnsOf (prunedOf cs) = columnsOf cs := by
  rw [columns_of_eq_flatMap, columns_of_eq_flatMap]
  exact flatMap_pruned_of (fun _ children => columns_of_eq_flatMap children) cs

/-- The value of a condition in a row: that of the predicate that is written for it. -/
def value (truth : Predicate Value → Truth) (c : Condition) : Truth := c.normal.value truth

section Values

variable {truth : Predicate Value → Truth}

theorem value_group {logic : Logic} {children : List Condition} (some : children ≠ []) :
    (group logic children).value truth = logic.combine (children.map (value truth)) := by
  cases children with
  | nil => exact absurd rfl some
  | cons c cs =>
      rw [value, normal, Predicate.value_enclose, normals_of_eq_map, List.map_cons, List.map_map]
      rfl

/-- What leaving out empty groups does to the value of a condition. -/
structure PrunedValue (truth : Predicate Value → Truth) (c : Condition) : Prop where
  gone : c.pruned = none → c.value truth = .yes
  lower : ∀ d, c.pruned = some d → d.value truth ≤ c.value truth
  same : c.emptyUnderOr = false → ∀ d, c.pruned = some d → d.value truth = c.value truth

theorem pruned_value_of_leaf {c : Condition} (stays : c.pruned = some c) :
    c.PrunedValue truth := by
  constructor
  · intro gone
    rw [stays] at gone
    cases gone
  · intro d left
    rw [stays] at left
    cases left
    exact le_rfl
  · intro _ d left
    rw [stays] at left
    cases left
    rfl

/-- What is left out of a list always holds: this changes nothing among conditions that are joined
by AND, and it is enough for alternatives. -/
theorem combine_pruned (logic : Logic) {cs : List Condition}
    (each : ∀ c ∈ cs, c.PrunedValue truth) :
    logic.combine ((prunedOf cs).map (value truth)) ≤ logic.combine (cs.map (value truth)) ∧
      ((∀ c ∈ cs, c.emptyUnderOr = false ∧ (logic = .or → c.pruned ≠ none)) →
        logic.combine ((prunedOf cs).map (value truth)) =
          logic.combine (cs.map (value truth))) := by
  induction cs with
  | nil => exact ⟨le_rfl, fun _ => rfl⟩
  | cons c cs ih =>
      obtain ⟨head, tail⟩ := List.forall_mem_cons.mp each
      obtain ⟨lower, same⟩ := ih tail
      rw [prunedOf, List.map_append, List.map_cons, Logic.combine_cons]
      cases left : c.pruned with
      | none =>
          -- It holds where it stands: neutral under AND, and enough alone under OR.
          rw [head.gone left]
          refine ⟨lower.trans (logic.le_join_yes _), fun clear => ?_⟩
          obtain ⟨headClear, tailClear⟩ := List.forall_mem_cons.mp clear
          cases logic with
          | and => exact same tailClear
          | or => exact absurd left (headClear.2 rfl)
      | some d =>
          rw [Option.toList_some, List.map_singleton, List.singleton_append, Logic.combine_cons]
          refine ⟨logic.join_mono (head.lower d left) lower, fun clear => ?_⟩
          obtain ⟨headClear, tailClear⟩ := List.forall_mem_cons.mp clear
          rw [head.same headClear.1 d left, same tailClear]

theorem pruned_value (truth : Predicate Value → Truth) (c : Condition) : c.PrunedValue truth := by
  induction c using tree_induction with
  | compare op column value => exact pruned_value_of_leaf rfl
  | nullTest column isNull => exact pruned_value_of_leaf rfl
  | member column values negated => exact pruned_value_of_leaf rfl
  | group logic children ih =>
      constructor
      · intro gone
        have each := (pruned_group_eq_none_iff logic children).mp gone
        have holds : ∀ held ∈ children.map (value truth), held = .yes := by
          rw [List.forall_mem_map]
          exact fun c child => (ih c child).gone (each c child)
        cases children with
        | nil => rfl
        | cons c cs =>
            rw [value_group (List.cons_ne_nil c cs)]
            cases logic with
            | and => exact Truth.all_of_yes holds
            | or =>
                have first := holds _ List.mem_cons_self
                exact Truth.any_of_yes (first ▸ List.mem_cons_self)
      · intro d stays
        obtain ⟨some, inside, rfl⟩ := pruned_group_eq_some stays
        rw [value_group some, value_group inside]
        exact (combine_pruned logic ih).1
      · intro clear d stays
        obtain ⟨some, inside, rfl⟩ := pruned_group_eq_some stays
        rw [value_group some, value_group inside]
        exact (combine_pruned logic ih).2 (children_of_clear clear some)

end Values

end Condition

namespace Criteria

def pruned (criteria : Criteria) : Criteria :=
  { criteria with conditions := Condition.prunedOf criteria.conditions }

variable {criteria : Criteria} {dialect : Dialect} {statement : Statement}

theorem value_normal (criteria : Criteria) (truth : Predicate Value → Truth) :
    Clause.value truth criteria.normal =
      Logic.and.combine (criteria.conditions.map (Condition.value truth)) := by
  obtain ⟨conditions, orders, groups⟩ := criteria
  cases conditions with
  | nil => rfl
  | cons c cs =>
      rw [Clause.value, normal, List.map_map]
      rfl

theorem statement_pruned (built : criteria.statement dialect = .ok statement) :
    ∃ pruned, criteria.pruned.statement dialect = .ok pruned ∧
      Predicate.signsOf criteria.pruned.normal = Predicate.signsOf criteria.normal := by
  obtain ⟨complete, -⟩ := (Draft.statement_eq_ok_iff ..).mp built
  have clean := clean_of_complete complete
  have prunedClean : Condition.failuresOf criteria.pruned.conditions = [] :=
    (Condition.failures_of_pruned _).trans clean
  refine ⟨_, (Draft.statement_eq_ok_iff ..).mpr ⟨?_, rfl⟩, ?_⟩
  · rw [Criteria.draft, Condition.failure_clause, prunedClean]
    rfl
  · rw [signs_normal _ prunedClean, signs_normal _ clean]
    exact Condition.leaves_of_pruned _

end Criteria

/-- Leaving empty groups out of search criteria. The statement is built with and without them, the
same values are bound in the same order, and the texts say the normal forms, and nothing else if
their columns are identifiers. A row that meets the criteria without empty groups meets them with
these as well. The two agree on every row if no group that is left out stands beside a condition
that stays in an OR group; such an OR group holds of all rows. -/
theorem empty_groups_never_narrow {criteria : Criteria} {dialect : Dialect} {statement : Statement}
    (built : criteria.statement dialect = .ok statement) :
    (∃ pruned, criteria.pruned.statement dialect = .ok pruned ∧
      statement.Says dialect criteria.resolve criteria.normal ∧
      pruned.Says dialect criteria.pruned.resolve criteria.pruned.normal ∧
      pruned.bind criteria.pruned.resolve = statement.bind criteria.resolve ∧
      ((∀ column ∈ Condition.columnsOf criteria.conditions, isIdentifier column = true) →
        (∀ ps, (statement.Says dialect criteria.resolve ps ∧
          ∀ column ∈ Predicate.columnsOf ps, isIdentifier column = true) ↔ ps = criteria.normal) ∧
        ∀ ps, (pruned.Says dialect criteria.pruned.resolve ps ∧
          ∀ column ∈ Predicate.columnsOf ps, isIdentifier column = true) ↔
            ps = criteria.pruned.normal)) ∧
    (∀ truth, Clause.value truth criteria.pruned.normal ≤ Clause.value truth criteria.normal) ∧
    ((∀ c ∈ criteria.conditions, c.emptyUnderOr = false) →
      ∀ truth, Clause.value truth criteria.pruned.normal = Clause.value truth criteria.normal) ∧
    ∀ (children : List Condition) (c : Condition), c ∈ children → c.pruned = none →
      ∀ truth, (Condition.group .or children).normal.value truth = .yes := by
  have values (truth : Predicate Value → Truth) :=
    @Condition.combine_pruned truth .and criteria.conditions fun c _ => c.pruned_value truth
  refine ⟨?_, ?_, ?_, ?_⟩
  · obtain ⟨pruned, prunedBuilt, signs⟩ := Criteria.statement_pruned built
    have said := Criteria.says_normal built
    have prunedSaid := Criteria.says_normal prunedBuilt
    refine ⟨pruned, prunedBuilt, said, prunedSaid, ?_, ?_⟩
    · rw [said.bound, prunedSaid.bound, signs]
    · intro identifiers
      refine ⟨fun ps => Criteria.says_iff built identifiers,
        fun ps => Criteria.says_iff prunedBuilt ?_⟩
      intro column member
      apply identifiers column
      rw [← Condition.columns_of_pruned]
      exact member
  · intro truth
    rw [Criteria.value_normal, Criteria.value_normal]
    exact (values truth).1
  · intro clear truth
    rw [Criteria.value_normal, Criteria.value_normal]
    exact (values truth).2 fun c member => ⟨clear c member, nofun⟩
  · intro children c member gone truth
    show (Condition.group .or children).value truth = .yes
    rw [Condition.value_group (List.ne_nil_of_mem member)]
    apply Truth.any_of_yes
    rw [← (c.pruned_value truth).gone gone]
    exact List.mem_map_of_mem member

/-- An empty group beside the only condition of an alternative. -/
def widenedSearch : Criteria :=
  .ofConditions [.group .or [.compare .eq "a" (.int 1), .group .and []]]

theorem empty_group_widens_alternative :
    (∃ statement, widenedSearch.statement .sqlite = .ok statement ∧
      statement.sql = "(a = ?1 OR 1=1)") ∧
    (∃ pruned, widenedSearch.pruned.statement .sqlite = .ok pruned ∧ pruned.sql = "(a = ?1)") ∧
    Clause.value (fun _ => .no) widenedSearch.normal = .yes ∧
    Clause.value (fun _ => .no) widenedSearch.pruned.normal = .no := by
  refine ⟨⟨_, rfl, ?_⟩, ⟨_, rfl, ?_⟩, rfl, rfl⟩
  · decide +kernel
  · decide +kernel

/-- Empty groups that stand among conditions joined by AND, or in groups of their own. -/
def emptiedSearch : Criteria :=
  .ofConditions
    [.group .and [.compare .eq "a" (.int 1), .group .or [.group .and [], .group .or []]],
      .group .or [],
      .group .or [.compare .lt "b" (.int 2), .member "c" [] false]]

theorem emptied_search_agrees :
    (∃ statement, emptiedSearch.statement .sqlite = .ok statement ∧
      statement.sql = "(a = ?1 AND (1=1 OR 1=1)) AND 1=1 AND (b < ?2 OR 1=0)" ∧
      statement.bind emptiedSearch.resolve = .ok [.int 1, .int 2]) ∧
    (∃ pruned, emptiedSearch.pruned.statement .sqlite = .ok pruned ∧
      pruned.bind emptiedSearch.pruned.resolve = .ok [.int 1, .int 2]) ∧
    (∀ c ∈ emptiedSearch.conditions, c.emptyUnderOr = false) ∧
    ∀ truth, Clause.value truth emptiedSearch.pruned.normal =
      Clause.value truth emptiedSearch.normal := by
  have built : emptiedSearch.statement .sqlite = .ok ⟨_, _⟩ := rfl
  obtain ⟨⟨pruned, prunedBuilt, said, -, values, -⟩, -, agree, -⟩ :=
    empty_groups_never_narrow built
  have clear : ∀ c ∈ emptiedSearch.conditions, c.emptyUnderOr = false := by decide
  have bound := said.bound
  refine ⟨⟨_, built, by decide +kernel, bound⟩, ⟨pruned, prunedBuilt, values.trans bound⟩, clear,
    agree clear⟩

end BoundSql
