import Mathlib
import BoundSql.Proofs.Criteria.Identifiers

/-!
What a run of assignment steps amounts to. A step is accepted when all its columns are, and then
it brings its assignments in order; otherwise it brings nothing. All that the accepted steps
brought, one after the other, is summed up by the change set: each column stands once, at the
place of its first assignment and with the value of its last.
-/

namespace BoundSql

namespace Association

variable {α : Type}

theorem names_put (name : String) (a : α) (entries : List (String × α)) :
    (put name a entries).map Prod.fst =
      if name ∈ entries.map Prod.fst then entries.map Prod.fst
      else entries.map Prod.fst ++ [name] := by
  induction entries with
  | nil => rfl
  | cons entry rest ih =>
      obtain ⟨other, b⟩ := entry
      rw [put]
      by_cases same : other = name
      · have present : name ∈ ((other, b) :: rest).map Prod.fst := by
          rw [same]
          exact List.mem_cons_self
        rw [if_pos same, if_pos present, List.map_cons, List.map_cons, same]
      · have elsewhere : name ∈ ((other, b) :: rest).map Prod.fst ↔ name ∈ rest.map Prod.fst := by
          rw [List.map_cons, List.mem_cons]
          exact ⟨fun member => member.resolve_left (Ne.symm same), Or.inr⟩
        rw [if_neg same, List.map_cons, ih]
        by_cases present : name ∈ rest.map Prod.fst
        · rw [if_pos present, if_pos (elsewhere.mpr present), List.map_cons]
        · rw [if_neg present, if_neg (mt elsewhere.mp present), List.map_cons, List.cons_append]

theorem mem_iff_lookup {entries : List (String × α)} (distinct : (entries.map Prod.fst).Nodup)
    (name : String) (a : α) : (name, a) ∈ entries ↔ entries.lookup name = some a := by
  induction entries with
  | nil => simp
  | cons entry rest ih =>
      obtain ⟨other, b⟩ := entry
      rw [List.map_cons, List.nodup_cons] at distinct
      obtain ⟨absent, distinctRest⟩ := distinct
      rw [lookup_cons, List.mem_cons, ih distinctRest]
      by_cases same : name = other
      · rw [if_pos same, ← ih distinctRest, same]
        have notLater : (other, a) ∉ rest := by
          intro later
          exact absent (List.mem_map.mpr ⟨(other, a), later, rfl⟩)
        constructor
        · rintro (here | later)
          · cases here
            rfl
          · exact absurd later notLater
        · intro here
          cases here
          exact Or.inl rfl
      · rw [if_neg same]
        constructor
        · rintro (here | later)
          · cases here
            exact absurd rfl same
          · exact later
        · exact Or.inr

theorem lookup_eq_none_iff (entries : List (String × α)) (name : String) :
    entries.lookup name = none ↔ name ∉ entries.map Prod.fst := by
  induction entries with
  | nil => simp
  | cons entry rest ih =>
      obtain ⟨other, b⟩ := entry
      rw [lookup_cons, List.map_cons, List.mem_cons]
      by_cases same : name = other
      · simp [same]
      · rw [if_neg same, ih]
        simp [same]

end Association

namespace ColumnRef

def name : ColumnRef → String
  | .raw name => name
  | .field column => column

/-- A text has to be an identifier; a declared field is taken as it is. -/
def Accepted : ColumnRef → Prop
  | .raw name => isIdentifier name = true
  | .field _ => True

instance : DecidablePred Accepted
  | .raw name => inferInstanceAs (Decidable (isIdentifier name = true))
  | .field _ => inferInstanceAs (Decidable True)

theorem column_of_accepted {ref : ColumnRef} (accepted : ref.Accepted) :
    ref.column = .ok ref.name := by
  cases ref with
  | raw name => exact if_pos accepted
  | field column => rfl

theorem column_of_refused {ref : ColumnRef} (refused : ¬ref.Accepted) :
    ref.column = .error (.invalidColumn ref.name) := by
  cases ref with
  | raw name => exact if_neg refused
  | field column => exact absurd trivial refused

end ColumnRef

namespace ChangeSet

namespace Step

def intended : Step → List (String × Value)
  | .set column value => [(column.name, value)]
  | .clear column => [(column.name, .null)]
  | .setIfPresent column value => if value = .null then [] else [(column.name, value)]
  | .setAll entries => entries.map fun entry => (entry.1.name, entry.2)

def Accepted (step : Step) : Prop := ∀ ref ∈ step.refs, ref.Accepted

instance : DecidablePred Accepted :=
  fun step => inferInstanceAs (Decidable (∀ ref ∈ step.refs, ref.Accepted))

theorem entries_of_accepted {entries : List (ColumnRef × Value)}
    (accepted : ∀ ref ∈ entries.map (·.1), ref.Accepted) :
    (entries.mapM fun entry => do return (← entry.1.column, entry.2)) =
      (.ok (entries.map fun entry => (entry.1.name, entry.2)) :
        Except Error (List (String × Value))) := by
  apply mapM_of_answers
  intro entry member
  rw [ColumnRef.column_of_accepted (accepted entry.1 (List.mem_map_of_mem member))]
  rfl

theorem entries_of_refused {entries : List (ColumnRef × Value)}
    (refused : ¬∀ ref ∈ entries.map (·.1), ref.Accepted) :
    ∃ name, (entries.mapM fun entry => do return (← entry.1.column, entry.2)) =
      (.error (.invalidColumn name) : Except Error (List (String × Value))) := by
  rw [List.forall_mem_map] at refused
  have answers (entry : ColumnRef × Value) (accepted : entry.1.Accepted) :
      ∃ answer, (do return (← entry.1.column, entry.2) : Except Error (String × Value)) =
        .ok answer := by
    rw [ColumnRef.column_of_accepted accepted]
    exact ⟨_, rfl⟩
  have fails (entry : ColumnRef × Value) (notAccepted : ¬entry.1.Accepted) :
      (do return (← entry.1.column, entry.2) : Except Error (String × Value)) =
        .error (.invalidColumn entry.1.name) := by
    rw [ColumnRef.column_of_refused notAccepted]
    rfl
  obtain ⟨entry, -, -, failed⟩ := mapM_of_refused answers fails refused
  exact ⟨entry.1.name, failed⟩

theorem assignments_of_accepted {step : Step} (accepted : step.Accepted) :
    step.assignments = .ok step.intended := by
  cases step with
  | set column value =>
      rw [assignments, ColumnRef.column_of_accepted (accepted column List.mem_cons_self)]
      rfl
  | clear column =>
      rw [assignments, ColumnRef.column_of_accepted (accepted column List.mem_cons_self)]
      rfl
  | setIfPresent column value =>
      rw [assignments, ColumnRef.column_of_accepted (accepted column List.mem_cons_self)]
      cases value <;> rfl
  | setAll entries => exact entries_of_accepted accepted

theorem assignments_of_refused {step : Step} (refused : ¬step.Accepted) :
    ∃ name, step.assignments = .error (.invalidColumn name) := by
  have single {ref : ColumnRef} (bad : ¬∀ other ∈ [ref], other.Accepted) : ¬ref.Accepted :=
    fun accepted => bad (List.forall_mem_singleton.mpr accepted)
  cases step with
  | set column value =>
      rw [assignments, ColumnRef.column_of_refused (single refused)]
      exact ⟨column.name, rfl⟩
  | clear column =>
      rw [assignments, ColumnRef.column_of_refused (single refused)]
      exact ⟨column.name, rfl⟩
  | setIfPresent column value =>
      rw [assignments, ColumnRef.column_of_refused (single refused)]
      exact ⟨column.name, rfl⟩
  | setAll entries => exact entries_of_refused refused

end Step

theorem apply_of_accepted (changes : ChangeSet) {step : Step} (accepted : step.Accepted) :
    changes.apply step = .ok (step.intended.foldl put changes) := by
  rw [apply, Step.assignments_of_accepted accepted]
  rfl

theorem apply_of_refused (changes : ChangeSet) {step : Step} (refused : ¬step.Accepted) :
    ∃ name, changes.apply step = .error (.invalidColumn name) := by
  obtain ⟨name, failed⟩ := Step.assignments_of_refused refused
  rw [apply, failed]
  exact ⟨name, rfl⟩

/-- What the accepted steps of a run are meant to assign, one after the other. -/
def assigned (steps : List Step) : List (String × Value) :=
  (steps.filter fun step => step.Accepted).flatMap Step.intended

theorem keep_all (steps : List Step) (changes : ChangeSet) :
    steps.foldl keep changes = (assigned steps).foldl put changes := by
  induction steps generalizing changes with
  | nil => rfl
  | cons step rest ih =>
      rw [List.foldl_cons, ih, assigned, assigned]
      by_cases accepted : step.Accepted
      · rw [List.filter_cons_of_pos (by simpa using accepted), List.flatMap_cons,
          List.foldl_append, keep, apply_of_accepted changes accepted]
      · obtain ⟨name, failed⟩ := apply_of_refused changes accepted
        rw [List.filter_cons_of_neg (by simpa using accepted), keep, failed]

/-- The value is assigned to the column, and nothing is assigned to it later. -/
def LastAssigned (assigned : List (String × Value)) (column : String) (value : Value) : Prop :=
  ∃ before after, assigned = before ++ (column, value) :: after ∧ column ∉ after.map Prod.fst

theorem last_assigned_append_iff (assigned : List (String × Value)) (last : String × Value)
    (column : String) (value : Value) :
    LastAssigned (assigned ++ [last]) column value ↔
      if column = last.1 then value = last.2 else LastAssigned assigned column value := by
  obtain ⟨name, given⟩ := last
  constructor
  · rintro ⟨before, after, split, notLater⟩
    -- The last assignment is either the one that is looked at or one of those after it.
    rcases List.eq_nil_or_concat after with rfl | ⟨front, final, rfl⟩
    · have ends := List.append_inj_right' split rfl
      cases ends
      exact (if_pos rfl).mpr rfl
    · rw [List.concat_eq_append, ← List.cons_append, ← List.append_assoc] at split
      have ends := List.append_inj_right' split rfl
      have fronts := List.append_inj_left' split rfl
      cases ends
      rw [List.concat_eq_append, List.map_append, List.mem_append, not_or] at notLater
      have differ : column ≠ name := fun same => notLater.2 (same ▸ List.mem_cons_self)
      rw [if_neg differ]
      exact ⟨before, front, fronts, notLater.1⟩
  · intro holds
    by_cases same : column = name
    · rw [if_pos same] at holds
      rw [same, holds]
      exact ⟨assigned, [], rfl, List.not_mem_nil⟩
    · rw [if_neg same] at holds
      obtain ⟨before, after, rfl, notLater⟩ := holds
      refine ⟨before, after ++ [(name, given)], ?_, ?_⟩
      · rw [List.append_assoc, List.cons_append]
      · rw [List.map_append, List.mem_append, not_or]
        exact ⟨notLater, by simpa using same⟩

/-- A change set sums assignments up: every column that was assigned stands in it once, in the
order of the first assignments, and with the value that was assigned last. -/
structure Summarizes (changes : ChangeSet) (assigned : List (String × Value)) : Prop where
  complete : ∀ column, column ∈ changes.columns ↔ column ∈ assigned.map Prod.fst
  distinct : changes.columns.Nodup
  ordered : changes.columns.Pairwise fun earlier later =>
    (assigned.map Prod.fst).idxOf earlier < (assigned.map Prod.fst).idxOf later
  listed : ∀ column value,
    (column, value) ∈ changes.entries ↔ LastAssigned assigned column value
  found : ∀ column value, changes.get? column = some value ↔ LastAssigned assigned column value
  absent : ∀ column, changes.get? column = none ↔ column ∉ assigned.map Prod.fst
  size : changes.entries.length = (assigned.map Prod.fst).toFinset.card

theorem columns_put (changes : ChangeSet) (assignment : String × Value) :
    (changes.put assignment).columns =
      if assignment.1 ∈ changes.columns then changes.columns
      else changes.columns ++ [assignment.1] :=
  Association.names_put assignment.1 assignment.2 changes.entries

/-- The columns come in the order of the first assignments. -/
theorem columns_put_all (assigned : List (String × Value)) :
    (∀ column, column ∈ (assigned.foldl put empty).columns ↔ column ∈ assigned.map Prod.fst) ∧
      (assigned.foldl put empty).columns.Nodup ∧
      (assigned.foldl put empty).columns.Pairwise fun earlier later =>
        (assigned.map Prod.fst).idxOf earlier < (assigned.map Prod.fst).idxOf later := by
  induction assigned using List.reverseRecOn with
  | nil => exact ⟨fun _ => Iff.rfl, .nil, .nil⟩
  | append_singleton before last ih =>
      obtain ⟨complete, distinct, ordered⟩ := ih
      -- The places of the columns there are do not move.
      have stay : (before.foldl put empty).columns.Pairwise fun earlier later =>
          (before.map Prod.fst ++ [last.1]).idxOf earlier <
            (before.map Prod.fst ++ [last.1]).idxOf later := by
        apply ordered.imp_of_mem
        intro earlier later earlierMember laterMember less
        rwa [List.idxOf_append_of_mem ((complete earlier).mp earlierMember),
          List.idxOf_append_of_mem ((complete later).mp laterMember)]
      rw [List.foldl_append, List.foldl_cons, List.foldl_nil, columns_put, List.map_append,
        List.map_cons, List.map_nil]
      by_cases present : last.1 ∈ (before.foldl put empty).columns
      · rw [if_pos present]
        refine ⟨?_, distinct, stay⟩
        intro column
        rw [complete column, List.mem_append, List.mem_singleton]
        constructor
        · exact Or.inl
        · rintro (member | rfl)
          · exact member
          · exact (complete last.1).mp present
      · rw [if_neg present]
        refine ⟨?_, ?_, ?_⟩
        · intro column
          rw [List.mem_append, List.mem_append, complete column]
        · rw [List.nodup_append']
          refine ⟨distinct, List.nodup_singleton last.1, ?_⟩
          rw [List.disjoint_singleton]
          exact present
        · rw [List.pairwise_append]
          refine ⟨stay, List.pairwise_singleton _ _, ?_⟩
          intro earlier earlierMember later laterMember
          rw [List.mem_singleton.mp laterMember]
          have wasAssigned := (complete earlier).mp earlierMember
          have notYet := mt (complete last.1).mpr present
          rw [List.idxOf_append_of_mem wasAssigned, List.idxOf_append_of_notMem notYet]
          exact Nat.lt_add_right _ (List.idxOf_lt_length_of_mem wasAssigned)

/-- A column has the value that it was assigned last. -/
theorem get?_put_all (assigned : List (String × Value)) (column : String) (value : Value) :
    (assigned.foldl put empty).get? column = some value ↔
      LastAssigned assigned column value := by
  induction assigned using List.reverseRecOn with
  | nil =>
      constructor
      · intro found
        cases found
      · rintro ⟨before, after, split, -⟩
        exact absurd split.symm (List.append_ne_nil_of_right_ne_nil before (List.cons_ne_nil _ _))
  | append_singleton before last ih =>
      rw [List.foldl_append, List.foldl_cons, List.foldl_nil, get?_put,
        last_assigned_append_iff]
      by_cases same : column = last.1
      · rw [if_pos same, if_pos same, Option.some.injEq, eq_comm]
      · rw [if_neg same, if_neg same]
        exact ih

theorem put_all_summarizes (assigned : List (String × Value)) :
    (assigned.foldl put empty).Summarizes assigned := by
  obtain ⟨complete, distinct, ordered⟩ := columns_put_all assigned
  refine ⟨complete, distinct, ordered, ?_, get?_put_all assigned, ?_, ?_⟩
  · intro column value
    rw [Association.mem_iff_lookup distinct]
    exact get?_put_all assigned column value
  · intro column
    rw [get?, Association.lookup_eq_none_iff, ← complete column]
    rfl
  · have sameColumns : (assigned.foldl put empty).columns.toFinset =
        (assigned.map Prod.fst).toFinset := by
      ext column
      rw [List.mem_toFinset, List.mem_toFinset]
      exact complete column
    rw [← sameColumns, List.toFinset_card_of_nodup distinct, columns, List.length_map]

/-- A step succeeds exactly when all its columns are accepted, and a run of steps, in which some
may fail, leaves the sum of what the accepted steps were meant to assign. -/
theorem run_sums_assignments (steps : List Step) :
    (∀ (changes : ChangeSet) (step : Step),
      (∃ next, changes.apply step = .ok next) ↔ step.Accepted) ∧
      (reached steps).Summarizes (assigned steps) := by
  constructor
  · intro changes step
    constructor
    · rintro ⟨next, applied⟩
      by_contra refused
      obtain ⟨name, failed⟩ := changes.apply_of_refused refused
      rw [failed] at applied
      cases applied
    · intro accepted
      exact ⟨_, changes.apply_of_accepted accepted⟩
  · rw [reached, keep_all]
    exact put_all_summarizes (assigned steps)

def amendments : List Step :=
  [.set (.raw "name") (.text "Ann"), .clear (.raw "email"),
    .setAll [(.raw "rank", .int 3), (.raw "x=1 --", .int 4)], .setIfPresent (.raw "age") .null,
    .set (.raw "name") (.text "Bo"), .setIfPresent (.field "left") (.bool true)]

example : (reached amendments).entries =
    [("name", .text "Bo"), ("email", .null), ("left", .bool true)] := by
  decide

end ChangeSet

end BoundSql
