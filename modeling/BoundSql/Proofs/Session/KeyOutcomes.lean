import Mathlib
import BoundSql.Proofs.Command.Binding
import BoundSql.Proofs.Session.Keying

/-!
What is left when keys were to be assigned. A key that is there is never written over, and a
source is asked only for a key that is missing, once, and only if the strategy and the declared
type permit it. A key is reported exactly if it was produced and stored; in all other cases, and
these include every failure, the entity is as it was. In a list the first failure is the last step.
-/

namespace BoundSql

variable {σ α : Type}

theorem EntityType.LacksKey.sole {type : EntityType α} {mapping : Mapping} {key : Field}
    {entity : α} (lacks : type.LacksKey mapping key entity) : type.schema.keys = [key] := by
  have required : mapping.requireKey = .ok key := by
    rw [Mapping.requireKey, lacks.isKey]
  rw [← Schema.to_schema_of_mapping lacks.mapped]
  exact Mapping.keys_of_require_key required

theorem EntityType.LacksKey.unique {type : EntityType α} {mapping other : Mapping}
    {key otherKey : Field} {entity : α} (lacks : type.LacksKey mapping key entity)
    (lacksToo : type.LacksKey other otherKey entity) : mapping = other ∧ key = otherKey := by
  have sameMapping : mapping = other :=
    Except.ok.inj (lacks.mapped.symm.trans lacksToo.mapped)
  have isKey := lacks.isKey
  rw [sameMapping, lacksToo.isKey] at isKey
  exact ⟨sameMapping, (Option.some.inj isKey).symm⟩

namespace KeySources

variable {sources : KeySources σ} {type : EntityType α} {entity : α} {mapping : Mapping}
  {key : Field} {name : String} {drawn : List Drawn}

theorem Produced.drawn_of_present {value : Value}
    (production : sources.Produced name key (.ok value) drawn) (present : value.isNull = false) :
    ∃ origin, sources.Permits name key origin ∧ drawn = [⟨origin, .ok value⟩] := by
  cases production with
  | left unassigned => cases present
  | drawn answer permits => exact ⟨_, permits, rfl⟩

theorem Produced.answer_of_drawn {answer given : Except Error Value} {origin : KeyOrigin}
    (production : sources.Produced name key answer [⟨origin, given⟩]) : answer = given := by
  cases production with
  | drawn answer permits => rfl

theorem Produced.drawn_at_most_once {answer : Except Error Value}
    (production : sources.Produced name key answer drawn) : drawn.length ≤ 1 := by
  cases production with
  | drawn answer permits => exact Nat.le_refl 1
  | _ => exact Nat.zero_le 1

theorem Produced.permitted {answer : Except Error Value}
    (production : sources.Produced name key answer drawn) :
    ∀ request ∈ drawn, sources.Permits name key request.origin := by
  cases production with
  | drawn answer permits => exact List.forall_mem_singleton.mpr permits
  | _ => exact List.forall_mem_nil _

/-- What holds when a key was to be assigned: of the entity, the report, and what was drawn. -/
structure Assigned (sources : KeySources σ) (type : EntityType α) (entity : α)
    (answer : α × Except Error (Option Value)) (drawn : List Drawn) : Prop where
  settled : sources.Settled type entity answer drawn
  /-- A key is reported exactly if it was produced for a lack of one, and stored. -/
  reported_iff : ∀ value, answer.2 = .ok (some value) ↔
    ∃ mapping key, type.LacksKey mapping key entity ∧ type.schema.keys = [key] ∧
      value.isNull = false ∧ sources.Produced mapping.entity key (.ok value) drawn ∧
      type.store entity key.name value = .ok answer.1
  values : ∀ value, answer.2 = .ok (some value) → ∃ key, type.schema.keys = [key] ∧
    ∀ name, type.value? answer.1 name =
      if name = key.name then some value else type.value? entity name
  unchanged : (∀ value, answer.2 ≠ .ok (some value)) → answer.1 = entity
  once : drawn.length ≤ 1
  permitted : ∀ request ∈ drawn, ∃ mapping key, type.LacksKey mapping key entity ∧
    type.schema.keys = [key] ∧ sources.Permits mapping.entity key request.origin

section Outcome

variable {answer : α × Except Error (Option Value)}

theorem Settled.unchanged (settled : sources.Settled type entity answer drawn)
    (unreported : ∀ value, answer.2 ≠ .ok (some value)) : answer.1 = entity := by
  cases settled with
  | stored lacks production present stored => exact absurd rfl (unreported _)
  | _ => rfl

theorem Settled.stored_of_reported (settled : sources.Settled type entity answer drawn)
    {value : Value} (reported : answer.2 = .ok (some value)) :
    ∃ mapping key, type.LacksKey mapping key entity ∧ value.isNull = false ∧
      sources.Produced mapping.entity key (.ok value) drawn ∧
      type.store entity key.name value = .ok answer.1 := by
  cases settled with
  | stored lacks production present stored =>
      cases reported
      exact ⟨_, _, lacks, present, production, stored⟩
  | _ => cases reported

theorem Settled.reported_of_stored (settled : sources.Settled type entity answer drawn)
    {value : Value} (lacks : type.LacksKey mapping key entity) (present : value.isNull = false)
    (production : sources.Produced mapping.entity key (.ok value) drawn)
    (stored : type.store entity key.name value = .ok answer.1) :
    answer.2 = .ok (some value) := by
  obtain ⟨origin, _, once⟩ := production.drawn_of_present present
  subst once
  cases settled with
  | failed lacksToo productionToo => cases productionToo.answer_of_drawn
  | null lacksToo productionToo null =>
      cases productionToo.answer_of_drawn
      rw [present] at null
      cases null
  | refused lacksToo productionToo presentToo failed =>
      obtain ⟨_, sameKey⟩ := lacks.unique lacksToo
      cases productionToo.answer_of_drawn
      rw [← sameKey, stored] at failed
      cases failed
  | stored lacksToo productionToo presentToo storedToo =>
      cases productionToo.answer_of_drawn
      rfl

theorem Settled.drawn_permitted (settled : sources.Settled type entity answer drawn) :
    drawn = [] ∨ drawn.length ≤ 1 ∧ ∃ mapping key, type.LacksKey mapping key entity ∧
      ∀ request ∈ drawn, sources.Permits mapping.entity key request.origin := by
  cases settled with
  | unmapped | keyless | given => exact Or.inl rfl
  | failed lacks production | null lacks production | refused lacks production
  | stored lacks production =>
      exact Or.inr ⟨production.drawn_at_most_once, _, _, lacks, production.permitted⟩

theorem Settled.assigned (lawful : type.StoresOne)
    (settled : sources.Settled type entity answer drawn) :
    sources.Assigned type entity answer drawn where
  settled := settled
  reported_iff value := by
    constructor
    · intro reported
      obtain ⟨mapping, key, lacks, present, production, stored⟩ :=
        settled.stored_of_reported reported
      exact ⟨mapping, key, lacks, lacks.sole, present, production, stored⟩
    · intro wrote
      obtain ⟨mapping, key, lacks, _, present, production, stored⟩ := wrote
      exact settled.reported_of_stored lacks present production stored
  values value reported := by
    obtain ⟨mapping, key, lacks, _, _, stored⟩ := settled.stored_of_reported reported
    exact ⟨key, lacks.sole, lawful entity key.name value answer.1 stored⟩
  unchanged := settled.unchanged
  once := by
    obtain nothing | ⟨once, _⟩ := settled.drawn_permitted
    · rw [nothing]
      exact Nat.zero_le 1
    · exact once
  permitted request member := by
    obtain nothing | ⟨_, mapping, key, lacks, permitted⟩ := settled.drawn_permitted
    · rw [nothing] at member
      cases member
    · exact ⟨mapping, key, lacks, lacks.sole, permitted request member⟩

end Outcome

theorem assign_outcome (sources : KeySources σ) (type : EntityType α) (lawful : type.StoresOne)
    (entity : α) :
    Journals ((sources.journaled id).assign type entity) (sources.assign type entity)
      (sources.Assigned type entity) := by
  apply (sources.assign_settles id type entity).weaken
  intro answer added assigned
  obtain ⟨drawn, noted, settled⟩ := assigned
  rw [noted, List.map_id]
  exact settled.assigned lawful

/-- Assigning keys to a list: what becomes of it, the count or the error, the host that is left,
and what was drawn. -/
inductive AssignedAll (sources : KeySources σ) (type : EntityType α) :
    List α → σ → (List α × Except Error Nat) × σ → List Drawn → Prop where
  | complete {entities keyed : List α} {keys : List (Option Value)} {s final : σ}
      {drawn : List Drawn}
      (passed : Passed (sources.assign type) (sources.Assigned type) entities s keyed keys final
        drawn) :
      AssignedAll sources type entities s ((keyed, .ok (keys.countP Option.isSome)), final) drawn
  /-- The entity that fails and those after it are as they were, and nothing is drawn for these. -/
  | stopped {before keyed after : List α} {entity : α} {keys : List (Option Value)}
      {s between final : σ} {drawn last : List Drawn} {e : Error}
      (passed : Passed (sources.assign type) (sources.Assigned type) before s keyed keys between
        drawn)
      (ran : sources.assign type entity between = ((entity, .error e), final))
      (failed : sources.Assigned type entity (entity, .error e) last) :
      AssignedAll sources type (before ++ entity :: after) s
        ((keyed ++ entity :: after, .error e), final) (drawn ++ last)

theorem assigned_all_of_proceeds {entities : List α} {s : σ}
    {reached : (List α × Except Error (List (Option Value))) × σ}
    (proceeds : Proceeds (sources.assign type) (sources.Assigned type) entities s reached drawn) :
    sources.AssignedAll type entities s
      ((reached.1.1, reached.1.2.map fun keys => keys.countP Option.isSome), reached.2) drawn := by
  cases proceeds with
  | complete passed => exact .complete passed
  | @stopped before nexts after a stuck bs e s between final added last passed ran failed =>
      have same : stuck = a := failed.unchanged nofun
      subst same
      exact .stopped passed ran failed

/-- Keys are assigned where they are missing, and nowhere else is anything changed or drawn; a
list is gone through up to the first failure. -/
theorem missing_keys_assigned (sources : KeySources σ) (type : EntityType α)
    (lawful : type.StoresOne) :
    (∀ entity s, ∃ drawn,
      (sources.journaled id).assign type entity (s, []) =
        ((sources.assign type entity s).1, ((sources.assign type entity s).2, drawn)) ∧
      sources.Assigned type entity (sources.assign type entity s).1 drawn) ∧
    ∀ entities s, ∃ drawn,
      (sources.journaled id).assignAll type entities (s, []) =
        ((sources.assignAll type entities s).1, ((sources.assignAll type entities s).2, drawn)) ∧
      sources.AssignedAll type entities s (sources.assignAll type entities s) drawn := by
  have each := sources.assign_outcome type lawful
  constructor
  · intro entity s
    exact each entity s []
  · intro entities s
    obtain ⟨drawn, same, proceeds⟩ := advance_proceeds each entities s []
    refine ⟨drawn, ?_, assigned_all_of_proceeds proceeds⟩
    show ((_, _), _) = _
    rw [same]
    rfl

end KeySources

def tickets : EntityType Row where
  schema := ⟨"Ticket", "ticket", [⟨"no", "no", .bigInt, some .snowflake, false, none, .never⟩]⟩
  row := id
  store row field value :=
    if (row.value? "torn").isSome then .error (.unknownField "Ticket" field)
    else .ok (row.store field value)

theorem tickets_store_one : tickets.StoresOne := by
  intro row field value stored storing other
  have unfolded : (if (row.value? "torn").isSome then
      Except.error (Error.unknownField "Ticket" field)
      else .ok (row.store field value)) = Except.ok stored := storing
  split at unfolded
  · cases unfolded
  · rw [← Except.ok.inj unfolded]
    exact Row.value?_store row field other value

def counter : KeySources Nat where
  nextId := fun n => (.ok (.ofNat n), n + 1)
  uuid := pure ""
  generators := .empty

/-- The first ticket is numbered and the second one has a number. The number that is drawn for the
third one is lost, and none is drawn for the last. -/
theorem torn_ticket_unnumbered :
    tickets.StoresOne ∧
    (∃ drawn, (counter.journaled id).assign tickets [] (4, []) =
        (([("no", .bigInt 4)], .ok (some (.bigInt 4))), (5, drawn)) ∧
      counter.Assigned tickets [] ([("no", .bigInt 4)], .ok (some (.bigInt 4))) drawn) ∧
    ∃ drawn reached,
      (counter.journaled id).assignAll tickets
        [[], [("no", .bigInt 7)], [("torn", .bool true)], []] (0, []) =
        (reached, (2, drawn)) ∧
      reached = ([[("no", .bigInt 0)], [("no", .bigInt 7)], [("torn", .bool true)], []],
        .error (.unknownField "Ticket" "no")) ∧
      counter.AssignedAll tickets [[], [("no", .bigInt 7)], [("torn", .bool true)], []] 0
        (reached, 2) drawn := by
  obtain ⟨one, all⟩ := counter.missing_keys_assigned tickets tickets_store_one
  obtain ⟨drawn, same, assigned⟩ := one [] 4
  obtain ⟨allDrawn, sameAll, assignedAll⟩ :=
    all [[], [("no", .bigInt 7)], [("torn", .bool true)], []] 0
  exact ⟨tickets_store_one, ⟨drawn, same, assigned⟩, allDrawn, _, sameAll, rfl, assignedAll⟩

end BoundSql
