import Mathlib
import BoundSql.Proofs.Session.BatchTrace
import BoundSql.Proofs.Session.Filling
import BoundSql.Proofs.Session.Keying

/-!
The phases of inserting a list of entities. A statement is looked up before anything else is
done. Then all entities are filled, then all get their keys, and only then is the executor
called. A phase that fails at some entity leaves the entities before it finished, those after it
untouched, and no later phase is begun; the journal of the host's part tells the phases apart.
-/

namespace BoundSql

variable {σ ε α : Type}

inductive Event (α : Type) where
  | asked (question : Asked)
  | drew (request : Drawn)
  | called (call : Call α)

theorem OperationRegistry.require_cases (registry : OperationRegistry) (id : String)
    (kind : OperationKind) :
    (∃ operation, registry.find? id = some operation ∧ operation.kind = kind ∧
      registry.require id kind = .ok operation) ∨
    ∃ e, registry.require id kind = .error e ∧
      ∀ operation, registry.find? id = some operation → operation.kind ≠ kind := by
  unfold require get
  cases found : registry.find? id with
  | none => exact Or.inr ⟨_, rfl, nofun⟩
  | some operation =>
      by_cases same : operation.kind = kind
      · refine Or.inl ⟨operation, rfl, same, ?_⟩
        show (if operation.kind = kind then _ else _) = _
        rw [if_pos same]
        rfl
      · refine Or.inr ⟨_, if_neg same, ?_⟩
        intro other equal
        rw [← Option.some.inj equal]
        exact same

namespace Dispatcher

def journaled (dispatcher : Dispatcher σ) : Dispatcher (σ × List (Event α)) where
  operations := dispatcher.operations
  sources := dispatcher.sources.journaled .drew
  batchSize := dispatcher.batchSize
  handler := dispatcher.handler.map fun handler => handler.journaled .asked

/-- Inserting a list of entities: what becomes of them, the result, and the journal. -/
inductive Inserted (dispatcher : Dispatcher σ) (type : EntityType α) (id : String) :
    List α → List α × Except Error Nat → List (Event α) → Prop where
  | refused (entities : List α) (e : Error)
      (unregistered : ∀ operation, dispatcher.operations.find? id = some operation →
        operation.kind ≠ .insert) :
      Inserted dispatcher type id entities (entities, .error e) []
  | fillFailed {operation : Operation} {before filled after : List α} {entity stuck : α}
      {counts : List Nat} {asked last : List Asked} {e : Error}
      (found : dispatcher.operations.find? id = some operation)
      (isInsert : operation.kind = .insert)
      (filling : Swept (dispatcher.Filling type .insert) before filled counts asked)
      (failed : dispatcher.Filling type .insert entity (stuck, .error e) last) :
      Inserted dispatcher type id (before ++ entity :: after)
        (filled ++ stuck :: after, .error e) ((asked ++ last).map .asked)
  | keyFailed {operation : Operation} {entities before keyed after : List α} {entity : α}
      {counts : List Nat} {keys : List (Option Value)} {asked : List Asked}
      {drawn last : List Drawn} {e : Error}
      (found : dispatcher.operations.find? id = some operation)
      (isInsert : operation.kind = .insert)
      (filling : Swept (dispatcher.Filling type .insert) entities (before ++ entity :: after)
        counts asked)
      (keying : Swept (KeySources.Keying type) before keyed keys drawn)
      (failed : KeySources.Keying type entity (entity, .error e) last) :
      Inserted dispatcher type id entities (keyed ++ entity :: after, .error e)
        (asked.map .asked ++ (drawn ++ last).map .drew)
  | executed {operation : Operation} {entities filled keyed : List α} {counts : List Nat}
      {keys : List (Option Value)} {asked : List Asked} {drawn : List Drawn}
      {calls : List (Call α)} {result : Except Error Nat}
      (found : dispatcher.operations.find? id = some operation)
      (isInsert : operation.kind = .insert)
      (filling : Swept (dispatcher.Filling type .insert) entities filled counts asked)
      (keying : Swept (KeySources.Keying type) filled keyed keys drawn)
      (trace : dispatcher.batchSize.Trace operation (.list keyed) calls result)
      (sent : calls.flatMap (·.parameter.items) <+: keyed)
      (sentAll : ∀ n, result = .ok n → calls.flatMap (·.parameter.items) = keyed) :
      Inserted dispatcher type id entities (keyed, result)
        (asked.map .asked ++ drawn.map .drew ++ calls.map .called)

theorem and_then_journals {β γ δ : Type} {kept : StateM (σ × List ε) (β × Except Error δ)}
    {action : StateM σ (β × Except Error δ)}
    {keptNext : β → StateM (σ × List ε) (β × Except Error γ)}
    {next : β → StateM σ (β × Except Error γ)}
    {contract : β × Except Error δ → List ε → Prop}
    (first : Journals kept action contract)
    (further : β → β × Except Error γ → List ε → Prop)
    (second : ∀ b, Journals (keptNext b) (next b) (further b)) :
    Journals (andThen kept keptNext) (andThen action next) fun answer added =>
      (∃ b e, answer = (b, .error e) ∧ contract (b, .error e) added) ∨
        ∃ b d before after, added = before ++ after ∧ contract (b, .ok d) before ∧
          further b answer after := by
  -- The next phase is begun with what the first one left, or not at all.
  apply (first.bind (fun before answer added =>
    (∃ b e, before = (b, .error e) ∧ answer = (b, .error e) ∧ added = []) ∨
      ∃ b d, before = (b, .ok d) ∧ further b answer added) ?_).weaken
  · intro answer added ran
    obtain ⟨reached, before, after, both, holds, failed | succeeded⟩ := ran
    · obtain ⟨b, e, same, answered, nothing⟩ := failed
      rw [nothing, List.append_nil] at both
      rw [same, ← both] at holds
      exact Or.inl ⟨b, e, answered, holds⟩
    · obtain ⟨b, d, same, later⟩ := succeeded
      rw [same] at holds
      exact Or.inr ⟨b, d, before, after, both, holds, later⟩
  · intro reached
    obtain ⟨b, result⟩ := reached
    cases result with
    | error e => exact .finished (Or.inl ⟨b, e, rfl, rfl, rfl⟩)
    | ok d => exact (second b).weaken fun _ _ later => Or.inr ⟨b, d, rfl, later⟩

theorem assign_all_journals (note : Drawn → ε) (sources : KeySources σ) (type : EntityType α)
    (lawful : type.StoresOne) (entities : List α) :
    Journals ((sources.journaled note).assignAll type entities) (sources.assignAll type entities)
      fun answer added => ∃ drawn keys, added = drawn.map note ∧
        Advanced (KeySources.Keying type) entities (answer.1, keys) drawn ∧
        answer.2 = keys.map fun assigned => assigned.countP Option.isSome := by
  have assigned := advance_journals
    (fun entity => sources.assign_journals note type lawful entity) entities
  apply (assigned.bind _ fun reached => Journals.pure _).weaken
  intro answer added ran
  obtain ⟨reached, before, after, both, advanced, same, nothing⟩ := ran
  obtain ⟨drawn, noted, keying⟩ := advanced.of_notes
  rw [nothing, List.append_nil] at both
  rw [same]
  exact ⟨drawn, reached.2, both.trans noted, keying, rfl⟩

theorem execute_list_journals (note : Call α → ε) (dispatcher : Dispatcher σ)
    (other : Dispatcher (σ × List ε)) (sameSize : other.batchSize = dispatcher.batchSize)
    (executor : Executor σ α) (operation : Operation) (entities : List α) :
    Journals
      (do return (entities, ← other.execute (executor.journaled note) operation (.list entities)))
      (do return (entities, ← dispatcher.execute executor operation (.list entities)))
      fun answer added => ∃ calls, added = calls.map note ∧ answer.1 = entities ∧
        dispatcher.batchSize.Trace operation (.list entities) calls answer.2 := by
  unfold execute
  rw [sameSize]
  have executed := dispatcher.batchSize.execute_journals note executor operation
    (.list entities)
  apply (executed.bind _ fun result => Journals.pure _).weaken
  intro answer added ran
  obtain ⟨result, before, after, both, ⟨calls, noted, trace⟩, same, nothing⟩ := ran
  rw [nothing, List.append_nil] at both
  rw [same]
  exact ⟨calls, both.trans noted, rfl, trace⟩

section Phases

variable {dispatcher : Dispatcher σ} {type : EntityType α} {id : String} {operation : Operation}
  {entities filled : List α}

theorem inserted_of_fill_failure {e : Error} {asked : List Asked}
    (found : dispatcher.operations.find? id = some operation)
    (isInsert : operation.kind = .insert)
    (filling : Advanced (dispatcher.Filling type .insert) entities (filled, .error e) asked) :
    dispatcher.Inserted type id entities (filled, .error e) (asked.map .asked) := by
  cases filling with
  | stopped swept failed => exact .fillFailed found isInsert swept failed

theorem inserted_of_key_failure {keyed : List α} {counts : List Nat} {e : Error}
    {asked : List Asked} {drawn : List Drawn}
    (found : dispatcher.operations.find? id = some operation)
    (isInsert : operation.kind = .insert)
    (filling : Swept (dispatcher.Filling type .insert) entities filled counts asked)
    (keying : Advanced (KeySources.Keying type) filled (keyed, .error e) drawn) :
    dispatcher.Inserted type id entities (keyed, .error e)
      (asked.map .asked ++ drawn.map .drew) := by
  cases keying with
  | stopped swept failed =>
      have same := failed.entity_of_error
      subst same
      exact .keyFailed found isInsert filling swept failed

theorem inserted_of_calls {keyed : List α} {counts : List Nat} {keys : List (Option Value)}
    {asked : List Asked} {drawn : List Drawn} {calls : List (Call α)} {result : Except Error Nat}
    (found : dispatcher.operations.find? id = some operation)
    (isInsert : operation.kind = .insert)
    (filling : Swept (dispatcher.Filling type .insert) entities filled counts asked)
    (keying : Swept (KeySources.Keying type) filled keyed keys drawn)
    (trace : dispatcher.batchSize.Trace operation (.list keyed) calls result) :
    dispatcher.Inserted type id entities (keyed, result)
      (asked.map .asked ++ drawn.map .drew ++ calls.map .called) := by
  obtain ⟨sent, sentAll⟩ := trace.items_sent
  exact .executed found isInsert filling keying trace sent sentAll

end Phases

theorem later_phases_journals (dispatcher : Dispatcher σ) (type : EntityType α)
    (lawful : type.StoresOne) (executor : Executor σ α) {id : String} {operation : Operation}
    (found : dispatcher.operations.find? id = some operation)
    (isInsert : operation.kind = .insert) (entities filled : List α) :
    Journals
      (andThen (dispatcher.journaled.sources.assignAll type filled) fun keyed => do
        return (keyed, ← dispatcher.journaled.execute (executor.journaled Event.called) operation
          (.list keyed)))
      (andThen (dispatcher.sources.assignAll type filled) fun keyed => do
        return (keyed, ← dispatcher.execute executor operation (.list keyed)))
      fun answer added => ∀ counts asked,
        Swept (dispatcher.Filling type .insert) entities filled counts asked →
          dispatcher.Inserted type id entities answer (asked.map .asked ++ added) := by
  have pipeline := and_then_journals
    (assign_all_journals (Event.drew (α := α)) dispatcher.sources type lawful filled) _
      fun keyed => execute_list_journals Event.called dispatcher dispatcher.journaled rfl executor
        operation keyed
  apply pipeline.weaken
  intro answer added ran counts asked filling
  obtain ⟨keyed, e, failed, drawn, keys, noted, keying, same⟩ |
    ⟨keyed, count, before, after, both, ⟨drawn, keys, noted, keying, same⟩, sent⟩ := ran
  · cases keys with
    | ok assigned => cases same
    | error e' =>
        have equal : e = e' := Except.error.inj same
        rw [failed, noted, equal]
        exact inserted_of_key_failure found isInsert filling keying
  · obtain ⟨calls, called, unchanged, trace⟩ := sent
    cases keying with
    | stopped _ _ => cases same
    | complete keying =>
        obtain ⟨final, result⟩ := answer
        dsimp only at unchanged trace
        rw [both, noted, called, unchanged, ← List.append_assoc]
        exact inserted_of_calls found isInsert filling keying trace

theorem insert_all_journals (dispatcher : Dispatcher σ) (type : EntityType α)
    (lawful : type.StoresOne) (executor : Executor σ α) (id : String) (entities : List α) :
    Journals (dispatcher.journaled.insertAll type (executor.journaled .called) id entities)
      (dispatcher.insertAll type executor id entities)
      (dispatcher.Inserted type id entities) := by
  unfold insertAll withOperation
  have sameOperations : (dispatcher.journaled (α := α)).operations = dispatcher.operations := rfl
  rw [sameOperations]
  obtain ⟨operation, found, isInsert, required⟩ | ⟨e, required, unregistered⟩ :=
    OperationRegistry.require_cases dispatcher.operations id .insert
  · rw [required]
    have filled := advance_journals (fun entity =>
      fill_journals (Event.asked (α := α)) dispatcher dispatcher.journaled rfl type lawful .insert
        entity) entities
    apply (and_then_journals filled _ fun reached =>
      later_phases_journals dispatcher type lawful executor found isInsert entities reached).weaken
    intro answer added ran
    obtain ⟨reached, e, failed, filling⟩ | ⟨reached, counts, before, after, both, filling, later⟩ :=
      ran
    · obtain ⟨asked, noted, filling⟩ := filling.of_notes
      rw [failed, noted]
      exact inserted_of_fill_failure found isInsert filling
    · obtain ⟨asked, noted, filling⟩ := filling.of_notes
      cases filling with
      | complete filling =>
          rw [both, noted]
          exact later counts asked filling
  · rw [required]
    exact .finished (.refused entities e unregistered)

/-- Inserting a list runs through its phases as told by the journal, and keeping the journal
changes neither the result nor what becomes of the host. -/
theorem insert_all_phases (dispatcher : Dispatcher σ) (type : EntityType α)
    (lawful : type.StoresOne) (executor : Executor σ α) (id : String) (entities : List α) (s : σ) :
    ∃ events,
      dispatcher.journaled.insertAll type (executor.journaled .called) id entities (s, []) =
        ((dispatcher.insertAll type executor id entities s).1,
          ((dispatcher.insertAll type executor id entities s).2, events)) ∧
      dispatcher.Inserted type id entities (dispatcher.insertAll type executor id entities s).1
        events := by
  obtain ⟨events, same, inserted⟩ :=
    dispatcher.insert_all_journals type lawful executor id entities s []
  exact ⟨events, same, inserted⟩

end Dispatcher

def visits : EntityType Row where
  schema :=
    ⟨"Visit", "visit",
      [⟨"id", "id", .bigInt, some .snowflake, false, none, .never⟩,
        ⟨"at", "at", .bigInt, none, false, none, .onInsert⟩]⟩
  row := id
  store row field value := .ok (row.store field value)

theorem visits_store_one : visits.StoresOne := by
  intro row field value stored storing other
  have same : row.store field value = stored := Except.ok.inj storing
  rw [← same]
  exact Row.value?_store row field other value

/-- A host that counts what it is asked for, and stops at the fifth time. -/
def reception : Dispatcher Nat where
  operations := ⟨[("enter", ⟨"enter", .insert, true⟩)]⟩
  sources :=
    { nextId := fun n => (if n = 4 then .error .clockStopped else .ok (.ofNat n), n + 1)
      uuid := pure ""
      generators := .empty }
  batchSize := ⟨2, by decide⟩
  handler := some
    { value := fun _ _ _ n => (some (.bigInt (.ofNat n)), n + 1)
      replaces := fun _ _ => pure false }

def countItems : Executor Nat Row := fun _ parameter n => (.ok parameter.items.length, n + 1)

/-- All visits are stamped; the first one is numbered and the second one has a number, but there
is none for the third. -/
theorem third_visit_unnumbered :
    visits.StoresOne ∧
    ∃ events result,
      reception.journaled.insertAll visits (countItems.journaled .called) "enter"
        [[], [("id", .bigInt 7)], []] (0, []) = (result, (5, events)) ∧
      result = ([[("at", .bigInt 0), ("id", .bigInt 3)], [("id", .bigInt 7), ("at", .bigInt 1)],
        [("at", .bigInt 2)]], .error .clockStopped) ∧
      reception.Inserted visits "enter" [[], [("id", .bigInt 7)], []] result events := by
  obtain ⟨events, same, inserted⟩ := Dispatcher.insert_all_phases reception visits visits_store_one
    countItems "enter" [[], [("id", .bigInt 7)], []] 0
  exact ⟨visits_store_one, events, _, same, rfl, inserted⟩

end BoundSql
