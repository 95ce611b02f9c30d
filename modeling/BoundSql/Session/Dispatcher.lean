import BoundSql.KeyAssignment
import BoundSql.Session.Batch
import BoundSql.Session.Fill

/-!
Dispatching entities to registered statements. An insert fills all entities, then assigns all
keys, and only then executes; an update fills and executes; a delete executes on keys. Entities
are given back as far as they were changed, whether the call succeeded or not.
-/

namespace BoundSql

structure Dispatcher (σ : Type) where
  operations : OperationRegistry
  sources : KeySources σ
  batchSize : BatchSize
  handler : Option (FillHandler σ)

namespace Dispatcher

variable {σ α : Type}

def fill (dispatcher : Dispatcher σ) (type : EntityType α) (phase : Phase) (entity : α) :
    StateM σ (α × Except Error Nat) :=
  match dispatcher.handler with
  | some handler => handler.fill type phase entity
  | none => pure (entity, .ok 0)

/-- Goes on with the entities as they are, unless there was an error. -/
def andThen {α β γ : Type} (before : StateM σ (α × Except Error β))
    (after : α → StateM σ (α × Except Error γ)) : StateM σ (α × Except Error γ) := do
  match ← before with
  | (a, .error e) => pure (a, .error e)
  | (a, .ok _) => after a

def execute (dispatcher : Dispatcher σ) (executor : Executor σ α) (operation : Operation)
    (parameter : Parameter α) : StateM σ (Except Error Nat) :=
  (dispatcher.batchSize.execute executor operation parameter).run

/-- Looks a statement up before anything else is done. -/
def withOperation {β γ : Type} (dispatcher : Dispatcher σ) (id : String) (kind : OperationKind)
    (entities : β) (run : Operation → StateM σ (β × Except Error γ)) :
    StateM σ (β × Except Error γ) :=
  match OperationRegistry.require dispatcher.operations id kind with
  | .error e => pure (entities, .error e)
  | .ok operation => run operation

def insert (dispatcher : Dispatcher σ) (type : EntityType α) (executor : Executor σ α)
    (id : String) (entity : α) : StateM σ (α × Except Error Nat) :=
  dispatcher.withOperation id .insert entity fun operation =>
    andThen (dispatcher.fill type .insert entity) fun entity =>
      andThen (dispatcher.sources.assign type entity) fun entity => do
        return (entity, ← dispatcher.execute executor operation (.single entity))

def insertAll (dispatcher : Dispatcher σ) (type : EntityType α) (executor : Executor σ α)
    (id : String) (entities : List α) : StateM σ (List α × Except Error Nat) :=
  dispatcher.withOperation id .insert entities fun operation =>
    andThen (advance (dispatcher.fill type .insert) entities) fun entities =>
      andThen (dispatcher.sources.assignAll type entities) fun entities => do
        return (entities, ← dispatcher.execute executor operation (.list entities))

def update (dispatcher : Dispatcher σ) (type : EntityType α) (executor : Executor σ α)
    (id : String) (entity : α) : StateM σ (α × Except Error Nat) :=
  dispatcher.withOperation id .update entity fun operation =>
    andThen (dispatcher.fill type .update entity) fun entity => do
      return (entity, ← dispatcher.execute executor operation (.single entity))

def updateAll (dispatcher : Dispatcher σ) (type : EntityType α) (executor : Executor σ α)
    (id : String) (entities : List α) : StateM σ (List α × Except Error Nat) :=
  dispatcher.withOperation id .update entities fun operation =>
    andThen (advance (dispatcher.fill type .update) entities) fun entities => do
      return (entities, ← dispatcher.execute executor operation (.list entities))

/-- Deletes by keys, which are no entities and are not changed. -/
def deleteAll (dispatcher : Dispatcher σ) (executor : Executor σ α) (id : String)
    (keys : List α) : StateM σ (Except Error Nat) := do
  let (_, result) ← dispatcher.withOperation id .delete () fun operation => do
    return ((), ← dispatcher.execute executor operation (.list keys))
  return result

def describe (dispatcher : Dispatcher σ) : String :=
  "Dispatcher \x7b statements: " ++ toString dispatcher.operations.size ++
    ", rewriter: BatchRewriter \x7b config: BatchConfig \x7b max_batch_size: " ++
    toString dispatcher.batchSize.size ++ " \x7d \x7d, fill: " ++
    describeBool dispatcher.handler.isSome ++ ", .. \x7d"

end Dispatcher

end BoundSql
