import BoundSql.Action
import BoundSql.Schema.Row

/-!
Filling fields in before an entity is written. A handler is asked for the persisted fields whose
policy names the phase, in the order of declaration; a field that holds a value is left alone
unless the handler says that it replaces it. The first value that cannot be stored ends the run.
-/

namespace BoundSql

structure FillHandler (σ : Type) where
  /-- The value for a field of the entity of a name, if there is one. -/
  value : Phase → String → Field → StateM σ (Option Value)
  /-- Whether a value that is already there is replaced. -/
  replaces : Phase → Field → StateM σ Bool

namespace FillHandler

variable {σ α : Type}

/-- A null is filled in, and a value that is there if the handler replaces it. -/
def wants (handler : FillHandler σ) (type : EntityType α) (phase : Phase) (entity : α) (f : Field) :
    StateM σ Bool :=
  if type.isNull entity f.name then pure true else handler.replaces phase f

/-- Fills fields in turn; `count` fields were filled before. -/
def fillFields (handler : FillHandler σ) (type : EntityType α) (phase : Phase) :
    List Field → α → Nat → StateM σ (α × Except Error Nat)
  | [], entity, count => pure (entity, .ok count)
  | f :: rest, entity, count => do
      if ← handler.wants type phase entity f then
        match ← handler.value phase type.schema.entity f with
        | none => handler.fillFields type phase rest entity count
        | some value =>
            match type.store entity f.name value with
            | .error e => pure (entity, .error e)
            | .ok entity => handler.fillFields type phase rest entity (count + 1)
      else handler.fillFields type phase rest entity count

def fill (handler : FillHandler σ) (type : EntityType α) (phase : Phase) (entity : α) :
    StateM σ (α × Except Error Nat) :=
  match type.schema.mapping with
  | .error e => pure (entity, .error e)
  | .ok mapping =>
      handler.fillFields type phase (mapping.persisted.filter (·.fill.applies phase)) entity 0

end FillHandler

end BoundSql
