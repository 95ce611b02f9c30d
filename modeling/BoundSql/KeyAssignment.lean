import BoundSql.Action
import BoundSql.Condition.Describe
import BoundSql.Registry
import BoundSql.Schema.Row

/-!
Keys for new entities. A key that the caller gave is never touched; a missing one is produced as
the key's strategy says, stored, and reported. At most one source is asked, and only when its
value can be stored in a column of the declared type.
-/

namespace BoundSql

abbrev KeyGenerator (σ : Type) := String → Action σ Value

structure KeySources (σ : Type) where
  nextId : Action σ Int64
  /-- A random identifier: 32 lower-case hexadecimal digits. -/
  uuid : StateM σ String
  generators : Registry (KeyGenerator σ)

namespace KeySources

variable {σ α : Type}

def requireType (entity : String) (key : Field) (expected : ColumnType) : Except Error Unit :=
  if key.type = expected then .ok ()
  else .error (.keyType entity key.name key.strategy.name key.type.sql)

/-- Produces a key; null means that none is to be stored. -/
def generate (sources : KeySources σ) (entity : String) (key : Field) : Action σ Value :=
  match key.strategy with
  | .auto | .none => pure .null
  | .assign => throw (.missingKey entity key.name)
  | .uuid =>
      match requireType entity key .text with
      | .error e => throw e
      | .ok _ => do return .text (← sources.uuid)
  | .custom name =>
      match sources.generators.find? name with
      | none => throw (.unknownGenerator name)
      | some generator => generator entity
  | .snowflake =>
      match requireType entity key .bigInt with
      | .error e => throw e
      | .ok _ => do return .bigInt (← sources.nextId)

def assign (sources : KeySources σ) (type : EntityType α) (entity : α) :
    StateM σ (α × Except Error (Option Value)) :=
  match type.schema.mapping with
  | .error e => pure (entity, .error e)
  | .ok mapping =>
      match mapping.key? with
      | none => pure (entity, .ok none)
      | some key =>
          if !type.isNull entity key.name then pure (entity, .ok none)
          else do
            match ← (sources.generate mapping.entity key).run with
            | .error e => pure (entity, .error e)
            | .ok value =>
                if value.isNull then pure (entity, .ok none)
                else
                  match type.store entity key.name value with
                  | .error e => pure (entity, .error e)
                  | .ok entity => pure (entity, .ok (some value))

/-- Gives keys to the entities of a list in order, up to the first failure, and counts them. -/
def assignAll (sources : KeySources σ) (type : EntityType α) (entities : List α) :
    StateM σ (List α × Except Error Nat) := do
  let (entities, result) ← advance (sources.assign type) entities
  return (entities, result.map fun assigned => assigned.countP Option.isSome)

def describeGenerators (sources : KeySources σ) : String :=
  describeRecord "GeneratorRegistry"
    [("generators", describeList (sources.generators.names.map Text.visible))]

def describe (sources : KeySources σ) : String :=
  "KeyAssigner \x7b registry: " ++ sources.describeGenerators ++ ", .. \x7d"

end KeySources

end BoundSql
