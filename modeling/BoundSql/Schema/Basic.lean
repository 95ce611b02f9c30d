import BoundSql.Error
import BoundSql.Schema.Field

/-!
The schema of an entity: its name, its table and its fields in the order of declaration. Only a
schema with at most one persisted key is a mapping, and statements are made from mappings alone.
-/

namespace BoundSql

structure Schema where
  entity : String
  table : String
  fields : List Field
deriving DecidableEq, Repr, Inhabited

namespace Schema

def persisted (schema : Schema) : List Field := schema.fields.filter Field.persisted

def keys (schema : Schema) : List Field := schema.persisted.filter Field.isKey

def columns (schema : Schema) : List String := schema.persisted.map Field.column

/-- The first field of a name, ignored fields included. -/
def field? (schema : Schema) (name : String) : Option Field :=
  schema.fields.find? fun f => f.name == name

def marked (schema : Schema) : List (Field × DeleteMarker) :=
  schema.persisted.filterMap fun f => f.marker.map fun marker => (f, marker)

/-- What keeps reads and updates to live rows: a condition on the first marked column, to be
put after the other conditions; nothing if no column is marked. -/
def liveFilter (schema : Schema) : String :=
  match schema.marked.head? with
  | some (f, marker) => " AND " ++ f.column ++ " = " ++ marker.normal
  | none => ""

def requireMarked (schema : Schema) : Except Error (Field × DeleteMarker) :=
  match schema.marked with
  | [only] => .ok only
  | _ => .error (.missingDeleteMarker schema.entity)

end Schema

/-- A schema in which the key is a single field, if there is one. -/
structure Mapping extends Schema where
  keys_length : toSchema.keys.length ≤ 1

/-- The mapping of a schema; composite keys are refused. -/
def Schema.mapping (schema : Schema) : Except Error Mapping :=
  if h : schema.keys.length ≤ 1 then .ok ⟨schema, h⟩
  else .error (.compositeKey schema.entity (schema.keys.map Field.name))

namespace Mapping

def key? (mapping : Mapping) : Option Field := mapping.keys.head?

def requireKey (mapping : Mapping) : Except Error Field :=
  match mapping.key? with
  | some key => .ok key
  | none => .error (.noKey mapping.entity)

end Mapping

end BoundSql
