import BoundSql.Schema.Row

/-!
Records: entities that are nothing but their row. Each field of a record accepts values in one
of a few ways; a value that it does not accept is an error and changes nothing.
-/

namespace BoundSql.Rehearsal

inductive Setter where
  /-- As it is. -/
  | raw
  /-- As a 64-bit integer, or null. -/
  | int64
  /-- As a text, or null. -/
  | text
  /-- Not at all. -/
  | readOnly
deriving DecidableEq, Repr

instance : Inhabited Setter := ⟨.raw⟩

def Setter.keep : Setter → Value → Option Value
  | .raw, value => some value
  | .int64, value => some (.ofInt64 value.asInt64)
  | .text, value => some (.ofText value.asText)
  | .readOnly, _ => none

/-- A kind of records: their schema, and how the fields of a name take values. -/
structure RecordType where
  schema : Schema
  setters : List (String × Setter)
deriving Repr

namespace RecordType

/-- The setter of a field; of several of one name the last counts. -/
def setter? (type : RecordType) (field : String) : Option Setter :=
  type.setters.reverse.lookup field

def store (type : RecordType) (row : Row) (field : String) (value : Value) : Except Error Row :=
  match (type.setter? field).bind fun setter => setter.keep value with
  | some kept => .ok (row.store field kept)
  | none => .error (.unknownField type.schema.entity field)

def entities (type : RecordType) : EntityType Row := ⟨type.schema, id, type.store⟩

end RecordType

end BoundSql.Rehearsal
