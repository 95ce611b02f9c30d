import BoundSql.Association
import BoundSql.Path
import BoundSql.Schema.Basic

/-!
Rows, the view that statements have of an entity, and entity types, which say how a row is read
off an entity and how a field of it is stored. A row may lack declared fields, hold others, and
repeat a name; the first value of a name counts.
-/

namespace BoundSql

abbrev Row := List (String × Value)

namespace Row

def value? (row : Row) (field : String) : Option Value := row.lookup field

def isNull (row : Row) (field : String) : Bool := (row.value? field).all Value.isNull

/-- The row with a value stored in place of the first one of that name, or at the end. -/
def store (row : Row) (field : String) (value : Value) : Row := Association.put field value row

/-- The stored value is read back, and no other field is affected. -/
theorem value?_store (row : Row) (field other : String) (value : Value) :
    (row.store field value).value? other =
      if other = field then some value else row.value? other :=
  Association.lookup_put field other value row

def resolve (row : Row) : Resolver
  | [.key field] => row.value? field
  | _ => none

/-- The values of several rows lie under their positions. -/
def resolveAll (rows : List Row) : Resolver
  | .index i :: rest => (rows[i]?).bind fun row => Row.resolve row rest
  | _ => none

end Row

/-- How entities of some type are mapped: their schema, the row of an entity, and storing one
value, which may fail and then leaves the entity as it was. -/
structure EntityType (α : Type) where
  schema : Schema
  row : α → Row
  store : α → String → Value → Except Error α

def EntityType.value? {α : Type} (type : EntityType α) (entity : α) (field : String) :
    Option Value :=
  (type.row entity).value? field

def EntityType.isNull {α : Type} (type : EntityType α) (entity : α) (field : String) : Bool :=
  (type.row entity).isNull field

end BoundSql
