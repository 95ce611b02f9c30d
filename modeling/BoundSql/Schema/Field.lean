/-!
Declared fields of an entity: the column a field is stored in, its type, and what happens to it
when a row is inserted, updated or deleted.
-/

namespace BoundSql

inductive ColumnType where
  | bool
  | integer
  | bigInt
  | double
  | text
  | blob
  | timestamp
deriving DecidableEq, Repr

instance : Inhabited ColumnType := ⟨.text⟩

def ColumnType.sql : ColumnType → String
  | .bool => "BOOLEAN"
  | .integer => "INTEGER"
  | .bigInt => "BIGINT"
  | .double => "DOUBLE"
  | .text => "TEXT"
  | .blob => "BLOB"
  | .timestamp => "TIMESTAMP"

/-- Where the key of a new row comes from when the caller gave none. -/
inductive KeyStrategy where
  /-- The store numbers the row. -/
  | auto
  | uuid
  /-- The caller has to give the key. -/
  | assign
  | none
  /-- A generator registered under this name. -/
  | custom (generator : String)
  | snowflake
deriving DecidableEq, Repr

instance : Inhabited KeyStrategy := ⟨.none⟩

def KeyStrategy.name : KeyStrategy → String
  | .auto => "AUTO"
  | .uuid => "UUID"
  | .assign => "ASSIGN"
  | .none => "NONE"
  | .custom _ => "CUSTOM"
  | .snowflake => "SNOWFLAKE"

/-- The SQL literals that mark a row as deleted and as live. -/
structure DeleteMarker where
  deleted : String
  normal : String
deriving DecidableEq, Repr

instance : Inhabited DeleteMarker := ⟨⟨"1", "0"⟩⟩

inductive Phase where
  | insert
  | update
deriving DecidableEq, Repr, Inhabited

def Phase.name : Phase → String
  | .insert => "Insert"
  | .update => "Update"

inductive FillPolicy where
  | never
  | onInsert
  | onUpdate
  | onBoth
deriving DecidableEq, Repr

instance : Inhabited FillPolicy := ⟨.never⟩

def FillPolicy.applies : FillPolicy → Phase → Bool
  | .never, _ => false
  | .onInsert, phase => phase = .insert
  | .onUpdate, phase => phase = .update
  | .onBoth, _ => true

structure Field where
  name : String
  column : String
  type : ColumnType
  /-- The strategy of a key field; a field without one is no key. -/
  key : Option KeyStrategy
  ignored : Bool
  marker : Option DeleteMarker
  fill : FillPolicy
deriving DecidableEq, Repr, Inhabited

namespace Field

def isKey (f : Field) : Bool := f.key.isSome

def strategy (f : Field) : KeyStrategy := f.key.getD .none

def persisted (f : Field) : Bool := !f.ignored

end Field

end BoundSql
