import BoundSql.Config.Setting
import BoundSql.Text.Integer

/-!
The greatest number of items that one batch statement takes: a positive 64-bit number. A text
that is not such a number is an error; only an absent setting gives the default.
-/

namespace BoundSql

structure BatchSize where
  size : Nat
  size_pos : 0 < size
deriving DecidableEq, Repr

namespace BatchSize

def default : BatchSize := ⟨500, by decide⟩

instance : Inhabited BatchSize := ⟨default⟩

def propertyKey : String := "maxBatchSize"

def environmentKey : String := "SQLMAPPER_MAX_BATCH_SIZE"

def reason : String := "must be a positive integer"

def ofNat (size : Nat) : Except Error BatchSize :=
  if h : 0 < size then .ok ⟨size, h⟩ else .error (.setting propertyKey "0" reason)

/-- Reads a size; white space around the number is allowed. -/
def parse (key raw : String) : Except Error BatchSize :=
  match Text.natural? (Text.trim raw) with
  | some size =>
      if h : 0 < size ∧ size < UInt64.size then .ok ⟨size, h.1⟩
      else .error (.setting key raw reason)
  | none => .error (.setting key raw reason)

/-- The size among properties, given by name. A blank property is not absent. -/
def ofProperties (property? : String → Option String) : Except Error BatchSize :=
  match property? propertyKey with
  | some raw => parse propertyKey raw
  | none => .ok default

def ofEnvironment (setting : Setting) : Except Error BatchSize := do
  match ← setting.read environmentKey with
  | some raw => parse environmentKey raw
  | none => return default

end BatchSize

end BoundSql
