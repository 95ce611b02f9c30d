import BoundSql.Json.Basic

/-!
Values that can be bound to a placeholder. `null` is a value of its own: writing it to a column
is different from leaving the column out.
-/

namespace BoundSql

open Decimal (Binary64)

inductive Value where
  | null
  | bool (b : Bool)
  | int (n : Int32)
  | bigInt (n : Int64)
  | double (x : Binary64)
  | text (s : String)
  | bytes (bs : List UInt8)
deriving DecidableEq, Repr, Inhabited

namespace Value

def isNull : Value → Bool
  | .null => true
  | _ => false

def asInt64 : Value → Option Int64
  | .int n => some n.toInt64
  | .bigInt n => some n
  | _ => none

def asText : Value → Option String
  | .text s => some s
  | _ => none

def ofInt64 : Option Int64 → Value
  | some n => .bigInt n
  | none => .null

def ofText : Option String → Value
  | some s => .text s
  | none => .null

/-- A 64-bit value when the integer fits, otherwise the nearest double. -/
def ofInteger (n : Int) : Value :=
  if Int64.minValue.toInt ≤ n ∧ n ≤ Int64.maxValue.toInt then .bigInt (Int64.ofInt n)
  else .double (.ofInt n)

def ofJson : Json → Value
  | .null => .null
  | .bool b => .bool b
  | .int n => ofInteger n
  | .double x => .double x
  | .text s => .text s
  | json => .text json.compact

/-- The JSON form of a value. It shows no kind: both integer kinds are numbers, and bytes are
an array of numbers. -/
def toJson : Value → Json
  | .null => .null
  | .bool b => .bool b
  | .int n => .int n.toInt
  | .bigInt n => .int n.toInt
  | .double x => .double x
  | .text s => .text s
  | .bytes bs => .array (bs.map fun b => .int b.toNat)

end Value

end BoundSql
