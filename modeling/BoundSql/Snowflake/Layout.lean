import BoundSql.Snowflake.NodeId

/-!
The layout of a time-ordered id in 64 bits: milliseconds since an epoch in the upper 42 bits,
then ten bits for the node and twelve for the place within the millisecond. The numeric order of
ids is the order of time, then node, then place.
-/

namespace BoundSql.Snowflake

/-- The start of 2021 in UTC, in milliseconds since the start of 1970. -/
def epoch : Int := 1609459200000

abbrev Sequence := Fin 4096

def Sequence.first : Sequence := ⟨0, by decide⟩

def Sequence.next? (sequence : Sequence) : Option Sequence :=
  if h : sequence.val + 1 < 4096 then some ⟨sequence.val + 1, h⟩ else none

structure Parts where
  timestamp : Int
  node : NodeId
  sequence : Sequence
deriving DecidableEq, Repr, Inhabited

/-- The id made of the parts; a timestamp more than 2 ^ 41 milliseconds away from the epoch
loses its upper bits. -/
def compose (parts : Parts) : Int64 :=
  (Int64.ofInt (parts.timestamp - epoch) <<< 22) |||
    (Int64.ofNat parts.node.val <<< 12) ||| Int64.ofNat parts.sequence.val

def decompose (id : Int64) : Parts where
  timestamp := (id >>> 22).toInt + epoch
  node := ⟨((id >>> 12) &&& 1023).toNatClampNeg % 1024, Nat.mod_lt _ (by decide)⟩
  sequence := ⟨(id &&& 4095).toNatClampNeg % 4096, Nat.mod_lt _ (by decide)⟩

end BoundSql.Snowflake
