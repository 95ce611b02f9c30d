import Mathlib
import BoundSql.Snowflake.Layout

/-!
The layout of ids as arithmetic. While a timestamp lies within 2 ^ 41 milliseconds of the epoch,
the three parts of an id do not overlap, and the id is their weighted sum. So the order of ids is
the order of time, then node, then place.
-/

namespace BoundSql.Snowflake

/-- The milliseconds from the epoch to the timestamp fit 42 bits with a sign. -/
def Parts.Fits (parts : Parts) : Prop :=
  -2 ^ 41 ≤ parts.timestamp - epoch ∧ parts.timestamp - epoch < 2 ^ 41

theorem to_bit_vec_compose (parts : Parts) :
    (compose parts).toBitVec =
      BitVec.ofInt 64 (parts.timestamp - epoch) <<< 22 |||
        BitVec.ofNat 64 parts.node.val <<< 12 ||| BitVec.ofNat 64 parts.sequence.val := rfl

/-- The bits of the three parts stand side by side. -/
theorem to_nat_compose (parts : Parts) :
    (compose parts).toBitVec.toNat =
      ((parts.timestamp - epoch) % 2 ^ 42).toNat * 2 ^ 22 + parts.node.val * 2 ^ 12 +
        parts.sequence.val := by
  have nodeBound := parts.node.isLt
  have sequenceBound := parts.sequence.isLt
  have upper : (((parts.timestamp - epoch) % 2 ^ 64).toNat <<< 22) % 2 ^ 64 =
      ((parts.timestamp - epoch) % 2 ^ 42).toNat <<< 22 := by
    rw [Nat.shiftLeft_eq, Nat.shiftLeft_eq]
    omega
  have middle : ((parts.node.val % 2 ^ 64) <<< 12) % 2 ^ 64 = parts.node.val <<< 12 := by
    rw [Nat.shiftLeft_eq, Nat.shiftLeft_eq]
    omega
  have lower : parts.sequence.val % 2 ^ 64 = parts.sequence.val := by omega
  have lowerBound : parts.sequence.val < 2 ^ 12 := by omega
  have middleBound : parts.node.val <<< 12 + parts.sequence.val < 2 ^ 22 := by
    rw [Nat.shiftLeft_eq]
    omega
  have bits : (compose parts).toBitVec.toNat =
      ((parts.timestamp - epoch) % 2 ^ 42).toNat <<< 22 ||| parts.node.val <<< 12 |||
        parts.sequence.val := by
    rw [to_bit_vec_compose, BitVec.toNat_or, BitVec.toNat_or, BitVec.toNat_shiftLeft,
      BitVec.toNat_shiftLeft, BitVec.toNat_ofInt, BitVec.toNat_ofNat, BitVec.toNat_ofNat, lower,
      middle]
    exact congrArg (· ||| parts.node.val <<< 12 ||| parts.sequence.val) upper
  rw [bits, Nat.or_assoc, ← Nat.shiftLeft_add_eq_or_of_lt lowerBound,
    ← Nat.shiftLeft_add_eq_or_of_lt middleBound, Nat.shiftLeft_eq, Nat.shiftLeft_eq]
  omega

theorem to_int_compose {parts : Parts} (fits : parts.Fits) :
    (compose parts).toInt =
      (parts.timestamp - epoch) * 2 ^ 22 + parts.node.val * 2 ^ 12 + parts.sequence.val := by
  obtain ⟨low, high⟩ := fits
  have nodeBound := parts.node.isLt
  have sequenceBound := parts.sequence.isLt
  rw [← Int64.toInt_toBitVec, BitVec.toInt_eq_toNat_cond, to_nat_compose]
  split <;> omega

/-- Of two ids of one node the later one is greater: by its millisecond, or by its place. -/
theorem compose_lt_compose {earlier later : Parts} (earlierFits : earlier.Fits)
    (laterFits : later.Fits) (node : earlier.node = later.node)
    (before : earlier.timestamp < later.timestamp ∨
      earlier.timestamp = later.timestamp ∧ earlier.sequence < later.sequence) :
    compose earlier < compose later := by
  have earlierBound := earlier.sequence.isLt
  have laterBound := later.sequence.isLt
  rw [Int64.lt_iff_toInt_lt, to_int_compose earlierFits, to_int_compose laterFits, node]
  rcases before with time | ⟨sameTime, place⟩
  · omega
  · rw [sameTime]
    have places : earlier.sequence.val < later.sequence.val := place
    omega

end BoundSql.Snowflake
