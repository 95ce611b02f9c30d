import Mathlib
import BoundSql.Proofs.Snowflake.Ordering

/-!
Ids and their parts are in bijection. Taking an id apart is dividing it by the weights of the
layout, with rounding towards negative infinity, so that ids of times before the epoch come apart
like the others. Every id has parts that fit, parts that fit come back from their id, and the
order of ids is the order of the parts. An id carries its node whatever its time, so two nodes
never issue the same id.
-/

namespace BoundSql.Snowflake

theorem to_int_shift_right (id : Int64) :
    (id >>> 22).toInt = id.toInt / 2 ^ 22 ∧ (id >>> 12).toInt = id.toInt / 2 ^ 12 := by
  have far : (id >>> 22).toBitVec = id.toBitVec.sshiftRight 22 := rfl
  have near : (id >>> 12).toBitVec = id.toBitVec.sshiftRight 12 := rfl
  rw [← Int64.toInt_toBitVec, ← Int64.toInt_toBitVec, ← Int64.toInt_toBitVec, far, near,
    BitVec.toInt_sshiftRight, BitVec.toInt_sshiftRight, Int.shiftRight_eq_div_pow,
    Int.shiftRight_eq_div_pow]
  exact ⟨rfl, rfl⟩

theorem to_nat_mask (word : Int64) {mask bits : Nat} (ones : mask = 2 ^ bits - 1)
    (short : bits < 63) :
    ((word &&& Int64.ofNat mask).toNatClampNeg : Int) = word.toInt % 2 ^ bits := by
  have bound : 2 ^ bits ≤ 2 ^ 62 := Nat.pow_le_pow_right (by decide) (by omega)
  have positive : 0 < 2 ^ bits := Nat.two_pow_pos bits
  have fits : mask % 2 ^ 64 = mask := Nat.mod_eq_of_lt (by omega)
  have masked : (word &&& Int64.ofNat mask).toBitVec.toNat = word.toBitVec.toNat % 2 ^ bits := by
    have bits : (word &&& Int64.ofNat mask).toBitVec =
        word.toBitVec &&& BitVec.ofNat 64 mask := rfl
    rw [bits, BitVec.toNat_and, BitVec.toNat_ofNat, fits, ones, Nat.and_two_pow_sub_one_eq_mod]
  have small : word.toBitVec.toNat % 2 ^ bits < 2 ^ bits := Nat.mod_lt _ positive
  have noSign : (word &&& Int64.ofNat mask).toInt = (word.toBitVec.toNat % 2 ^ bits : Nat) := by
    rw [← Int64.toInt_toBitVec, BitVec.toInt_eq_toNat_cond, masked, if_pos (by omega)]
  -- Whether the word is negative makes a difference of 2 ^ 64, which is a multiple.
  have remainder : word.toInt % 2 ^ bits = (word.toBitVec.toNat : Int) % 2 ^ bits := by
    obtain ⟨multiple, product⟩ : (2 : Int) ^ bits ∣ 2 ^ 64 := pow_dvd_pow 2 (by omega)
    rw [← Int64.toInt_toBitVec, BitVec.toInt_eq_toNat_cond]
    split
    · rfl
    · rw [Nat.cast_pow, Nat.cast_ofNat, product, Int.sub_mul_emod_self_left]
  rw [Int64.toNatClampNeg, noSign, remainder, Int.toNat_natCast, Int.natCast_emod, Nat.cast_pow,
    Nat.cast_ofNat]

theorem timestamp_decompose (id : Int64) :
    (decompose id).timestamp = id.toInt / 2 ^ 22 + epoch := by
  rw [decompose, (to_int_shift_right id).1]

theorem node_decompose (id : Int64) :
    ((decompose id).node.val : Int) = id.toInt / 2 ^ 12 % 2 ^ 10 := by
  have masked := to_nat_mask (id >>> 12) (show 1023 = 2 ^ 10 - 1 from rfl) (by decide)
  rw [(to_int_shift_right id).2] at masked
  have same : ((id >>> 12) &&& 1023).toNatClampNeg =
      ((id >>> 12) &&& Int64.ofNat 1023).toNatClampNeg := rfl
  show ((((id >>> 12) &&& 1023).toNatClampNeg % 1024 : Nat) : Int) = _
  omega

theorem sequence_decompose (id : Int64) :
    ((decompose id).sequence.val : Int) = id.toInt % 2 ^ 12 := by
  have masked := to_nat_mask id (show 4095 = 2 ^ 12 - 1 from rfl) (by decide)
  have same : (id &&& 4095).toNatClampNeg = (id &&& Int64.ofNat 4095).toNatClampNeg := rfl
  show (((id &&& 4095).toNatClampNeg % 4096 : Nat) : Int) = _
  omega

/-- An id keeps its node and its place whatever its time. -/
theorem node_and_sequence_compose (parts : Parts) :
    (decompose (compose parts)).node = parts.node ∧
      (decompose (compose parts)).sequence = parts.sequence := by
  have nodeBound := parts.node.isLt
  have sequenceBound := parts.sequence.isLt
  have node := node_decompose (compose parts)
  have sequence := sequence_decompose (compose parts)
  rw [← Int64.toInt_toBitVec, BitVec.toInt_eq_toNat_cond, to_nat_compose] at node sequence
  constructor
  · apply Fin.ext
    split at node <;> omega
  · apply Fin.ext
    split at sequence <;> omega

theorem decompose_compose {parts : Parts} (fits : parts.Fits) :
    decompose (compose parts) = parts := by
  obtain ⟨node, sequence⟩ := node_and_sequence_compose parts
  have nodeBound := parts.node.isLt
  have sequenceBound := parts.sequence.isLt
  have timestamp := timestamp_decompose (compose parts)
  rw [to_int_compose fits] at timestamp
  have time : (decompose (compose parts)).timestamp = parts.timestamp := by omega
  show Parts.mk (decompose (compose parts)).timestamp (decompose (compose parts)).node
    (decompose (compose parts)).sequence = parts
  rw [time, node, sequence]

/-- The parts of every id fit. -/
theorem fits_decompose (id : Int64) : (decompose id).Fits := by
  have low : -2 ^ 63 ≤ id.toInt := id.le_toInt
  have high : id.toInt < 2 ^ 63 := id.toInt_lt
  rw [Parts.Fits, timestamp_decompose]
  omega

theorem compose_decompose (id : Int64) : compose (decompose id) = id := by
  have node := node_decompose id
  have sequence := sequence_decompose id
  rw [← Int64.toInt_inj, to_int_compose (fits_decompose id), timestamp_decompose]
  omega

/-- Nothing is lost on the way from the parts to the id: the timestamp and the time since the
epoch are words, shifting keeps all bits of the time, and no part overlaps another. -/
structure Parts.Exact (parts : Parts) : Prop where
  word : (Int64.ofInt parts.timestamp).toInt = parts.timestamp
  since : (Int64.ofInt parts.timestamp - Int64.ofInt epoch).toInt = parts.timestamp - epoch
  shifted : (Int64.ofInt (parts.timestamp - epoch) <<< 22).toInt =
    (parts.timestamp - epoch) * 2 ^ 22
  disjoint : (compose parts).toInt =
    (parts.timestamp - epoch) * 2 ^ 22 + parts.node.val * 2 ^ 12 + parts.sequence.val

theorem exact_of_fits {parts : Parts} (fits : parts.Fits) : parts.Exact := by
  obtain ⟨low, high⟩ := fits
  have near : -2 ^ 41 ≤ epoch ∧ epoch < 2 ^ 41 := by decide
  refine ⟨?_, ?_, ?_, to_int_compose ⟨low, high⟩⟩
  · apply Int64.toInt_ofInt_of_le <;> omega
  · rw [← Int64.ofInt_sub]
    apply Int64.toInt_ofInt_of_le <;> omega
  · -- The shifted time alone is the id of the first place on the first node.
    let first : Parts := ⟨parts.timestamp, ⟨0, by decide⟩, .first⟩
    have firstFits : first.Fits := ⟨low, high⟩
    have alone : Int64.ofInt (parts.timestamp - epoch) <<< 22 = compose first := by
      simp [compose, first, Sequence.first]
    rw [alone, to_int_compose firstFits]
    simp [first, Sequence.first]

/-- Lexicographic order: by time, then by node, then by place. -/
def Parts.Before (earlier later : Parts) : Prop :=
  earlier.timestamp < later.timestamp ∨ earlier.timestamp = later.timestamp ∧
    (earlier.node < later.node ∨ earlier.node = later.node ∧ earlier.sequence < later.sequence)

theorem lt_iff_before (earlier later : Int64) :
    earlier < later ↔ (decompose earlier).Before (decompose later) := by
  have earlierNode := node_decompose earlier
  have laterNode := node_decompose later
  have earlierSequence := sequence_decompose earlier
  have laterSequence := sequence_decompose later
  rw [Int64.lt_iff_toInt_lt, Parts.Before, Fin.lt_def, Fin.lt_def, Fin.ext_iff,
    timestamp_decompose, timestamp_decompose]
  omega

theorem compose_lt_iff {earlier later : Parts} (earlierFits : earlier.Fits)
    (laterFits : later.Fits) : compose earlier < compose later ↔ earlier.Before later := by
  rw [lt_iff_before, decompose_compose earlierFits, decompose_compose laterFits]

theorem node_of_issued {σ κ : Type} (clock : Clock σ) (node : NodeId) (callers : List κ)
    (host : State × σ) :
    ∀ id ∈ issued (serve clock node callers host), (decompose id).node = node := by
  induction callers generalizing host with
  | nil => exact nofun
  | cons caller rest ih =>
      rw [serve_cons]
      rcases next_cases clock node host with
        ⟨e, later, -, result⟩ | ⟨following, later, -, result⟩
      · rw [result, issued_cons_error]
        exact ih (host.1, later)
      · rw [result, issued_cons_ok, List.forall_mem_cons]
        exact ⟨(node_and_sequence_compose _).1, ih (following, later)⟩

/-- The layout is a bijection between ids and the parts that fit, and it keeps the order. So the
ids of different nodes differ, whatever their clocks show and whoever calls them. -/
theorem layout_order_isomorphism :
    (∀ parts : Parts, parts.Fits → parts.Exact ∧ decompose (compose parts) = parts) ∧
    (∀ id : Int64, (decompose id).Fits ∧ (decompose id).Exact ∧ compose (decompose id) = id) ∧
    (∀ earlier later : Int64,
      earlier < later ↔ (decompose earlier).Before (decompose later)) ∧
    (∀ earlier later : Parts, earlier.Fits → later.Fits →
      (compose earlier < compose later ↔ earlier.Before later)) ∧
    ∀ {σ τ κ ι : Type} (clock : Clock σ) (other : Clock τ) (node otherNode : NodeId)
      (callers : List κ) (otherCallers : List ι) (host : State × σ) (otherHost : State × τ),
      node ≠ otherNode → ∀ id ∈ issued (serve clock node callers host),
        id ∉ issued (serve other otherNode otherCallers otherHost) := by
  refine ⟨?_, ?_, lt_iff_before, ?_, ?_⟩
  · intro parts fits
    exact ⟨exact_of_fits fits, decompose_compose fits⟩
  · intro id
    exact ⟨fits_decompose id, exact_of_fits (fits_decompose id), compose_decompose id⟩
  · intro earlier later earlierFits laterFits
    exact compose_lt_iff earlierFits laterFits
  · intro σ τ κ ι clock other node otherNode callers otherCallers host otherHost differ id
      here there
    apply differ
    rw [← node_of_issued clock node callers host id here]
    exact node_of_issued other otherNode otherCallers otherHost id there

def oldest : Parts := ⟨epoch - 2 ^ 41, ⟨1023, by decide⟩, ⟨4095, by decide⟩⟩

theorem oldest_id_and_other_nodes :
    oldest.Fits ∧ oldest.Exact ∧ compose oldest = -9223372036850581505 ∧
      decompose (compose oldest) = oldest ∧
      compose oldest < compose ⟨epoch, 0, 0⟩ ∧
      4222977 ∈ issued (serve Clock.replay 7 ["a", "b"] (State.initial, unsteady)) ∧
      4222977 ∉ issued (serve Clock.replay 8 ["b"] (State.initial, unsteady)) := by
  have fits : oldest.Fits := ⟨by decide, by decide⟩
  have epochFits : Parts.Fits ⟨epoch, 0, 0⟩ := ⟨by decide, by decide⟩
  obtain ⟨ofParts, -, -, ordered, apart⟩ := layout_order_isomorphism
  obtain ⟨lossless, back⟩ := ofParts oldest fits
  have here : 4222977 ∈ issued (serve Clock.replay 7 ["a", "b"] (State.initial, unsteady)) := by
    decide
  have before : oldest.Before ⟨epoch, 0, 0⟩ := Or.inl (by decide)
  refine ⟨fits, lossless, by decide, back, (ordered _ _ fits epochFits).mpr before, here, ?_⟩
  exact apart Clock.replay Clock.replay 7 8 ["a", "b"] ["b"] (State.initial, unsteady)
    (State.initial, unsteady) (by decide) 4222977 here

end BoundSql.Snowflake
