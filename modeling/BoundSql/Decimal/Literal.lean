import BoundSql.Decimal.Shortest

/-!
Decimal literals read at working precision. The digits gather in a significand of 64 bits, those
that no longer fit are dropped, and the power of ten is applied in double precision. A literal
with at most fifteen digits and a power of ten of at most 22 is the nearest double, since
significand and power are then exact and the result is rounded once; a longer one may miss the
nearest double by its last bit. No bound on that error is claimed here.
-/

namespace BoundSql.Decimal

structure Literal where
  negative : Bool
  whole : List Char
  places : List Char
  exponent : Int
deriving DecidableEq, Repr

/-- Appends digits to a significand up to the first one for which 64 bits do not suffice. The
digits left over come second. -/
def gather (significand : Nat) : List Char → Nat × List Char
  | [] => (significand, [])
  | c :: cs =>
      let next := 10 * significand + (c.toNat - 48)
      if next < UInt64.size then gather next cs else (significand, c :: cs)

def greatestPower : Nat := 308

def powerOfTen (k : Nat) : Dyadic := (Binary64.nearest false (Nat.pow 10 k) 1).dyadic

def Binary64.timesPower (x : Binary64) (k : Nat) : Binary64 :=
  let a := x.dyadic
  let b := powerOfTen k
  let q := a.q + b.q
  .nearest x.negative ((a.m * b.m) <<< q.toNat) (1 <<< (-q).toNat)

def Binary64.overPower (x : Binary64) (k : Nat) : Binary64 :=
  let a := x.dyadic
  let b := powerOfTen k
  let q := a.q - b.q
  .nearest x.negative (a.m <<< q.toNat) (b.m <<< (-q).toNat)

/-- A 64-bit significand scaled up; `none` when the result is too large. Zero stays zero. -/
def Binary64.raise? (x : Binary64) (k : Nat) : Option Binary64 :=
  if x.magnitude = 0 then some x
  else if greatestPower < k then none
  else
    let y := x.timesPower k
    if y.isFinite then some y else none

/-- A 64-bit significand scaled down. Beyond the greatest power this takes a second division,
after which, whatever the power, nothing is left to divide. -/
def Binary64.lower (x : Binary64) (k : Nat) : Binary64 :=
  if k ≤ greatestPower then x.overPower k
  else (x.overPower greatestPower).overPower (min (k - greatestPower) greatestPower)

/-- The number that a literal denotes; `none` when it is too large for a double. A digit of the
whole part that was dropped raises the exponent, a place that was kept lowers it. -/
def Literal.value? (literal : Literal) : Option Binary64 :=
  let (significand, dropped) := gather 0 literal.whole
  let (significand, omitted) := gather significand literal.places
  let kept := literal.places.length - omitted.length
  let exponent := literal.exponent + dropped.length - kept
  let x := Binary64.nearest literal.negative significand 1
  if 0 ≤ exponent then x.raise? exponent.toNat else some (x.lower (-exponent).toNat)

/-- The least double, a whole number beyond 64 bits, and a sum that shows its rounding. -/
example :
    [Literal.mk false ['5'] [] (-324), ⟨true, "18446744073709551616".toList, [], 0⟩,
        ⟨false, ['0'], "30000000000000004".toList, 0⟩].map
        (fun literal => literal.value?.map (·.bits)) =
      [some 1, some 0xC3F0000000000000, some 0x3FD3333333333334] := by
  decide +kernel

/-- Too large a number is refused, too small a one vanishes. -/
example :
    [Literal.mk false ['1'] [] 309, ⟨true, ['1'], [], -400⟩, ⟨false, ['0'], [], 400⟩].map
        (fun literal => literal.value?.map (·.bits)) =
      [none, some 0x8000000000000000, some 0] := by
  decide +kernel

end BoundSql.Decimal
