/-!
Double-precision numbers as bit patterns. Two patterns are equal only if all their bits are,
so zeros of different sign and different NaNs stay apart. The value nearest to a rational
number is found by exact integer arithmetic, a tie going to the even significand.
-/

namespace BoundSql.Decimal

structure Binary64 where
  bits : UInt64
deriving DecidableEq, Repr, Inhabited

namespace Binary64

def signWeight : Nat := 0x8000000000000000

/-- The weight of the exponent field's lowest bit, 52 binary places up. In a significand this is
the leading bit, which is not stored. -/
def exponentWeight : Nat := 0x10000000000000

def magnitude (x : Binary64) : Nat := x.bits.toNat % signWeight

def negative (x : Binary64) : Bool := signWeight ≤ x.bits.toNat

/-- The magnitude of the infinities; every larger magnitude is a NaN. -/
def infinityMagnitude : Nat := 0x7FF * exponentWeight

def isNaN (x : Binary64) : Bool := infinityMagnitude < x.magnitude

def isInfinite (x : Binary64) : Bool := x.magnitude == infinityMagnitude

def isFinite (x : Binary64) : Bool := x.magnitude < infinityMagnitude

def ofMagnitude (negative : Bool) (magnitude : Nat) : Binary64 :=
  ⟨UInt64.ofNat (magnitude + if negative then signWeight else 0)⟩

end Binary64

inductive Tie where
  | toEven
  | up
deriving DecidableEq, Repr

def roundDiv (num den : Nat) (tie : Tie) : Nat :=
  let q := num / den
  match compare (2 * (num % den)) den with
  | .lt => q
  | .gt => q + 1
  | .eq => if tie = .toEven ∧ q % 2 = 0 then q else q + 1

/-- The greatest `k` with `2 ^ k ≤ num / den`, for positive `num` and `den`. -/
def binaryExponent (num den : Nat) : Int :=
  let k : Int := (num.log2 : Int) - den.log2
  if num <<< (-k).toNat < den <<< k.toNat then k - 1 else k

/-- The double nearest to `num / den` in magnitude, ties to even; values that are too large
become infinite. A significand that rounds up to the next power of two carries into the
exponent field by itself. -/
def Binary64.nearest (negative : Bool) (num den : Nat) : Binary64 :=
  if num = 0 then .ofMagnitude negative 0
  else
    let q := max (binaryExponent num den - 52) (-1074)
    let m := roundDiv (num <<< (-q).toNat) (den <<< q.toNat) .toEven
    let magnitude := (q + 1074).toNat * exponentWeight + m
    .ofMagnitude negative (min magnitude infinityMagnitude)

def Binary64.ofInt (n : Int) : Binary64 := .nearest (n < 0) n.natAbs 1

end BoundSql.Decimal
