import BoundSql.Decimal.Binary64

/-!
The fewest decimal digits that identify a double. The reals that round to a double form an
interval around it; among the decimals in that interval the one with the fewest digits is
taken, of several the nearest, and an exact tie goes as the caller says. All comparisons
are between naturals.
-/

namespace BoundSql.Decimal

/-- A finite non-negative double, `m * 2 ^ q`. -/
structure Dyadic where
  m : Nat
  q : Int
  /-- The gap to the double below is half the gap to the double above. -/
  narrowBelow : Bool
deriving DecidableEq, Repr

def Binary64.dyadic (x : Binary64) : Dyadic :=
  let exponent : Nat := x.magnitude / exponentWeight
  let fraction : Nat := x.magnitude % exponentWeight
  if exponent = 0 then ⟨fraction, -1074, false⟩
  else ⟨exponentWeight + fraction, (exponent : Int) - 1075, fraction == 0 && exponent > 1⟩

structure Numeral where
  digits : Nat
  exp : Int
deriving DecidableEq, Repr

/-- Compares `a * 10 ^ i` with `n * 2 ^ j`. -/
def compareScaled (a : Nat) (i : Int) (n : Nat) (j : Int) : Ordering :=
  compare ((a * Nat.pow 10 i.toNat) <<< (-j).toNat) ((n * Nat.pow 10 (-i).toNat) <<< j.toNat)

/-- The decimal lies among the reals that round to the double: between the midpoints to its
two neighbours, the ends included exactly when the significand is even. -/
def Dyadic.readsBack (x : Dyadic) (d : Numeral) : Bool :=
  let low := if x.narrowBelow then 4 * x.m - 1 else 4 * x.m - 2
  let even := x.m % 2 == 0
  let above := compareScaled d.digits d.exp low (x.q - 2)
  let below := compareScaled d.digits d.exp (4 * x.m + 2) (x.q - 2)
  (above == .gt || (even && above == .eq)) && (below == .lt || (even && below == .eq))

/-- The least `k` with `m * 2 ^ q < 10 ^ k`. The binary logarithm bounds it from below, and
it is at most three above that bound. -/
def Dyadic.scale (x : Dyadic) : Int :=
  let base := Int.fdiv (((x.m.log2 : Int) + x.q) * 30103) 100000 - 1
  ((List.range 4).map fun i => base + Int.ofNat i).find?
    (fun k => compareScaled 1 k x.m x.q == .gt) |>.getD (base + 3)

/-- The decimals on the grid `10 ^ g` next to the double, reduced to one that reads back. -/
def Dyadic.onGrid? (x : Dyadic) (tie : Tie) (g : Int) : Option Numeral :=
  let num := (x.m * Nat.pow 10 (-g).toNat) <<< x.q.toNat
  let den := Nat.pow 10 g.toNat <<< (-x.q).toNat
  let low := num / den
  let near := roundDiv num den tie
  let far := if near = low then low + 1 else low
  [near, far].map (Numeral.mk · g) |>.find? x.readsBack

def Numeral.strip : Nat → Numeral → Numeral
  | 0, d => d
  | fuel + 1, d =>
      if d.digits % 10 = 0 ∧ d.digits ≠ 0 then strip fuel ⟨d.digits / 10, d.exp + 1⟩ else d

/-- The shortest decimal that reads back as a positive double. Seventeen digits always
suffice; were they not to, the exact value is taken. -/
def Dyadic.shortest (x : Dyadic) (tie : Tie) : Numeral :=
  let found := (List.range 17).findSome? fun i => x.onGrid? tie (x.scale - 1 - Int.ofNat i)
  let exact : Numeral :=
    if x.q < 0 then ⟨x.m * Nat.pow 5 (-x.q).toNat, x.q⟩ else ⟨x.m <<< x.q.toNat, 0⟩
  let d := found.getD exact
  d.strip (d.digits.log2 + 1)

structure Layout where
  /-- The least exponent of the leading digit that is written positionally. -/
  plainFrom : Int
  /-- The greatest exponent of the leading digit that is written positionally. -/
  plainTo : Int
  /-- A plus sign stands before a positive exponent. -/
  exponentPlus : Bool
  tie : Tie
  nan : String
  infinity : String

def zeros (count : Nat) : String := String.ofList (List.replicate count '0')

def Layout.positive (layout : Layout) (d : Numeral) : String :=
  let digits := (toString d.digits).toList
  let exponent := d.exp + digits.length - 1
  if layout.plainFrom ≤ exponent ∧ exponent ≤ layout.plainTo then
    if 0 ≤ d.exp then String.ofList digits ++ zeros d.exp.toNat ++ ".0"
    else if 0 ≤ exponent then
      let whole := exponent.toNat + 1
      String.ofList (digits.take whole) ++ "." ++ String.ofList (digits.drop whole)
    else "0." ++ zeros (-exponent - 1).toNat ++ String.ofList digits
  else
    let fraction := if digits.length ≤ 1 then "" else "." ++ String.ofList (digits.drop 1)
    let sign := if exponent < 0 then "-" else if layout.exponentPlus then "+" else ""
    String.ofList (digits.take 1) ++ fraction ++ "e" ++ sign ++ toString exponent.natAbs

def Layout.text (layout : Layout) (x : Binary64) : String :=
  if x.isNaN then layout.nan
  else
    let sign := if x.negative then "-" else ""
    if x.isInfinite then sign ++ layout.infinity
    else if x.magnitude = 0 then sign ++ "0.0"
    else sign ++ layout.positive (x.dyadic.shortest layout.tie)

end BoundSql.Decimal
