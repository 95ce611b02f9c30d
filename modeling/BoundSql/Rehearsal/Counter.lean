import BoundSql.Error

/-!
A counter that stands in for a generator of ids. It can be told to fail once, at a call of a
given number; the failing call uses up no id.
-/

namespace BoundSql.Rehearsal

structure Counter where
  next : Int64
  step : Int64
  /-- The number of the failing call, counted from zero. -/
  failAt : Option Nat
  calls : Nat
deriving DecidableEq, Repr

namespace Counter

def ofStart (start step : Int64) (failAt : Option Nat) : Counter := ⟨start, step, failAt, 0⟩

instance : Inhabited Counter := ⟨.ofStart 1 1 none⟩

def failureDrift : Int := 7

def draw (counter : Counter) : Except Error Int64 × Counter :=
  let called := { counter with calls := counter.calls + 1 }
  if counter.failAt = some counter.calls then (.error (.clockRollback failureDrift), called)
  else (.ok counter.next, { called with next := counter.next + counter.step })

end Counter

end BoundSql.Rehearsal
