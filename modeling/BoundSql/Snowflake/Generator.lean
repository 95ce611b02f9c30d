import BoundSql.Action
import BoundSql.Snowflake.Layout

/-!
Generating time-ordered ids. A generator remembers the millisecond and the place of its last id.
It never goes back: a clock that went back a little is waited for once, one that went back
further is an error, and neither changes the generator. When all places of a millisecond are
used, the clock is read until it shows a later one.
-/

namespace BoundSql.Snowflake

/-- The first place in a millisecond that was not entered by waiting. -/
inductive Start where
  | one
  | two
deriving DecidableEq, Repr, Inhabited

def Start.sequence : Start → Sequence
  | .one => ⟨1, by decide⟩
  | .two => ⟨2, by decide⟩

/-- Time and chance as a host offers them. A clock may move in any way; it has a finite supply
of readings, so that waiting for a later reading ends. -/
structure Clock (σ : Type) where
  /-- The current time in milliseconds; `none` when the supply has run out. -/
  read : σ → Option (Int × σ)
  /-- How many readings there are at most. -/
  supply : σ → Nat
  supply_read : ∀ s reading s', read s = some (reading, s') → supply s' < supply s
  sleep : Nat → σ → σ
  start : σ → Start × σ

structure State where
  last : Int
  sequence : Sequence
deriving DecidableEq, Repr

def State.initial : State := ⟨-1, .first⟩

instance : Inhabited State := ⟨State.initial⟩

/-- How far back a clock may go and still be waited for, in milliseconds. -/
def tolerance : Int := 5

variable {σ : Type}

def Clock.readAfter (clock : Clock σ) (last : Int) (s : σ) : Option Int × σ :=
  match _h : clock.read s with
  | none => (none, s)
  | some (now, s') => if last < now then (some now, s') else clock.readAfter last s'
termination_by clock.supply s
decreasing_by exact clock.supply_read s now s' _h

/-- A reading that does not lie before `last`. A clock that is behind by no more than the
tolerance gets twice that time to catch up, once. -/
def Clock.readFrom (clock : Clock σ) (last : Int) (s : σ) : Except Error Int × σ :=
  match clock.read s with
  | none => (.error .clockStopped, s)
  | some (now, s) =>
      if last ≤ now then (.ok now, s)
      else if tolerance < last - now then (.error (.clockRollback (last - now)), s)
      else
        let s := clock.sleep (2 * (last - now).toNat) s
        match clock.read s with
        | none => (.error .clockStopped, s)
        | some (now, s) =>
            if last ≤ now then (.ok now, s) else (.error (.clockRollback (last - now)), s)

def Clock.advance (clock : Clock σ) (state : State) (s : σ) : Except Error State × σ :=
  match clock.readFrom state.last s with
  | (.error e, s) => (.error e, s)
  | (.ok now, s) =>
      if now = state.last then
        match state.sequence.next? with
        | some sequence => (.ok ⟨now, sequence⟩, s)
        | none =>
            match clock.readAfter state.last s with
            | (none, s) => (.error .clockStopped, s)
            | (some now, s) => (.ok ⟨now, .first⟩, s)
      else
        let (start, s) := clock.start s
        (.ok ⟨now, start.sequence⟩, s)

def State.id (state : State) (node : NodeId) : Int64 :=
  compose ⟨state.last, node, state.sequence⟩

/-- Issues the next id. A failure leaves the generator as it was. -/
def next (clock : Clock σ) (node : NodeId) : Action (State × σ) Int64 := fun (state, s) =>
  match clock.advance state s with
  | (.error e, s) => (.error e, (state, s))
  | (.ok state, s) => (.ok (state.id node), (state, s))

end BoundSql.Snowflake
