import BoundSql.Rehearsal.Host

/-!
Watching a generator on a scripted clock. The first place in a millisecond is random, so places
are told relative to it: an observer remembers the place with which the clock's millisecond was
entered, unless that place is none that chance could have chosen.
-/

namespace BoundSql.Rehearsal

structure Sighting where
  result : Except Error Int64
  /-- The random start of the millisecond, if it had one. -/
  start : Option Nat
  reads : Nat
  slept : Nat

structure Observer where
  host : Host
  node : NodeId
  /-- What the clock showed after the last id. -/
  millisecond : Int
  start : Option Nat

namespace Observer

def ofNode (node : NodeId) : Observer := ⟨default, node, -1, none⟩

def adjust (observer : Observer) (change : ScriptedClock → ScriptedClock) : Observer :=
  { observer with host := { observer.host with clock := change observer.host.clock } }

def isStart (place : Nat) : Bool :=
  [Snowflake.Start.one, .two].any fun start => start.sequence.val = place

def place (id : Int64) : Nat := (Snowflake.decompose id).sequence.val

def next (observer : Observer) : Sighting × Observer :=
  let (result, host) := (Host.timedId observer.node).run observer.host
  let clock := host.clock
  match result with
  | .error e => (⟨.error e, none, clock.reads, clock.slept⟩, { observer with host })
  | .ok id =>
      let start := if clock.now = observer.millisecond then observer.start
        else if isStart (place id) then some (place id) else none
      (⟨.ok id, start, clock.reads, clock.slept⟩,
        { observer with host, start, millisecond := clock.now })

def times : Nat → Observer → List Sighting × Observer
  | 0, observer => ([], observer)
  | n + 1, observer =>
      let (sighting, observer) := observer.next
      let (sightings, observer) := observer.times n
      (sighting :: sightings, observer)

/-- Requests ids until one fails or belongs to another millisecond, and counts them. -/
def untilChange (millisecond : Int) :
    Nat → Nat → Sighting → Observer → (Nat × Sighting) × Observer
  | 0, count, last, observer => ((count, last), observer)
  | fuel + 1, count, _, observer =>
      let (sighting, observer) := observer.next
      if sighting.result.toBool && observer.millisecond == millisecond then
        observer.untilChange millisecond fuel (count + 1) sighting
      else ((count + 1, sighting), observer)

def exhaustionLimit : Nat := 5000

/-- Uses a millisecond up: the number of places from its beginning to the last request, unless
the first one failed, and what the last request showed. -/
def exhaust (observer : Observer) : (Option Nat × Sighting) × Observer :=
  let (sighting, observer) := observer.next
  match sighting.result with
  | .error _ => ((none, sighting), observer)
  | .ok id =>
      let ((count, last), observer) :=
        observer.untilChange observer.millisecond exhaustionLimit (place id) sighting
      ((some count, last), observer)

end Observer

end BoundSql.Rehearsal
