import BoundSql.Snowflake.Generator

/-!
A clock that is moved by hand, for hosts whose answers have to be repeatable. It shows the
readings of a queue and then stands still, except that whoever goes on reading it within one
call sees it move; sleeping moves it by a multiple of the time slept.
-/

namespace BoundSql.Rehearsal

structure ScriptedClock where
  now : Int
  /-- How many milliseconds pass in each millisecond that is slept. -/
  factor : Int
  queue : List Int
  reads : Nat
  slept : Nat
  /-- The readings that the current call may still make. -/
  patience : Nat
deriving DecidableEq, Repr

namespace ScriptedClock

def callPatience : Nat := 1000000000000

/-- How many readings of a standing clock show the same time within one call. -/
def steadyReads : Nat := 6

def ofNow (now : Int) : ScriptedClock := ⟨now, 0, [], 0, 0, callPatience⟩

instance : Inhabited ScriptedClock := ⟨.ofNow 0⟩

def begin (clock : ScriptedClock) : ScriptedClock :=
  { clock with reads := 0, slept := 0, patience := callPatience }

def read (clock : ScriptedClock) : Option (Int × ScriptedClock) :=
  match clock.patience with
  | 0 => none
  | patience + 1 =>
      let reads := clock.reads + 1
      let (now, queue) := match clock.queue with
        | now :: queue => (now, queue)
        | [] => (if steadyReads < reads then clock.now + 1 else clock.now, [])
      some (now, { clock with now, queue, reads, patience })

def sleep (duration : Nat) (clock : ScriptedClock) : ScriptedClock :=
  { clock with slept := clock.slept + duration, now := clock.now + duration * clock.factor }

theorem patience_read {clock later : ScriptedClock} {now : Int}
    (h : clock.read = some (now, later)) : later.patience < clock.patience := by
  unfold read at h
  split at h
  · simp at h
  · rename_i patience h'
    simp only [Option.some.injEq, Prod.mk.injEq] at h
    rw [← h.2, h']
    simp

/-- The clock as a source of time, with every start at the first place. -/
def clock : Snowflake.Clock ScriptedClock where
  read := read
  supply := patience
  supply_read := fun _ _ _ h => patience_read h
  sleep := sleep
  start := fun clock => (.one, clock)

end ScriptedClock

end BoundSql.Rehearsal
