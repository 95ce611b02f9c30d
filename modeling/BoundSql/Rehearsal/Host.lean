import BoundSql.Command.Sql
import BoundSql.Rehearsal.Counter
import BoundSql.Rehearsal.ScriptedClock
import BoundSql.Session.Operation

/-!
The state of a host that runs without a database: a counter and a clock for ids, how often each
key generator was asked, and a journal of the executed statements.
-/

namespace BoundSql.Rehearsal

structure JournalEntry where
  operation : Operation
  /-- It was executed with a list. -/
  isList : Bool
  items : List Value
  rendered : Option BoundStatement
deriving DecidableEq, Repr, Inhabited

structure Host where
  counter : Counter
  clock : ScriptedClock
  ids : Snowflake.State
  /-- How often the key generators were asked, by their numbers. -/
  asked : Nat → Nat
  /-- How many statements were given out for execution, failed ones included. -/
  calls : Nat
  /-- The statements executed, the last one first. -/
  journal : List JournalEntry

namespace Host

def ofCounter (counter : Counter) : Host := ⟨counter, default, default, fun _ => 0, 0, []⟩

instance : Inhabited Host := ⟨.ofCounter default⟩

def countedId : Action Host Int64 := fun host =>
  let (result, counter) := host.counter.draw
  (result, { host with counter })

def timedId (node : NodeId) : Action Host Int64 := fun host =>
  let (result, ids, clock) :=
    (Snowflake.next ScriptedClock.clock node).run (host.ids, host.clock.begin)
  (result, { host with ids, clock })

/-- An identifier in the form of a random one: the digits that tell its form are set. -/
def uuid : StateM Host String := pure "00000000000040008000000000000000"

def ask (number : Nat) : StateM Host Nat := fun host =>
  (host.asked number, { host with
    asked := fun other => if other = number then host.asked number + 1 else host.asked other })

end Host

end BoundSql.Rehearsal
