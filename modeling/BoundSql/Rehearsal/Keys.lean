import BoundSql.Rehearsal.Host
import BoundSql.KeyAssignment

/-!
Key generators of a host without a database.
-/

namespace BoundSql.Rehearsal

inductive GeneratorScript where
  | constant (value : Value)
  /-- The names of the entities, numbered from zero. -/
  | numbered (stem : String)
  | failing (reason : String)
deriving DecidableEq, Repr, Inhabited

def GeneratorScript.generator (number : Nat) : GeneratorScript → KeyGenerator Host
  | .constant value => fun _ => pure value
  | .numbered stem => fun entity => do
      return .text (stem ++ entity ++ "-" ++ toString (← Host.ask number))
  | .failing reason => fun entity => throw (.custom (reason ++ " " ++ entity))

def generators (scripts : List (String × GeneratorScript)) : Registry (KeyGenerator Host) :=
  .ofList (scripts.mapIdx fun number entry => (entry.1, entry.2.generator number))

def countedKeys (scripts : List (String × GeneratorScript)) : KeySources Host :=
  ⟨Host.countedId, Host.uuid, generators scripts⟩

def timedKeys (node : NodeId) (scripts : List (String × GeneratorScript)) : KeySources Host :=
  ⟨Host.timedId node, Host.uuid, generators scripts⟩

end BoundSql.Rehearsal
