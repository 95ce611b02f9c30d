import BoundSql.Action
import BoundSql.Registry

/-!
Registered statements, and what the host's executor is called with: a statement and either a
single item or a list of items.
-/

namespace BoundSql

inductive OperationKind where
  | select
  | insert
  | update
  | delete
deriving DecidableEq, Repr, Inhabited

def OperationKind.name : OperationKind → String
  | .select => "Select"
  | .insert => "Insert"
  | .update => "Update"
  | .delete => "Delete"

/-- A registered statement; one that can take part in batches accepts lists of bounded size. -/
structure Operation where
  id : String
  kind : OperationKind
  batch : Bool
deriving DecidableEq, Repr, Inhabited

abbrev OperationRegistry := Registry Operation

namespace OperationRegistry

def add (registry : OperationRegistry) (operation : Operation) : OperationRegistry :=
  registry.register operation.id operation

def get (registry : OperationRegistry) (id : String) : Except Error Operation :=
  match registry.find? id with
  | some operation => .ok operation
  | none => .error (.unknownStatement id)

/-- The statement of an id, which has to be of a kind. -/
def require (registry : OperationRegistry) (id : String) (kind : OperationKind) :
    Except Error Operation := do
  let operation ← registry.get id
  if operation.kind = kind then return operation
  else throw (.custom ("Statement '" ++ id ++ "' is registered as " ++ operation.kind.name ++
    ", not " ++ kind.name))

end OperationRegistry

inductive Parameter (α : Type) where
  | single (item : α)
  | list (items : List α)
deriving Repr

def Parameter.items {α : Type} : Parameter α → List α
  | .single item => [item]
  | .list items => items

abbrev Executor (σ α : Type) := Operation → Parameter α → Action σ Nat

end BoundSql
