import BoundSql.Rehearsal.Host

/-!
An executor that keeps a journal in the place of a database. It can build the SQL of what it is
given, can be told to fail at a call of a given number, and answers with a given number of rows
or else with the number of items.
-/

namespace BoundSql.Rehearsal

structure ExecutionScript where
  /-- The calls that fail, by number, with a reason and what lies behind it. -/
  failures : List (Nat × (String × Option String))
  rows : List Nat
deriving DecidableEq, Repr, Inhabited

/-- The SQL to be built for the entities and keys of a schema. -/
structure Rendering where
  dialect : Dialect
  selective : Bool
  logical : Bool
deriving DecidableEq, Repr

def Rendering.command (rendering : Rendering) (kind : OperationKind) :
    Parameter Row → Command
  | .single row =>
      if kind = .insert then .insert row rendering.selective
      else .updateById row rendering.selective
  | .list rows =>
      if kind = .insert then .insertMany rows rendering.selective
      else .updateMany rows rendering.selective

def keyLabel (mapping : Mapping) (row : Row) : Value :=
  match mapping.key? with
  | some key => (row.value? key.name).getD .null
  | none => .text "keyless"

namespace ExecutionScript

variable {α : Type}

/-- Executes a statement whose SQL is built by `render`; the journal shows the labels of the
items. A call is counted even if it fails, and enters the journal only if it succeeds. -/
def execute (script : ExecutionScript) (label : α → Value)
    (render : Operation → Parameter α → Except Error (Option BoundStatement)) :
    Executor Host α := fun operation parameter host =>
  let items := parameter.items
  let called := { host with calls := host.calls + 1 }
  match render operation parameter, script.failures.lookup host.calls with
  | .error e, _ => (.error e, called)
  | .ok _, some (reason, source) => (.error (.execution operation.id reason source), called)
  | .ok rendered, none =>
      let isList := match parameter with
        | .single _ => false
        | .list _ => true
      let entry := ⟨operation, isList, items.map label, rendered⟩
      (.ok ((script.rows[host.calls]?).getD items.length),
        { called with journal := entry :: host.journal })

def executeItems (script : ExecutionScript) (label : α → Value) : Executor Host α :=
  script.execute label fun _ _ => .ok none

/-- Executes statements on rows; a schema that is no mapping is an error before the call. -/
def executeRows (script : ExecutionScript) (rendering : Option Rendering) (schema : Schema) :
    Executor Host Row := fun operation parameter =>
  match schema.mapping with
  | .error e => throw e
  | .ok mapping =>
      script.execute (keyLabel mapping)
        (fun operation parameter => rendering.mapM fun rendering =>
          (rendering.command operation.kind parameter).build schema rendering.dialect)
        operation parameter

def executeKeys (script : ExecutionScript) (rendering : Option Rendering) (schema : Schema) :
    Executor Host Value :=
  script.execute id fun _ parameter => rendering.mapM fun rendering =>
    (Command.delete (.ids parameter.items) rendering.logical).build schema rendering.dialect

end ExecutionScript

end BoundSql.Rehearsal
