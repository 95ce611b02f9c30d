import BoundSql.Config.Setting
import BoundSql.Text.Integer

/-!
The id of the node on which ids are generated, one of 1024. An id given by the caller comes
first, then one from the environment, and only if neither is there one derived from the host.
A bad id is an error and never replaced by one of lower rank.
-/

namespace BoundSql

abbrev NodeId := Fin 1024

inductive NodeSource where
  | explicit
  | environment
  | derived
  | fallback
deriving DecidableEq, Repr, Inhabited

namespace NodeId

def environmentKey : String := "SNOWFLAKE_NODE_ID"

def ofInt? (id : Int) : Option NodeId :=
  if h : 0 ≤ id ∧ id ≤ 1023 then some ⟨id.toNat, by omega⟩ else none

def check (id : Int) : Except Error NodeId :=
  match ofInt? id with
  | some node => .ok node
  | none => .error (.setting "nodeId" (toString id) "must be between 0 and 1023")

def parse (raw : String) : Except Error NodeId :=
  match (Text.integer? (Text.trim raw)).bind ofInt? with
  | some node => .ok node
  | none => .error (.setting environmentKey raw "must be an integer between 0 and 1023")

structure Machine where
  process : UInt32
  setting? : String → Option String
  /-- The text of a file, where it can be read. -/
  file? : String → Option String

def hostVariables : List String := ["HOSTNAME", "COMPUTERNAME"]

def hostFiles : List String := ["/proc/sys/kernel/hostname", "/etc/hostname"]

/-- The name of the host: the first one found that is not blank. -/
def Machine.hostName (machine : Machine) : Option String :=
  ((hostVariables.filterMap machine.setting? ++ hostFiles.filterMap machine.file?).map
    Text.trim).find? fun name => !name.isEmpty

/-- The text that tells this process on this host from others. -/
def Machine.seed (machine : Machine) : Option String :=
  machine.hostName.map fun name => toString machine.process ++ "@" ++ name

def derive (hash : String → UInt64) (machine : Machine) : Option NodeId :=
  machine.seed.map fun seed => ⟨(hash seed).toNat % 1024, Nat.mod_lt _ (by decide)⟩

def fallback : NodeId := 1

/-- The node id by rank: a given number, a configured text that is not blank, the host. -/
def resolve (explicit : Option Int) (configured : Option String) (host : Option NodeId) :
    Except Error (NodeId × NodeSource) :=
  match explicit, configured.filter fun raw => !Text.blank raw with
  | some id, _ => do return (← check id, .explicit)
  | none, some raw => do return (← parse raw, .environment)
  | none, none =>
      match host with
      | some node => .ok (node, .derived)
      | none => .ok (fallback, .fallback)

def ofEnvironment (setting : Setting) (host : Option NodeId) :
    Except Error (NodeId × NodeSource) := do
  let configured ← setting.read environmentKey
  resolve none configured host

end NodeId

end BoundSql
