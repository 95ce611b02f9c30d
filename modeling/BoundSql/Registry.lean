import BoundSql.Association

/-!
Things registered by name. The entries stand in the order of their names by code point, and
registering a name again replaces its entry.
-/

namespace BoundSql

structure Registry (α : Type) where
  entries : List (String × α)
deriving Repr

namespace Registry

variable {α : Type}

def empty : Registry α := ⟨[]⟩

instance : Inhabited (Registry α) := ⟨empty⟩

def register (registry : Registry α) (name : String) (a : α) : Registry α :=
  ⟨Association.insert name a registry.entries⟩

def find? (registry : Registry α) (name : String) : Option α := registry.entries.lookup name

def contains (registry : Registry α) (name : String) : Bool := (registry.find? name).isSome

def names (registry : Registry α) : List String := registry.entries.map (·.1)

def size (registry : Registry α) : Nat := registry.entries.length

/-- What is registered last under a name is found there, and no other name is affected. -/
theorem find?_register (registry : Registry α) (name other : String) (a : α) :
    (registry.register name a).find? other =
      if other = name then some a else registry.find? other :=
  Association.lookup_insert name other a registry.entries

def ofList (entries : List (String × α)) : Registry α :=
  entries.foldl (fun registry entry => registry.register entry.1 entry.2) empty

end Registry

end BoundSql
