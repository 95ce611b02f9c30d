import BoundSql.Error

/-!
Actions on a host. Clocks, generators, fill handlers and executors belong to the host, and all
of them may change its state. An action that fails keeps the state it has reached: what the host
has done is not undone.
-/

namespace BoundSql

abbrev Action (σ : Type) := ExceptT Error (StateM σ)

/-- Steps through a list, changing each entry in turn, until a step fails. The entry at which it
fails is kept as the step left it, and the entries after it are not touched. -/
def advance {σ α β : Type} (step : α → StateM σ (α × Except Error β)) :
    List α → StateM σ (List α × Except Error (List β))
  | [] => pure ([], .ok [])
  | a :: rest => do
      match ← step a with
      | (a, .error e) => pure (a :: rest, .error e)
      | (a, .ok b) =>
          let (rest, result) ← advance step rest
          pure (a :: rest, result.map (b :: ·))

end BoundSql
