import BoundSql.Config.BatchSize
import BoundSql.Session.Operation

/-!
Batches of bounded size. A list for a batch statement is cut into chunks that are executed in
order; the first chunk that fails ends the run, and what was executed before stays executed.
Every other parameter is passed on as it is.
-/

namespace BoundSql

namespace BatchSize

variable {σ α : Type}

/-- Cuts a list into pieces of this size; the last one may be shorter, and none is empty. -/
def chunks (max : BatchSize) : List α → List (List α)
  | [] => []
  | item :: items =>
      (item :: items).take max.size :: max.chunks ((item :: items).drop max.size)
termination_by items => items.length
decreasing_by
  have := max.size_pos
  simp only [List.length_drop, List.length_cons]
  omega

theorem flatten_chunks (max : BatchSize) (items : List α) :
    (max.chunks items).flatten = items := by
  fun_induction chunks max items with
  | case1 => rfl
  | case2 item items ih => rw [List.flatten_cons, ih, List.take_append_drop]

theorem length_le_of_mem_chunks (max : BatchSize) (items chunk : List α)
    (mem : chunk ∈ max.chunks items) : chunk.length ≤ max.size := by
  fun_induction chunks max items with
  | case1 => simp at mem
  | case2 item items ih =>
    rcases List.mem_cons.1 mem with rfl | later
    · exact List.length_take_le _ _
    · exact ih later

theorem ne_nil_of_mem_chunks (max : BatchSize) (items chunk : List α)
    (mem : chunk ∈ max.chunks items) : chunk ≠ [] := by
  fun_induction chunks max items with
  | case1 => simp at mem
  | case2 item items ih =>
    rcases List.mem_cons.1 mem with rfl | later
    · have := max.size_pos
      intro empty
      have : ((item :: items).take max.size).length = 0 := by rw [empty]; rfl
      simp only [List.length_take, List.length_cons] at this
      omega
    · exact ih later

def executeChunks (execute : Executor σ α) (operation : Operation) (chunks : List (List α)) :
    Action σ Nat :=
  chunks.foldlM (fun total chunk => do return total + (← execute operation (.list chunk))) 0

def execute (max : BatchSize) (execute : Executor σ α) (operation : Operation) :
    Parameter α → Action σ Nat
  | .single item => execute operation (.single item)
  | .list items =>
      if !operation.batch then execute operation (.list items)
      else if items.isEmpty then pure 0
      else if items.length ≤ max.size then execute operation (.list items)
      else executeChunks execute operation (max.chunks items)

end BatchSize

end BoundSql
