import Mathlib
import BoundSql.Session.Batch
import BoundSql.Proofs.Journal

/-!
The calls that a batch makes. A journal of calls tells for each of them what the executor was
called with and what it answered. A long list for a batch statement is sent in pieces that are
told by their positions in the list: the piece `j` begins at `j` times the batch size. They are
sent in order, up to the first that fails, and nothing else is sent.
-/

namespace BoundSql

variable {σ ε α : Type}

structure Call (α : Type) where
  operation : Operation
  parameter : Parameter α
  answer : Except Error Nat

def Executor.journaled (note : Call α → ε) (executor : Executor σ α) :
    Executor (σ × List ε) α := fun operation parameter =>
  noting (fun answer => note ⟨operation, parameter, answer⟩) (executor operation parameter)

namespace BatchSize

/-- The piece of a list that begins at `j` times the batch size and ends before the next one. -/
def piece (max : BatchSize) (items : List α) (j : Nat) : List α :=
  items.extract (j * max.size) (min ((j + 1) * max.size) items.length)

/-- How many pieces a list has: its length divided by the batch size, rounded up. -/
def pieceCount (max : BatchSize) (items : List α) : Nat :=
  (items.length + (max.size - 1)) / max.size

variable (max : BatchSize)

theorem piece_eq_take_drop (items : List α) (j : Nat) :
    max.piece items j = (items.drop (j * max.size)).take max.size := by
  have width : (j + 1) * max.size = j * max.size + max.size := Nat.succ_mul j max.size
  rw [piece, List.extract_eq_take_drop, width]
  by_cases inside : j * max.size + max.size ≤ items.length
  · rw [Nat.min_eq_left inside, Nat.add_sub_cancel_left]
  · have beyond : items.length ≤ j * max.size + max.size := by omega
    rw [Nat.min_eq_right beyond, List.take_of_length_le (by simp),
      List.take_of_length_le (by simp; omega)]

theorem piece_succ (items : List α) (j : Nat) :
    max.piece items (j + 1) = max.piece (items.drop max.size) j := by
  rw [piece_eq_take_drop, piece_eq_take_drop, List.drop_drop, Nat.succ_mul, Nat.add_comm]

theorem piece_count_drop {items : List α} (nonempty : items ≠ []) :
    max.pieceCount items = max.pieceCount (items.drop max.size) + 1 := by
  have positive := max.size_pos
  have some : 0 < items.length := List.length_pos_iff.mpr nonempty
  rw [pieceCount, pieceCount, List.length_drop]
  by_cases more : max.size ≤ items.length
  · rw [← Nat.add_div_right _ positive]
    congr 1
    omega
  · have rest : items.length - max.size = 0 := by omega
    have none : (0 + (max.size - 1)) / max.size = 0 := Nat.div_eq_of_lt (by omega)
    have one : (items.length + (max.size - 1)) / max.size = 1 := by
      apply Nat.div_eq_of_lt_le <;> omega
    rw [rest, none, one]

theorem chunks_eq_pieces (items : List α) :
    max.chunks items = (List.range (max.pieceCount items)).map (max.piece items) := by
  fun_induction chunks max items with
  | case1 =>
      have positive := max.size_pos
      have none : max.pieceCount ([] : List α) = 0 :=
        Nat.div_eq_of_lt (by rw [List.length_nil]; omega)
      rw [none]
      rfl
  | case2 item items ih =>
      have first : max.piece (item :: items) 0 = (item :: items).take max.size := by
        rw [piece_eq_take_drop, Nat.zero_mul, List.drop_zero]
      have later : max.piece (item :: items) ∘ Nat.succ =
          max.piece ((item :: items).drop max.size) := by
        funext j
        exact max.piece_succ _ j
      rw [max.piece_count_drop (List.cons_ne_nil item items), List.range_succ_eq_map,
        List.map_cons, List.map_map, first, later, ih]

theorem mem_chunks_piece {items : List α} {j : Nat} (inside : j < max.pieceCount items) :
    max.piece items j ∈ max.chunks items := by
  rw [chunks_eq_pieces]
  exact List.mem_map_of_mem (List.mem_range.mpr inside)

inductive Executed (operation : Operation) :
    List (List α) → List (Call α) → Except Error Nat → Prop where
  | nil : Executed operation [] [] (.ok 0)
  | failed (chunk : List α) (rest : List (List α)) (e : Error) :
      Executed operation (chunk :: rest) [⟨operation, .list chunk, .error e⟩] (.error e)
  | cons (chunk : List α) (r : Nat) {rest : List (List α)} {calls : List (Call α)}
      {result : Except Error Nat} (later : Executed operation rest calls result) :
      Executed operation (chunk :: rest) (⟨operation, .list chunk, .ok r⟩ :: calls)
        (result.map (r + ·))

/-- The calls of a statement with a parameter and its result. A parameter is sent as a whole, not
at all, in all its pieces, or in its pieces up to one that fails. -/
inductive Trace (max : BatchSize) (operation : Operation) :
    Parameter α → List (Call α) → Except Error Nat → Prop where
  | single (item : α) (answer : Except Error Nat) :
      Trace max operation (.single item) [⟨operation, .single item, answer⟩] answer
  | plain (items : List α) (answer : Except Error Nat) (noBatch : operation.batch = false) :
      Trace max operation (.list items) [⟨operation, .list items, answer⟩] answer
  | empty (batch : operation.batch = true) : Trace max operation (.list []) [] (.ok 0)
  | short (items : List α) (answer : Except Error Nat) (batch : operation.batch = true)
      (some : 0 < items.length) (fits : items.length ≤ max.size) :
      Trace max operation (.list items) [⟨operation, .list items, answer⟩] answer
  | pieces (items : List α) (rows : List Nat) (batch : operation.batch = true)
      (long : max.size < items.length) (count : rows.length = max.pieceCount items) :
      Trace max operation (.list items)
        (rows.mapIdx fun j r => ⟨operation, .list (max.piece items j), .ok r⟩) (.ok rows.sum)
  | stopped (items : List α) (rows : List Nat) (e : Error) (batch : operation.batch = true)
      (long : max.size < items.length) (count : rows.length < max.pieceCount items) :
      Trace max operation (.list items)
        ((rows.mapIdx fun j r => ⟨operation, .list (max.piece items j), .ok r⟩) ++
          [⟨operation, .list (max.piece items rows.length), .error e⟩]) (.error e)

theorem call_journals (note : Call α → ε) (executor : Executor σ α) (operation : Operation)
    (chunk : List α) (total : Nat) :
    Journals
      (do return total + (← executor.journaled note operation (.list chunk)) :
        Action (σ × List ε) Nat).run
      (do return total + (← executor operation (.list chunk)) : Action σ Nat).run
      fun result added => ∃ answer, added = [note ⟨operation, .list chunk, answer⟩] ∧
        result = answer.map (total + ·) := by
  have called := noting_journals (fun answer => note ⟨operation, .list chunk, answer⟩)
    (executor operation (.list chunk))
  have summed := called.bind_action fun r => Journals.pure (Except.ok (total + r))
  apply summed.weaken
  intro result added ran
  obtain ⟨e, failed, noted⟩ | ⟨r, before, after, both, noted, same, nothing⟩ := ran
  · exact ⟨.error e, noted, failed⟩
  · rw [noted, nothing] at both
    exact ⟨.ok r, both, same⟩

/-- Chunks that are executed after others add their rows to those of the others. -/
theorem execute_chunks_journals (note : Call α → ε) (executor : Executor σ α)
    (operation : Operation) (chunks : List (List α)) (total : Nat) :
    Journals
      (chunks.foldlM (fun total chunk => do
        return total + (← executor.journaled note operation (.list chunk))) total :
          Action (σ × List ε) Nat).run
      (chunks.foldlM (fun total chunk => do
        return total + (← executor operation (.list chunk))) total : Action σ Nat).run
      fun result added => ∃ calls answer, added = calls.map note ∧
        Executed operation chunks calls answer ∧ result = answer.map (total + ·) := by
  induction chunks generalizing total with
  | nil => exact .finished ⟨[], .ok 0, rfl, .nil, rfl⟩
  | cons chunk rest ih =>
      apply ((call_journals note executor operation chunk total).bind_action ih).weaken
      intro result added ran
      obtain ⟨e, failed, answer, noted, same⟩ |
        ⟨sum, before, after, both, ⟨answer, noted, same⟩, calls, later, noted', executed, last⟩ :=
          ran
      · cases answer with
        | error e' =>
            have equal : e = e' := Except.error.inj same
            rw [equal] at failed
            exact ⟨[_], .error e', noted, .failed chunk rest e', failed⟩
        | ok r => cases same
      · cases answer with
        | error e => cases same
        | ok r =>
            have equal : sum = total + r := Except.ok.inj same
            refine ⟨_, _, ?_, .cons chunk r executed, ?_⟩
            · rw [both, noted, noted']
              rfl
            · rw [last, equal]
              cases later with
              | error e => rfl
              | ok rows => exact congrArg Except.ok (Nat.add_assoc total r rows)

/-- The calls of the pieces of a list, told by their positions. -/
theorem Executed.by_position {operation : Operation} {calls : List (Call α)}
    {result : Except Error Nat} (count : Nat) (piece : Nat → List α)
    (executed : Executed operation ((List.range count).map piece) calls result) :
    (∃ rows : List Nat, rows.length = count ∧ result = .ok rows.sum ∧
      calls = rows.mapIdx fun j r => ⟨operation, .list (piece j), .ok r⟩) ∨
    ∃ (rows : List Nat) (e : Error), rows.length < count ∧ result = .error e ∧
      calls = (rows.mapIdx fun j r => ⟨operation, .list (piece j), .ok r⟩) ++
        [⟨operation, .list (piece rows.length), .error e⟩] := by
  induction count generalizing piece calls result with
  | zero =>
      cases executed
      exact Or.inl ⟨[], rfl, rfl, rfl⟩
  | succ count ih =>
      rw [List.range_succ_eq_map, List.map_cons, List.map_map] at executed
      cases executed with
      | failed _ _ e => exact Or.inr ⟨[], e, Nat.succ_pos count, rfl, rfl⟩
      | cons _ r later =>
          obtain ⟨rows, length, sum, same⟩ | ⟨rows, e, short, failed, same⟩ := ih _ later
          · refine Or.inl ⟨r :: rows, congrArg Nat.succ length, ?_, ?_⟩
            · rw [sum, List.sum_cons]
              rfl
            · rw [same, List.mapIdx_cons]
              rfl
          · refine Or.inr ⟨r :: rows, e, Nat.succ_lt_succ short, ?_, ?_⟩
            · rw [failed]
              rfl
            · rw [same, List.mapIdx_cons]
              rfl

theorem trace_of_executed {operation : Operation} {items : List α} {calls : List (Call α)}
    {result : Except Error Nat} (batch : operation.batch = true) (long : max.size < items.length)
    (executed : Executed operation (max.chunks items) calls result) :
    Trace max operation (.list items) calls result := by
  rw [chunks_eq_pieces] at executed
  obtain ⟨rows, count, sum, same⟩ | ⟨rows, e, count, failed, same⟩ := executed.by_position
  · rw [sum, same]
    exact .pieces items rows batch long count
  · rw [failed, same]
    exact .stopped items rows e batch long count

theorem execute_journals (note : Call α → ε) (executor : Executor σ α) (operation : Operation)
    (parameter : Parameter α) :
    Journals (max.execute (executor.journaled note) operation parameter).run
      (max.execute executor operation parameter).run fun result added =>
        ∃ calls, added = calls.map note ∧ Trace max operation parameter calls result := by
  have sent : ∀ whole : Parameter α,
      (∀ answer, Trace max operation parameter [⟨operation, whole, answer⟩] answer) →
      Journals (executor.journaled note operation whole).run (executor operation whole).run
        fun result added =>
          ∃ calls, added = calls.map note ∧ Trace max operation parameter calls result := by
    intro whole trace
    apply (noting_journals (fun answer => note ⟨operation, whole, answer⟩) _).weaken
    intro answer added noted
    exact ⟨[⟨operation, whole, answer⟩], noted, trace answer⟩
  cases parameter with
  | single item => exact sent _ (.single item)
  | list items =>
      unfold execute
      cases batch : operation.batch with
      | false => exact sent _ fun answer => .plain items answer batch
      | true =>
          cases items with
          | nil => exact .finished ⟨[], rfl, .empty batch⟩
          | cons item items =>
              by_cases fits : (item :: items).length ≤ max.size
              · simp only [Bool.not_true, Bool.false_eq_true, List.isEmpty_cons, if_false, fits,
                  if_true]
                exact sent _ fun answer =>
                  .short (item :: items) answer batch (Nat.succ_pos _) fits
              · simp only [Bool.not_true, Bool.false_eq_true, List.isEmpty_cons, if_false, fits]
                have chunked := execute_chunks_journals note executor operation
                  (max.chunks (item :: items)) 0
                apply chunked.weaken
                intro result added ran
                obtain ⟨calls, answer, noted, executed, same⟩ := ran
                have zero : answer.map (0 + ·) = answer := by
                  cases answer with
                  | error e => rfl
                  | ok r => exact congrArg Except.ok (Nat.zero_add r)
                rw [same, zero]
                exact ⟨calls, noted, max.trace_of_executed batch (Nat.lt_of_not_le fits) executed⟩

theorem flatten_pieces (items : List α) :
    ((List.range (max.pieceCount items)).map (max.piece items)).flatten = items := by
  rw [← chunks_eq_pieces, flatten_chunks]

theorem items_of_calls (operation : Operation) (items : List α) (rows : List Nat) :
    (rows.mapIdx fun j r =>
      (⟨operation, .list (max.piece items j), .ok r⟩ : Call α)).flatMap (·.parameter.items) =
      ((List.range rows.length).map (max.piece items)).flatten := by
  rw [List.mapIdx_eq_zipIdx_map, List.flatMap_map, List.flatMap_def]
  congr 1
  apply List.ext_getElem
  · simp
  · intro j first second
    simp [Parameter.items]

/-- The items that are sent are the first items of the parameter, in order and each of them once;
all of them if nothing failed. -/
theorem Trace.items_sent {operation : Operation} {parameter : Parameter α}
    {calls : List (Call α)} {result : Except Error Nat}
    (trace : Trace max operation parameter calls result) :
    calls.flatMap (·.parameter.items) <+: parameter.items ∧
      ∀ n, result = .ok n → calls.flatMap (·.parameter.items) = parameter.items := by
  cases trace with
  | single item => simp
  | plain items => simp
  | empty => simp [Parameter.items]
  | short items => simp
  | pieces items rows batch long count =>
      have all := max.items_of_calls operation items rows
      rw [count, flatten_pieces] at all
      rw [all]
      exact ⟨List.prefix_refl items, fun _ _ => rfl⟩
  | stopped items rows e batch long count =>
      refine ⟨?_, nofun⟩
      rw [List.flatMap_append, items_of_calls]
      have sent : ((List.range rows.length).map (max.piece items)).flatten ++
          max.piece items rows.length =
            ((List.range (rows.length + 1)).map (max.piece items)).flatten := by
        rw [List.range_succ, List.map_append, List.flatten_append]
        simp
      have front : List.range (rows.length + 1) <+: List.range (max.pieceCount items) := by
        have cut := List.take_prefix (rows.length + 1) (List.range (max.pieceCount items))
        rwa [List.take_range, Nat.min_eq_left count] at cut
      have whole := (front.map (max.piece items)).flatten
      rw [flatten_pieces, ← sent] at whole
      simpa [Parameter.items] using whole

/-- The calls of an executor are those of the trace, and keeping the journal changes neither the
result nor what becomes of the host. The pieces of a list are never empty and never longer than
the batch size, and together they are the list. -/
theorem batch_calls_traced (executor : Executor σ α) (operation : Operation)
    (parameter : Parameter α) (s : σ) :
    (∃ calls,
      (max.execute (executor.journaled id) operation parameter).run (s, []) =
        (((max.execute executor operation parameter).run s).1,
          (((max.execute executor operation parameter).run s).2, calls)) ∧
      Trace max operation parameter calls ((max.execute executor operation parameter).run s).1) ∧
    ∀ items : List α,
      ((List.range (max.pieceCount items)).map (max.piece items)).flatten = items ∧
      ∀ j < max.pieceCount items,
        max.piece items j ≠ [] ∧ (max.piece items j).length ≤ max.size := by
  constructor
  · obtain ⟨added, same, calls, noted, trace⟩ :=
      max.execute_journals id executor operation parameter s []
    rw [List.map_id] at noted
    rw [noted] at same
    exact ⟨calls, same, trace⟩
  · intro items
    constructor
    · exact max.flatten_pieces items
    · intro j inside
      have mem := max.mem_chunks_piece inside
      exact ⟨max.ne_nil_of_mem_chunks items _ mem, max.length_le_of_mem_chunks items _ mem⟩

end BatchSize

end BoundSql
