import Mathlib
import BoundSql.Proofs.Command.Inserts
import BoundSql.Proofs.Session.BatchTrace

/-!
Inserts of many rows that are sent in pieces. The executor renders every list it is called with
as one insert, whose columns are those of the first row of that list, and whose placeholders
count the rows from zero. So cutting a list changes both which row is the first and where each
row stands. If all rows write the same columns, every piece is still rendered with the columns
of the whole, and the values of the pieces are those of the whole in the same order.
-/

namespace BoundSql

variable {σ α : Type}

abbrev Sender (σ : Type) := Operation → BoundStatement → Action σ Nat

/-- The executor that renders the items of every call as one insert, which is then sent. -/
def Sender.inserting (send : Sender σ) (schema : Schema) (selective : Bool)
    (dialect : Dialect) : Executor σ Row := fun operation parameter =>
  match (Command.insertMany parameter.items selective).build schema dialect with
  | .ok statement => send operation statement
  | .error e => throw e

structure Sent where
  statement : BoundStatement
  answer : Except Error Nat

def Sender.journaled (send : Sender σ) : Sender (σ × List Sent) := fun operation statement =>
  noting (fun answer => ⟨statement, answer⟩) (send operation statement)

def Row.tuple (fields : List Field) (row : Row) : List Value :=
  fields.map fun f => (row.value? f.name).getD .null

namespace Mapping

def insertHead (mapping : Mapping) (fields : List Field) : String :=
  "INSERT INTO " ++ mapping.table ++ " (" ++ columnList fields ++ ") VALUES "

def insertion (mapping : Mapping) (dialect : Dialect) (fields : List Field) (rows : List Row) :
    BoundStatement :=
  ⟨dialect.sql (mapping.insertDraft fields (listPaths rows.length)).pieces,
    rows.flatMap (Row.tuple fields)⟩

theorem insertion_starts_with_head (mapping : Mapping) (dialect : Dialect) (fields : List Field)
    (rows : List Row) :
    ∃ tuples,
      (mapping.insertion dialect fields rows).sql = mapping.insertHead fields ++ tuples := by
  refine ⟨dialect.sql
    (Draft.joined ", " ((listPaths rows.length).map fun base => tuple base fields)).pieces, ?_⟩
  apply String.toList_injective
  rw [String.toList_append, Dialect.to_list_sql, insertion, Dialect.to_list_sql]
  exact dialect.spelling_text 1 _ _

section Rendering

variable {schema : Schema} {mapping : Mapping} {fields : List Field} {rows : List Row}
  {selective : Bool}

theorem insert_many_built (mapped : schema.mapping = .ok mapping) (nonempty : rows ≠ [])
    (covers : (Command.insertMany rows selective).Covers schema)
    (alike : ∀ row ∈ rows, mapping.insertFields row selective = fields) (written : fields ≠ [])
    (dialect : Dialect) :
    (Command.insertMany rows selective).build schema dialect =
      .ok (mapping.insertion dialect fields rows) := by
  cases rows with
  | nil => exact absurd rfl nonempty
  | cons row rows =>
      obtain rfl := Schema.to_schema_of_mapping mapped
      have first : mapping.insertedFields row selective = fields := by
        rw [← insert_fields_eq]
        exact alike row List.mem_cons_self
      have pieces := congrArg Draft.pieces
        (mapping.insert_of_items fields (Row.located (row :: rows)))
      rw [paths_of_located] at pieces
      have values := mapping.values_of_list_insert dialect row rows selective
      rw [first] at values
      rw [build_rows covers, first, if_neg written, insertion, pieces]
      show Except.ok (BoundStatement.mk _ ((mapping.listInsert row rows selective).bound
        dialect).values) = _
      rw [values, Schema.listInsert, first]
      rfl

/-- Once all keys are given, an insert that is not selective writes all stored fields. -/
theorem insert_fields_of_keyed {row : Row}
    (keyed : ∀ key ∈ mapping.keys, row.isNull key.name = false) :
    mapping.insertFields row false = mapping.persisted := by
  apply List.filter_eq_self.mpr
  intro f stored
  cases isKey : f.isKey with
  | false => rfl
  | true =>
      have key : f ∈ mapping.keys := List.mem_filter.mpr ⟨stored, isKey⟩
      rw [keyed f key]
      rfl

end Rendering

end Mapping

namespace BatchSize

variable {max : BatchSize}

/-- Executors that agree on all lists that can be sent do the same. -/
theorem execute_congr {first second : Executor σ α} {operation : Operation} {items : List α}
    (nonempty : items ≠ [])
    (same : ∀ chunk, chunk ≠ [] → (∀ item ∈ chunk, item ∈ items) →
      first operation (.list chunk) = second operation (.list chunk)) :
    max.execute first operation (.list items) = max.execute second operation (.list items) := by
  have whole := same items nonempty fun _ member => member
  have inside : ∀ chunk ∈ max.chunks items,
      first operation (.list chunk) = second operation (.list chunk) := by
    intro chunk member
    apply same chunk (max.ne_nil_of_mem_chunks items chunk member)
    intro item present
    rw [← max.flatten_chunks items]
    exact List.mem_flatten_of_mem member present
  have folded : ∀ (chunks : List (List α)) (total : Nat),
      (∀ chunk ∈ chunks, first operation (.list chunk) = second operation (.list chunk)) →
      (chunks.foldlM (fun total chunk => do
          return total + (← first operation (.list chunk))) total : Action σ Nat) =
        chunks.foldlM (fun total chunk => do
          return total + (← second operation (.list chunk))) total := by
    intro chunks
    induction chunks with
    | nil => exact fun _ _ => rfl
    | cons chunk rest ih =>
        intro total agree
        rw [List.foldlM_cons, List.foldlM_cons, agree chunk List.mem_cons_self]
        congr 1
        funext reached
        exact ih reached fun other member => agree other (List.mem_cons_of_mem chunk member)
  simp only [execute, executeChunks, whole, folded _ 0 inside]

theorem piece_zero_of_short {items : List α} (fits : items.length ≤ max.size) :
    max.piece items 0 = items := by
  rw [piece_eq_take_drop, Nat.zero_mul, List.drop_zero, List.take_of_length_le fits]

theorem mem_of_mem_piece {items : List α} {j : Nat} {item : α}
    (member : item ∈ max.piece items j) : item ∈ items := by
  rw [piece_eq_take_drop] at member
  exact List.mem_of_mem_drop (List.mem_of_mem_take member)

theorem Trace.call_at {operation : Operation} {items : List α} {calls : List (Call α)}
    {result : Except Error Nat} (trace : Trace max operation (.list items) calls result)
    (batch : operation.batch = true) {j : Nat} {call : Call α} (made : calls[j]? = some call) :
    call.parameter = .list (max.piece items j) ∧ max.piece items j ≠ [] := by
  -- The calls that were answered with rows, by position.
  have answered : ∀ rows : List Nat, rows.length ≤ max.pieceCount items →
      (rows.mapIdx fun j r => (⟨operation, .list (max.piece items j), .ok r⟩ : Call α))[j]? =
        some call →
      call.parameter = .list (max.piece items j) ∧ max.piece items j ≠ [] := by
    intro rows count made
    rw [List.getElem?_mapIdx] at made
    obtain ⟨r, present, rfl⟩ := Option.map_eq_some_iff.mp made
    have inside : j < max.pieceCount items :=
      Nat.lt_of_lt_of_le (List.getElem?_eq_some_iff.mp present).1 count
    exact ⟨rfl, max.ne_nil_of_mem_chunks items _ (max.mem_chunks_piece inside)⟩
  cases trace with
  | plain items answer noBatch => simp [noBatch] at batch
  | empty => simp at made
  | short items answer batch some fits =>
      rw [List.getElem?_singleton, Option.ite_none_right_eq_some] at made
      obtain ⟨rfl, same⟩ := made
      cases same
      rw [piece_zero_of_short fits]
      exact ⟨rfl, List.length_pos_iff.mp some⟩
  | pieces items rows batch long count => exact answered rows count.le made
  | stopped items rows e batch long count =>
      by_cases before : j < rows.length
      · rw [List.getElem?_append_left (by rwa [List.length_mapIdx])] at made
        exact answered rows count.le made
      · rw [List.getElem?_append_right (by rw [List.length_mapIdx]; omega), List.length_mapIdx,
          List.getElem?_singleton, Option.ite_none_right_eq_some] at made
        obtain ⟨last, same⟩ := made
        have here : rows.length = j := by omega
        cases same
        rw [← here]
        exact ⟨rfl, max.ne_nil_of_mem_chunks items _ (max.mem_chunks_piece count)⟩

theorem Trace.failed_call {operation : Operation} {parameter : Parameter α}
    {calls : List (Call α)} {e : Error} (trace : Trace max operation parameter calls (.error e)) :
    ∃ call ∈ calls, call.answer = .error e := by
  cases trace with
  | single item => exact ⟨_, List.mem_singleton_self _, rfl⟩
  | plain items => exact ⟨_, List.mem_singleton_self _, rfl⟩
  | short items => exact ⟨_, List.mem_singleton_self _, rfl⟩
  | stopped items rows => exact ⟨_, List.mem_append_right _ (List.mem_singleton_self _), rfl⟩

end BatchSize

/-- What a call of the executor sends, if it renders its items as this insert. -/
def Call.sent (statement : List Row → BoundStatement) (call : Call Row) : Sent :=
  ⟨statement call.parameter.items, call.answer⟩

theorem Sender.inserting_journaled (send : Sender σ) {schema : Schema} {selective : Bool}
    {dialect : Dialect} {chunk : List Row} {statement : List Row → BoundStatement}
    (rendered : (Command.insertMany chunk selective).build schema dialect =
      .ok (statement chunk)) (operation : Operation) :
    send.journaled.inserting schema selective dialect operation (.list chunk) =
      (send.inserting schema selective dialect).journaled (Call.sent statement) operation
        (.list chunk) := by
  simp only [inserting, journaled, Executor.journaled, Parameter.items, Call.sent, rendered]

section Splitting

variable {schema : Schema} {mapping : Mapping} {fields : List Field} {rows : List Row}
  {selective : Bool} {operation : Operation}

/-- Every row is sent once, in order, and with the values that it has in the insert of all rows.
Whatever the batch size is and whatever the store answers, the statements that are sent are the
inserts of the pieces of the list. All of them have the columns of the insert of the whole list,
and their values are its first values, and all of them unless the store refuses a statement. Rows
with a key write the same columns if the insert is not selective. -/
theorem split_insert_sends_rows (mapped : schema.mapping = .ok mapping)
    (batch : operation.batch = true) (nonempty : rows ≠ [])
    (covers : (Command.insertMany rows selective).Covers schema)
    (alike : ∀ row ∈ rows, mapping.insertFields row selective = fields) (written : fields ≠ [])
    (max : BatchSize) (dialect : Dialect) (send : Sender σ) (s : σ) :
    ∃ (whole : BoundStatement) (sent : List Sent) (result : Except Error Nat) (reached : σ),
      (Command.insertMany rows selective).build schema dialect = .ok whole ∧
      whole.values = rows.flatMap (Row.tuple fields) ∧
      (∃ tuples, whole.sql = mapping.insertHead fields ++ tuples) ∧
      (max.execute (send.inserting schema selective dialect) operation (.list rows)).run s =
        (result, reached) ∧
      (max.execute (send.journaled.inserting schema selective dialect) operation
        (.list rows)).run (s, []) = (result, (reached, sent)) ∧
      (∀ j entry, sent[j]? = some entry →
        (Command.insertMany (max.piece rows j) selective).build schema dialect =
          .ok entry.statement ∧
        entry.statement.values = (max.piece rows j).flatMap (Row.tuple fields) ∧
        ∃ tuples, entry.statement.sql = mapping.insertHead fields ++ tuples) ∧
      sent.flatMap (·.statement.values) <+: whole.values ∧
      (∀ n, result = .ok n → sent.flatMap (·.statement.values) = whole.values) ∧
      (∀ e, result = .error e → ∃ entry ∈ sent, entry.answer = .error e) ∧
      ∀ row : Row, (∀ key ∈ mapping.keys, row.isNull key.name = false) →
        mapping.insertFields row false = mapping.persisted := by
  -- Every list of some of the rows is rendered as the insert of these rows.
  have rendered : ∀ chunk, chunk ≠ [] → (∀ row ∈ chunk, row ∈ rows) →
      (Command.insertMany chunk selective).build schema dialect =
        .ok (mapping.insertion dialect fields chunk) := by
    intro chunk filled inside
    apply mapping.insert_many_built mapped filled ?_ ?_ written
    · exact fun row member => covers row (inside row member)
    · exact fun row member => alike row (inside row member)
  have journaled : max.execute (send.journaled.inserting schema selective dialect) operation
      (.list rows) = max.execute ((send.inserting schema selective dialect).journaled
        (Call.sent (mapping.insertion dialect fields))) operation (.list rows) := by
    apply BatchSize.execute_congr nonempty
    intro chunk filled inside
    exact send.inserting_journaled (rendered chunk filled inside) operation
  obtain ⟨result, reached, plain⟩ : ∃ result reached,
      (max.execute (send.inserting schema selective dialect) operation (.list rows)).run s =
        (result, reached) := ⟨_, _, rfl⟩
  obtain ⟨added, ran, calls, rfl, trace⟩ := max.execute_journals
    (Call.sent (mapping.insertion dialect fields)) (send.inserting schema selective dialect)
    operation (.list rows) s []
  rw [plain] at ran trace
  obtain ⟨front, all⟩ := trace.items_sent
  -- The values of the calls are the tuples of the items that they send.
  have values : (calls.map (Call.sent (mapping.insertion dialect fields))).flatMap
      (·.statement.values) = (calls.flatMap (·.parameter.items)).flatMap (Row.tuple fields) := by
    rw [List.flatMap_map, List.flatMap_assoc]
    rfl
  refine ⟨_, calls.map (Call.sent (mapping.insertion dialect fields)), result, reached,
    rendered rows nonempty fun _ member => member, rfl, mapping.insertion_starts_with_head _ _ _,
    plain, ?_, ?_, ?_, ?_, ?_, fun row => mapping.insert_fields_of_keyed⟩
  · rw [journaled]
    exact ran
  · intro j entry sent
    rw [List.getElem?_map] at sent
    obtain ⟨call, made, rfl⟩ := Option.map_eq_some_iff.mp sent
    obtain ⟨parameter, filled⟩ := trace.call_at batch made
    rw [Call.sent, parameter]
    exact ⟨rendered _ filled fun _ => max.mem_of_mem_piece, rfl,
      mapping.insertion_starts_with_head _ _ _⟩
  · rw [values]
    exact front.flatMap _
  · intro n succeeded
    rw [values, all n succeeded]
    rfl
  · intro e failed
    rw [failed] at trace
    obtain ⟨call, made, answer⟩ := trace.failed_call
    exact ⟨_, List.mem_map_of_mem made, answer⟩

end Splitting

def bookMapping : Mapping := ⟨books, by decide⟩

def newBooks : List Row :=
  [[("isbn", .text "1"), ("title", .text "Emma"), ("shelf", .int 3)],
    [("shelf", .null), ("isbn", .text "2"), ("title", .text "Persuasion")],
    [("isbn", .text "3"), ("title", .null), ("shelf", .int 3), ("isbn", .text "4")]]

def addBooks : Operation := ⟨"addBooks", .insert, true⟩

def countingStore : Sender Unit := fun _ statement => pure statement.values.length

theorem new_books_in_two_inserts :
    ∃ (whole : BoundStatement) (sent : List Sent),
      (Command.insertMany newBooks false).build books .sqlite = .ok whole ∧
      ((⟨2, by decide⟩ : BatchSize).execute (countingStore.journaled.inserting books false .sqlite)
        addBooks (.list newBooks)).run ((), []) = (.ok 9, ((), sent)) ∧
      sent.map (·.statement.sql) =
        ["INSERT INTO book (isbn, title, shelf_no) VALUES (?1, ?2, ?3), (?4, ?5, ?6)",
          "INSERT INTO book (isbn, title, shelf_no) VALUES (?1, ?2, ?3)"] ∧
      sent.flatMap (·.statement.values) = whole.values ∧
      whole.values =
        [.text "1", .text "Emma", .int 3, .text "2", .text "Persuasion", .null,
          .text "3", .null, .int 3] := by
  have mapped : books.mapping = .ok bookMapping := rfl
  have batch : addBooks.batch = true := rfl
  have alike : ∀ row ∈ newBooks, bookMapping.insertFields row false = books.fields := by decide
  have covers : (Command.insertMany newBooks false).Covers books := by
    unfold Command.Covers
    decide
  obtain ⟨whole, sent, result, reached, built, values, -, -, ran, -, -, all, -⟩ :=
    split_insert_sends_rows mapped batch (by decide) covers alike (by decide) ⟨2, by decide⟩
      .sqlite countingStore ()
  have cut : (⟨2, by decide⟩ : BatchSize).chunks newBooks =
      [newBooks.take 2, newBooks.drop 2] := by
    rw [BatchSize.chunks_eq_pieces]
    rfl
  have computed : ((⟨2, by decide⟩ : BatchSize).execute
      (countingStore.journaled.inserting books false .sqlite) addBooks (.list newBooks)).run
        ((), []) =
      (.ok 9, ((), [⟨bookMapping.insertion .sqlite books.fields (newBooks.take 2), .ok 6⟩,
        ⟨bookMapping.insertion .sqlite books.fields (newBooks.drop 2), .ok 3⟩])) := by
    show (BatchSize.executeChunks _ addBooks (BatchSize.chunks _ newBooks)).run _ = _
    rw [cut]
    rfl
  obtain ⟨succeeded, same⟩ := Prod.mk.inj (ran.symm.trans computed)
  obtain ⟨-, both⟩ := Prod.mk.inj same
  refine ⟨whole, sent, built, ?_, ?_, all 9 succeeded, values⟩
  · rw [computed, both]
  · rw [both]
    decide +kernel

end BoundSql
