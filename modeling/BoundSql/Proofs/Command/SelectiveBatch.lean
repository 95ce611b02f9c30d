import Mathlib
import BoundSql.Proofs.Command.BatchUpdate

/-!
Selective updates of many rows. The nulls of the first row say which fields are written, and these
are written for all rows: a later row gets null where it has null in one of them, and keeps what is
stored in all others. So a row of the batch is written as by its own selective update exactly if it
is null in the same fields as the first row, and a batch of such rows is the single updates in
their order.
-/

namespace BoundSql

def Row.SameNulls (fields : List Field) (row other : Row) : Prop :=
  ∀ f ∈ fields, row.isNull f.name = other.isNull f.name

namespace Schema

variable {schema : Schema} {key f : Field} {first row : Row} {rest : List Row}

theorem written_fields_of_given (schema : Schema) (row : Row) :
    schema.writtenFields row true = schema.plainFields.filter fun f => !row.isNull f.name := by
  rw [writtenFields, plainFields, persisted, List.filter_filter, List.filter_filter]
  apply List.filter_congr
  intro f _
  rw [Bool.not_true, Bool.false_or]
  ac_rfl

theorem mem_given_fields_iff :
    f ∈ schema.writtenFields row true ↔ f ∈ schema.plainFields ∧ row.isNull f.name = false := by
  rw [written_fields_of_given, List.mem_filter, Bool.not_eq_true']

theorem given_fields_of_same_nulls (same : row.SameNulls schema.plainFields first) :
    schema.writtenFields row true = schema.writtenFields first true := by
  rw [written_fields_of_given, written_fields_of_given]
  apply List.filter_congr
  intro f plain
  rw [same f plain]

/-- No null is written for a row of a batch exactly if the row is given wherever the first is. -/
theorem no_null_iff :
    (∀ value ∈ (schema.writtenFields first true).map fun f => row.value f.name,
      value.isNull = false) ↔
      ∀ f ∈ schema.plainFields, first.isNull f.name = false → row.isNull f.name = false := by
  rw [List.forall_mem_map]
  simp only [null_of_value, mem_given_fields_iff, and_imp]

theorem same_nulls_of_writes {write : Field → Value × String × Value}
    (value : ∀ f, (write f).2.2 = row.value f.name)
    (agree : (schema.writtenFields first true).map write =
      (schema.writtenFields row true).map write) :
    row.SameNulls schema.plainFields first := by
  -- What the first row has is given in the row, for the row writes no null.
  have given : ∀ f ∈ schema.plainFields, first.isNull f.name = false →
      row.isNull f.name = false := by
    intro f plain firstGiven
    have written := List.mem_map_of_mem (f := write) (mem_given_fields_iff.mpr ⟨plain, firstGiven⟩)
    rw [agree] at written
    obtain ⟨own, ownWritten, same⟩ := List.mem_map.mp written
    rw [← null_of_value, ← value, ← same, value, null_of_value]
    exact (mem_given_fields_iff.mp ownWritten).2
  -- There are as many fields of the row, so the first row has all of them.
  have inside : schema.writtenFields first true =
      (schema.writtenFields row true).filter fun f => !first.isNull f.name := by
    rw [written_fields_of_given, written_fields_of_given, List.filter_filter]
    apply List.filter_congr
    intro f plain
    cases firstNull : first.isNull f.name with
    | true => rfl
    | false =>
        rw [given f plain firstNull]
        rfl
  have lengths := congrArg List.length agree
  rw [List.length_map, List.length_map, inside, List.length_filter_eq_length_iff] at lengths
  intro f plain
  cases null : row.isNull f.name with
  | false =>
      have firstGiven := lengths f (mem_given_fields_iff.mpr ⟨plain, null⟩)
      rw [Bool.not_eq_true'] at firstGiven
      exact firstGiven.symm
  | true =>
      cases firstNull : first.isNull f.name with
      | true => rfl
      | false =>
          rw [given f plain firstNull] at null
          cases null

/-- A row of a batch is written as by its own update exactly if it has the nulls of the first
row. -/
theorem arms_eq_pairs_iff {i : Nat} (present : (first :: rest)[i]? = some row) :
    ((schema.batchUpdate key first rest true).arms i =
      (schema.keyUpdate key row true).pairs.map fun pair => (row.value key.name, pair)) ↔
      row.SameNulls schema.plainFields first := by
  have own : (schema.keyUpdate key row true).pairs.map (fun pair => (row.value key.name, pair)) =
      (schema.writtenFields row true).map fun f =>
        (row.value key.name, f.column, row.value f.name) := by
    rw [key_update_eq, pairs_of_fields_update, List.map_map]
    rfl
  rw [arms_of_written_batch present, own]
  constructor
  · exact same_nulls_of_writes fun _ => rfl
  · intro same
    rw [given_fields_of_same_nulls same]

end Schema

/-- A batch of rows that are null in the same fields is their single updates in order. -/
theorem Store.run_batch_of_same_nulls {store : Store} {schema : Schema} {key : Field} {first : Row}
    {rest : List Row} (apart : ∀ f ∈ schema.plainFields, (f.column == key.column) = false)
    (different : (first :: rest).Pairwise fun row other =>
      store.equals (row.value key.name) (other.value key.name) = false)
    (same : ∀ row ∈ first :: rest, row.SameNulls schema.plainFields first) (stored : StoredRow) :
    store.run stored (schema.batchUpdate key first rest true) =
      (first :: rest).foldl
        (fun stored row => store.run stored (schema.keyUpdate key row true)) stored := by
  rw [run_written_batch, run_singles apart different]
  cases found : (first :: rest).find? (store.hasKey stored key) with
  | none => rfl
  | some row =>
      have alike := same row (List.mem_of_find?_eq_some found)
      rw [Option.elim_some, Option.elim_some, Schema.key_update_eq,
        Schema.given_fields_of_same_nulls alike]

section Outcome

variable {schema : Schema} {key : Field} {first : Row} {rest : List Row} {dialect : Dialect}

theorem Schema.given_fields_ne_nil_iff :
    schema.writtenFields first true ≠ [] ↔
      ∃ f ∈ schema.plainFields, first.isNull f.name = false := by
  constructor
  · intro some
    obtain ⟨f, written⟩ := List.exists_mem_of_ne_nil _ some
    exact ⟨f, mem_given_fields_iff.mp written⟩
  · rintro ⟨f, given⟩
    exact List.ne_nil_of_mem (mem_given_fields_iff.mpr given)

theorem Command.selective_batch_built_iff (keyed : key ∈ schema.keys)
    (covers : (Command.updateMany (first :: rest) true).Covers schema) {bound : BoundStatement} :
    (Command.updateMany (first :: rest) true).build schema dialect = .ok bound ↔
      schema.keys.length ≤ 1 ∧ (∀ row ∈ first :: rest, row.isNull key.name = false) ∧
        schema.writtenFields first true ≠ [] ∧
        (schema.batchUpdate key first rest true).bound dialect = bound := by
  by_cases single : schema.keys.length ≤ 1
  · have mapped : schema.mapping = .ok ⟨schema, single⟩ := dif_pos single
    have found : Mapping.requireKey ⟨schema, single⟩ = .ok key := require_key_of_mem mapped keyed
    have outcome := Mapping.build_batch found covers dialect
    rw [outcome]
    split
    · rename_i null
      obtain ⟨row, present, isNull⟩ := List.any_eq_true.mp null
      constructor
      · intro refused
        cases refused
      · intro built
        rw [built.2.1 row present] at isNull
        cases isNull
    · rename_i given
      have keys : ∀ row ∈ first :: rest, row.isNull key.name = false := by
        simpa using given
      split
      · rename_i nothing
        constructor
        · intro refused
          cases refused
        · exact fun built => absurd nothing built.2.2.1
      · rename_i some
        rw [Except.ok.injEq]
        exact ⟨fun same => ⟨single, keys, some, same⟩, fun built => built.2.2.2⟩
  · rw [build_of_composite single]
    constructor
    · intro refused
      cases refused
    · exact fun built => absurd built.1 single

end Outcome

/-- A selective update of many rows writes the same fields for all of them: those that are given in
the first row. Every row gets its values of these fields, nulls included, and keeps what is stored
in the others. So it gets no null exactly if it is given wherever the first row is, and it gets what
its own selective update writes exactly if it is null in the same fields as the first row. If all
rows are, the keys are different and no two columns are the same, every stored row becomes what the
single updates in their order make of it. -/
theorem selective_batch_writes_fields_of_first_row {schema : Schema} {key : Field}
    (keyed : key ∈ schema.keys) {first : Row} {rest : List Row}
    (covers : (Command.updateMany (first :: rest) true).Covers schema) (dialect : Dialect) :
    ((∃ bound, (Command.updateMany (first :: rest) true).build schema dialect = .ok bound) ↔
      schema.keys.length ≤ 1 ∧ (∀ row ∈ first :: rest, row.isNull key.name = false) ∧
        ∃ f ∈ schema.plainFields, first.isNull f.name = false) ∧
    ∀ bound, (Command.updateMany (first :: rest) true).build schema dialect = .ok bound →
      bound = (schema.batchUpdate key first rest true).bound dialect ∧
      bound.values =
        ((schema.writtenFields first true).flatMap fun f =>
          (first :: rest).flatMap fun row => [row.value key.name, row.value f.name]) ++
        ((first :: rest).map fun row => row.value key.name) ∧
      (schema.writtenFields first true).Sublist schema.fields ∧
      (∀ f, f ∈ schema.writtenFields first true ↔
        f ∈ schema.plainFields ∧ first.isNull f.name = false) ∧
      (∀ i row, (first :: rest)[i]? = some row →
        (schema.batchUpdate key first rest true).arms i =
          (schema.writtenFields first true).map fun f =>
            (row.value key.name, f.column, row.value f.name)) ∧
      (∀ i row, (first :: rest)[i]? = some row →
        ((∀ arm ∈ (schema.batchUpdate key first rest true).arms i, arm.2.2.isNull = false) ↔
          ∀ f ∈ schema.plainFields, first.isNull f.name = false → row.isNull f.name = false)) ∧
      (∀ i row, (first :: rest)[i]? = some row →
        ((schema.batchUpdate key first rest true).arms i =
          (schema.keyUpdate key row true).pairs.map (fun pair => (row.value key.name, pair)) ↔
          row.SameNulls schema.plainFields first)) ∧
      (∀ row ∈ first :: rest, (Command.updateById row true).build schema dialect =
        if schema.writtenFields row true = [] then .error (.nothingToWrite schema.entity)
        else .ok ((schema.keyUpdate key row true).bound dialect)) ∧
      (∀ (store : Store) (stored : StoredRow),
        store.run stored (schema.batchUpdate key first rest true) =
          ((first :: rest).find? (store.hasKey stored key)).elim stored fun row =>
            store.run stored
              (schema.fieldsUpdate key row (schema.writtenFields first true))) ∧
      ∀ store : Store, schema.columns.Nodup →
        (first :: rest).Pairwise (fun row other =>
          store.equals (row.value key.name) (other.value key.name) = false) →
        (∀ row ∈ first :: rest, row.SameNulls schema.plainFields first) →
        ∀ stored, store.run stored (schema.batchUpdate key first rest true) =
          (first :: rest).foldl
            (fun stored row => store.run stored (schema.keyUpdate key row true)) stored := by
  constructor
  · simp only [Command.selective_batch_built_iff keyed covers, Schema.given_fields_ne_nil_iff,
      exists_and_left, exists_eq', and_true]
  · intro bound built
    obtain ⟨single, given, -, rfl⟩ := (Command.selective_batch_built_iff keyed covers).mp built
    refine ⟨rfl, Schema.values_of_written_batch key first rest true dialect,
      List.filter_sublist, fun f => Schema.mem_given_fields_iff,
      fun i row => Schema.arms_of_written_batch, ?_, fun i row => Schema.arms_eq_pairs_iff, ?_,
      fun store stored => Store.run_written_batch first rest true, ?_⟩
    · intro i row present
      rw [Schema.arms_of_written_batch present, ← Schema.no_null_iff, List.forall_mem_map,
        List.forall_mem_map]
    · intro row present
      have coversRow : (Command.updateById row true).Covers schema := by
        intro other only
        rw [List.mem_singleton.mp only]
        exact covers row present
      have mapped : schema.mapping = .ok ⟨schema, single⟩ := dif_pos single
      have keys := Mapping.keys_of_require_key (require_key_of_mem mapped keyed)
      have outcome := @Mapping.build_by_id ⟨schema, single⟩ dialect row true coversRow
      rw [keys] at outcome
      dsimp only at outcome
      rw [given row present, if_neg Bool.false_ne_true] at outcome
      exact outcome
    · intro store distinct different same stored
      exact Store.run_batch_of_same_nulls (Schema.key_column_not_plain keyed distinct) different
        same stored

def annsOpenAccount : Row := [("id", .bigInt 1), ("owner", .text "Ann"), ("closed", .null)]

theorem null_of_later_account_is_written :
    accountKey ∈ accounts.keys ∧
      (∀ row ∈ [annsOpenAccount, closedAccount], row.isNull accountKey.name = false) ∧
      (Command.updateMany [annsOpenAccount, closedAccount] true).Covers accounts ∧
      (Command.updateMany [annsOpenAccount, closedAccount] true).build accounts .sqlite =
        .ok ⟨"UPDATE account SET " ++
          "owner_name = CASE id WHEN ?1 THEN ?2 WHEN ?3 THEN ?4 ELSE owner_name END " ++
          "WHERE id IN (?5, ?6) AND is_closed = 0",
          [.bigInt 1, .text "Ann", .bigInt 2, .null, .bigInt 1, .bigInt 2]⟩ ∧
      (accounts.batchUpdate accountKey annsOpenAccount [closedAccount] true).arms 1 =
        [(.bigInt 2, "owner_name", .null)] ∧
      (accounts.keyUpdate accountKey closedAccount true).pairs = [("is_closed", .int 1)] := by
  have covers : (Command.updateMany [annsOpenAccount, closedAccount] true).Covers accounts := by
    unfold Command.Covers
    decide
  refine ⟨by decide, by decide, covers, by decide +kernel, ?_, ?_⟩
  · decide
  · decide

def benosAccount : Row := [("closed", .null), ("id", .bigInt 2), ("owner", .text "Beno")]

theorem owners_written_selectively :
    accountKey ∈ accounts.keys ∧
      (Command.updateMany [annsOpenAccount, benosAccount] true).Covers accounts ∧
      (∃ bound, (Command.updateMany [annsOpenAccount, benosAccount] true).build accounts .sqlite =
        .ok bound ∧
        bound.values = [.bigInt 1, .text "Ann", .bigInt 2, .text "Beno", .bigInt 1, .bigInt 2]) ∧
      benosAccount.SameNulls accounts.plainFields annsOpenAccount ∧
      (accounts.batchUpdate accountKey annsOpenAccount [benosAccount] true).arms 1 =
        (accounts.keyUpdate accountKey benosAccount true).pairs.map
          (fun pair => (benosAccount.value accountKey.name, pair)) ∧
      ([annsOpenAccount, benosAccount].foldl
        (fun stored row => plainStore.run stored (accounts.keyUpdate accountKey row true))
        zoesAccount) "owner_name" = .text "Ann" := by
  have keyed : accountKey ∈ accounts.keys := by decide
  have covers : (Command.updateMany [annsOpenAccount, benosAccount] true).Covers accounts := by
    unfold Command.Covers
    decide
  have same : ∀ row ∈ [annsOpenAccount, benosAccount],
      row.SameNulls accounts.plainFields annsOpenAccount := by
    unfold Row.SameNulls
    decide
  have different : [annsOpenAccount, benosAccount].Pairwise (fun row other =>
      plainStore.equals (row.value accountKey.name) (other.value accountKey.name) = false) := by
    decide
  obtain ⟨-, ofBuilt⟩ := selective_batch_writes_fields_of_first_row keyed covers .sqlite
  have built : (Command.updateMany [annsOpenAccount, benosAccount] true).build accounts .sqlite =
      .ok ⟨_, _⟩ := rfl
  obtain ⟨-, values, -, -, -, -, asAlone, -, -, inStore⟩ := ofBuilt _ built
  have benos := same benosAccount (by decide)
  refine ⟨keyed, covers, ⟨_, built, values⟩, benos, (asAlone 1 benosAccount rfl).mpr benos, ?_⟩
  rw [← inStore plainStore (by decide) different same zoesAccount]
  decide +kernel

end BoundSql
