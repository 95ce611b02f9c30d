import Mathlib
import BoundSql.Proofs.Command.UpdateTree

/-!
What updates write. With a row an UPDATE writes the stored fields that are no key, with a change
set the entries; the rows are selected by a key or by criteria. Each form of the command is the
text of one tree, so its values are those of the written columns and then those of the selection.
It fails by the first check that fails, and writes nothing then.
-/

namespace BoundSql

namespace Mapping

variable {mapping : Mapping} {command : Command} {dialect : Dialect}

theorem finds_criteria {criteria : Criteria}
    (under : ∀ path, command.root (.key "condition" :: path) = criteria.resolve path) :
    command.Finds (Selection.criteria criteria).slots := by
  intro slot member
  obtain ⟨⟨path, value⟩, present, rfl⟩ := List.mem_map.mp member
  exact (under path).trans ((criteria.mem_bindings_iff ..).mp present).1

theorem finds_changes {changes : ChangeSet} (distinct : changes.columns.Nodup)
    (under : ∀ path, command.root (.key "spec" :: path) = changes.resolve path) :
    command.Finds (changes.bound.map fun entry =>
      (.key "spec" :: ChangeSet.entryPath entry, entry.2)) := by
  intro slot member
  obtain ⟨entry, present, rfl⟩ := List.mem_map.mp member
  exact (under _).trans (ChangeSet.resolve_entry distinct (List.mem_of_mem_filter present))

theorem slots_of_changes (changes : ChangeSet) :
    (changes.entries.map ChangeSet.change).flatMap ColumnUpdate.slots =
      changes.bound.map fun entry => (.key "spec" :: ChangeSet.entryPath entry, entry.2) := by
  obtain ⟨entries⟩ := changes
  unfold ChangeSet.bound
  induction entries with
  | nil => rfl
  | cons entry rest ih =>
      rw [List.map_cons, List.flatMap_cons, ih, List.filter_cons]
      cases null : entry.2.isNull with
      | true =>
          rw [ChangeSet.change, null, if_pos rfl]
          rfl
      | false =>
          rw [ChangeSet.change, null, if_neg Bool.false_ne_true]
          rfl

theorem mapping_of_mapping (mapping : Mapping) : mapping.toSchema.mapping = .ok mapping :=
  dif_pos mapping.keys_length

theorem require_key_eq (mapping : Mapping) :
    mapping.requireKey =
      match mapping.keys with
      | [] => .error (.noKey mapping.entity)
      | key :: _ => .ok key := by
  unfold requireKey key?
  cases mapping.keys <;> rfl

theorem finds_key_update {key : Field} {row : Row} {selective : Bool}
    (stored : key ∈ mapping.persisted)
    (covers : (Command.updateById row selective).Covers mapping.toSchema) :
    (Command.updateById row selective).Finds (mapping.keyUpdate key row selective).slots := by
  have given := covers row List.mem_cons_self
  have keyGiven : ∀ f ∈ [key], row.value? f.name ≠ none := by
    rw [List.forall_mem_singleton]
    exact given key stored
  rw [Update.slots, Schema.keyUpdate, slots_of_row]
  apply finds_append
  · exact finds_row (fun _ => rfl) fun f written => given f (stored_of_written written)
  · exact finds_row (fun _ => rfl) keyGiven

theorem build_by_id {row : Row} {selective : Bool}
    (covers : (Command.updateById row selective).Covers mapping.toSchema) :
    (Command.updateById row selective).build mapping.toSchema dialect =
      match mapping.keys with
      | [] => .error (.noKey mapping.entity)
      | key :: _ =>
          if row.isNull key.name then .error (.missingKey mapping.entity key.name)
          else if mapping.writtenFields row selective = [] then
            .error (.nothingToWrite mapping.entity)
          else .ok ((mapping.keyUpdate key row selective).bound dialect) := by
  have mapped := mapping.mapping_of_mapping
  have required := mapping.require_key_eq
  cases keys : mapping.keys with
  | nil =>
      apply Command.build_of_failure mapped
      rw [draft, required, keys]
      rfl
  | cons key others =>
      have found : mapping.requireKey = .ok key := by rw [required, keys]
      dsimp only
      cases null : row.isNull key.name with
      | true =>
          apply Command.build_of_failure mapped
          rw [draft_of_key found, requireKeyValue, null]
          rfl
      | false =>
          rw [if_neg Bool.false_ne_true]
          split
          · rename_i nothing
            apply Command.build_of_failure mapped
            rw [draft_of_key found, require_key_value_of_given null, nothing]
            rfl
          · rename_i some
            have stored : key ∈ mapping.persisted := by
              apply mapping.keys_stored
              rw [keys]
              exact List.mem_cons_self
            exact build_of_writes mapped (writes_by_key found null some)
              (finds_key_update stored covers)

theorem build_where {row : Row} {criteria : Criteria} {selective : Bool}
    (covers : (Command.updateWhere row criteria selective).Covers mapping.toSchema) :
    (Command.updateWhere row criteria selective).build mapping.toSchema dialect =
      if mapping.writtenFields row selective = [] then .error (.nothingToWrite mapping.entity)
      else match (Condition.failuresOf criteria.conditions).head? with
        | some e => .error e
        | none => .ok ((mapping.criteriaUpdate row criteria selective).bound dialect) := by
  have mapped := mapping.mapping_of_mapping
  split
  · rename_i nothing
    apply Command.build_of_failure mapped
    rw [draft, update_fields_eq, nothing]
    rfl
  · rename_i some
    refine build_of_writes mapped (writes_by_criteria some) ?_
    rw [Update.slots, Schema.criteriaUpdate, slots_of_row]
    apply finds_append
    · apply finds_row (fun _ => rfl)
      exact fun f written => covers row List.mem_cons_self f (stored_of_written written)
    · exact finds_criteria fun _ => rfl

theorem build_with {changes : ChangeSet} {criteria : Criteria}
    (distinct : changes.columns.Nodup) :
    (Command.updateWith changes criteria).build mapping.toSchema dialect =
      if changes.entries = [] then .error (.nothingToWrite "UpdateSpec")
      else match (Condition.failuresOf criteria.conditions).head? with
        | some e => .error e
        | none => .ok ((mapping.changeUpdate changes criteria).bound dialect) := by
  have mapped := mapping.mapping_of_mapping
  split
  · rename_i nothing
    apply Command.build_of_failure mapped
    rw [draft, updateDraft, Draft.failure_append, Draft.failure_append, changes.failure_draft,
      if_pos nothing]
    rfl
  · rename_i some
    refine build_of_writes mapped (writes_changes some) ?_
    rw [Update.slots, Schema.changeUpdate, slots_of_changes]
    exact finds_append (finds_changes distinct fun _ => rfl) (finds_criteria fun _ => rfl)

end Mapping

namespace Schema

variable (schema : Schema) (dialect : Dialect)

theorem values_of_key_update (key : Field) (row : Row) (selective : Bool) :
    ((schema.keyUpdate key row selective).bound dialect).values =
      (schema.writtenFields row selective).map (fun f => row.value f.name) ++
        [row.value key.name] := by
  rw [Update.bound, Update.slots, keyUpdate, Mapping.slots_of_row, List.map_append, List.map_map]
  rfl

theorem values_of_criteria (criteria : Criteria) :
    (Selection.criteria criteria).slots.map Prod.snd = criteria.leaves := by
  rw [Selection.slots, List.map_map, ← criteria.values_bindings]
  rfl

theorem values_of_criteria_update (row : Row) (criteria : Criteria) (selective : Bool) :
    ((schema.criteriaUpdate row criteria selective).bound dialect).values =
      (schema.writtenFields row selective).map (fun f => row.value f.name) ++ criteria.leaves := by
  rw [Update.bound, Update.slots, criteriaUpdate, Mapping.slots_of_row, List.map_append,
    List.map_map, values_of_criteria]
  rfl

theorem values_of_change_update (changes : ChangeSet) (criteria : Criteria) :
    ((schema.changeUpdate changes criteria).bound dialect).values =
      changes.bound.map Prod.snd ++ criteria.leaves := by
  rw [Update.bound, Update.slots, changeUpdate, Mapping.slots_of_changes, List.map_append,
    List.map_map, values_of_criteria]
  rfl

theorem null_of_value (row : Row) (field : String) :
    (row.value field).isNull = row.isNull field := by
  rw [Row.value, Row.isNull]
  cases row.value? field <;> rfl

theorem mem_written_fields_iff (row : Row) (selective : Bool) (f : Field) :
    f ∈ schema.writtenFields row selective ↔
      f ∈ schema.fields ∧ f.ignored = false ∧ f.isKey = false ∧
        (selective = true → (row.value f.name).isNull = false) := by
  rw [writtenFields, List.mem_filter, null_of_value]
  cases selective <;> simp [Field.persisted, and_assoc]

end Schema

/-- What an UPDATE writes is bound before what its rows are selected by. With a row, the stored
fields that are no key are written in the order of declaration, without nulls if the command is
selective; with a change set, its entries in their order. Every placeholder gets the value that
belongs to its column. An update by key asks for a key, for its value and for something to write,
in this order, and no UPDATE is without columns. -/
theorem updates_bind_written_before_selected {schema : Schema} (single : schema.keys.length ≤ 1)
    (dialect : Dialect) :
    (∀ row selective, (Command.updateById row selective).Covers schema →
      (Command.updateById row selective).build schema dialect =
        match schema.keys with
        | [] => .error (.noKey schema.entity)
        | key :: _ =>
            if row.isNull key.name then .error (.missingKey schema.entity key.name)
            else if schema.writtenFields row selective = [] then
              .error (.nothingToWrite schema.entity)
            else .ok ((schema.keyUpdate key row selective).bound dialect)) ∧
    (∀ row criteria selective, (Command.updateWhere row criteria selective).Covers schema →
      (Command.updateWhere row criteria selective).build schema dialect =
        if schema.writtenFields row selective = [] then .error (.nothingToWrite schema.entity)
        else match (Condition.failuresOf criteria.conditions).head? with
          | some e => .error e
          | none => .ok ((schema.criteriaUpdate row criteria selective).bound dialect)) ∧
    (∀ steps criteria,
      (Command.updateWith (.reached steps) criteria).build schema dialect =
        if (ChangeSet.reached steps).entries = [] then .error (.nothingToWrite "UpdateSpec")
        else match (Condition.failuresOf criteria.conditions).head? with
          | some e => .error e
          | none => .ok ((schema.changeUpdate (.reached steps) criteria).bound dialect)) ∧
    (∀ key row selective, ((schema.keyUpdate key row selective).bound dialect).values =
      (schema.writtenFields row selective).map (fun f => row.value f.name) ++
        [row.value key.name]) ∧
    (∀ row criteria selective,
      ((schema.criteriaUpdate row criteria selective).bound dialect).values =
        (schema.writtenFields row selective).map (fun f => row.value f.name) ++
          criteria.leaves) ∧
    (∀ changes criteria, ((schema.changeUpdate changes criteria).bound dialect).values =
      changes.bound.map Prod.snd ++ criteria.leaves) ∧
    (∀ row selective, (schema.writtenFields row selective).Sublist schema.fields ∧
      ∀ f, f ∈ schema.writtenFields row selective ↔
        f ∈ schema.fields ∧ f.ignored = false ∧ f.isKey = false ∧
          (selective = true → (row.value f.name).isNull = false)) ∧
    ∀ (command : Command) (statement : Statement), command.IsUpdate →
      command.statement schema dialect = .ok statement →
      ∃ update : Update, update.changes ≠ [] ∧ statement = update.statement dialect ∧
        statement.params = paramPaths update.pieces := by
  obtain ⟨mapping, rfl⟩ : ∃ mapping : Mapping, mapping.toSchema = schema := ⟨⟨schema, single⟩, rfl⟩
  refine ⟨?_, ?_, ?_, ?_, ?_, ?_, ?_, ?_⟩
  · exact fun row selective covers => mapping.build_by_id covers
  · exact fun row criteria selective covers => mapping.build_where covers
  · exact fun steps criteria => mapping.build_with (ChangeSet.nodup_columns_reached steps)
  · exact fun key row selective => mapping.values_of_key_update dialect key row selective
  · exact fun row criteria selective =>
      mapping.values_of_criteria_update dialect row criteria selective
  · exact fun changes criteria => mapping.values_of_change_update dialect changes criteria
  · exact fun row selective => ⟨List.filter_sublist, mapping.mem_written_fields_iff row selective⟩
  · intro command statement is built
    have mapped := mapping.mapping_of_mapping
    obtain ⟨other, found, complete, -⟩ := Command.statement_eq_ok built
    cases mapped.symm.trans found
    obtain ⟨update, some, writes⟩ := Mapping.writes_of_complete is complete
    have selectable : update.selection.failure = none := writes.failure.symm.trans complete
    have written := Mapping.statement_of_writes mapped writes dialect
    rw [selectable, built] at written
    cases written
    exact ⟨update, some, rfl, (Update.params selectable).symm⟩

def untitledBooks : Criteria :=
  .ofConditions [.group .or [.compare .eq "title" .null, .compare .eq "isbn" (.text "2")]]

theorem crowded_book_updates :
    books.keys.length ≤ 1 ∧ (Command.updateById crowdedBook true).Covers books ∧
      (Command.updateById crowdedBook true).build books .postgres =
        .ok ⟨"UPDATE book SET title = $1, shelf_no = $2 WHERE isbn = $3",
          [.text "Emma", .int 3, .text "1"]⟩ ∧
      (Command.updateWhere crowdedBook untitledBooks false).Covers books ∧
      (Command.updateWhere crowdedBook untitledBooks false).build books .postgres =
        .ok ⟨"UPDATE book SET title = $1, shelf_no = $2 WHERE (title IS NULL OR isbn = $3)",
          [.text "Emma", .int 3, .text "2"]⟩ ∧
      (Command.updateWith (.reached ChangeSet.amendments) untitledBooks).build books .postgres =
        .ok ⟨"UPDATE book SET name = $1, email = NULL, left = $2 " ++
          "WHERE (title IS NULL OR isbn = $3)", [.text "Bo", .bool true, .text "2"]⟩ ∧
      ∃ update : Update, update.changes ≠ [] ∧
        ([[.key "title"], [.key "shelf"], [.key "isbn"]] : List Path) =
          paramPaths update.pieces := by
  have single : books.keys.length ≤ 1 := by decide
  have covers : (Command.updateById crowdedBook true).Covers books := by
    unfold Command.Covers
    decide
  obtain ⟨byKey, byCriteria, ofChanges, -, -, -, -, ofStatement⟩ :=
    updates_bind_written_before_selected single .postgres
  have built := byKey crowdedBook true covers
  have met := byCriteria crowdedBook untitledBooks false covers
  have assigned := ofChanges ChangeSet.amendments untitledBooks
  have written : (Command.updateById crowdedBook true).statement books .postgres = .ok ⟨_, _⟩ := rfl
  obtain ⟨update, some, -, params⟩ := ofStatement (.updateById crowdedBook true) _ trivial written
  refine ⟨single, covers, built.trans ?_, covers, met.trans ?_, assigned.trans ?_, update, some,
    params⟩
  · decide +kernel
  · decide +kernel
  · decide +kernel

end BoundSql
