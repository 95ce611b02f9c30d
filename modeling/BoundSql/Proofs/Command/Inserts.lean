import Mathlib
import BoundSql.Proofs.Command.InsertTree
import BoundSql.Proofs.Command.Updates

/-!
What inserts write. A row that is inserted alone writes its key if it has one, and its other stored
fields, without the null ones if the command is selective. All rows of a list get the columns of the
first row: their values make a matrix whose lines are the rows, and whose columns are there or not
for all of them. So the keys of a list are written exactly if its first row has one.
-/

namespace BoundSql

namespace Schema

variable {schema : Schema} {row : Row} {selective : Bool} {f : Field}

theorem mem_inserted_fields_iff :
    f ∈ schema.insertedFields row selective ↔
      f ∈ schema.persisted ∧
        (f.isKey = true ∧ row.isNull f.name = false ∨
          f.isKey = false ∧ (selective = false ∨ row.isNull f.name = false)) := by
  rw [insertedFields, persisted, List.mem_filter, List.mem_filter, Bool.and_eq_true, and_assoc]
  cases f.isKey <;> cases selective <;> simp

/-- An insert that is not selective leaves out no field but a key without a value. -/
theorem mem_inserted_fields_of_all :
    f ∈ schema.insertedFields row false ↔
      f ∈ schema.persisted ∧ (f.isKey = true → row.isNull f.name = false) := by
  rw [mem_inserted_fields_iff]
  cases f.isKey <;> simp

theorem stored_of_inserted (inserted : f ∈ schema.insertedFields row selective) :
    f ∈ schema.persisted := (mem_inserted_fields_iff.mp inserted).1

theorem count_inserted_fields (inserted : f ∈ schema.insertedFields row selective) :
    (schema.insertedFields row selective).count f = schema.fields.count f :=
  List.count_filter (List.mem_filter.mp inserted).2

theorem inserted_of_given (stored : f ∈ schema.persisted) (given : row.isNull f.name = false) :
    f ∈ schema.insertedFields row selective := by
  rw [mem_inserted_fields_iff]
  cases isKey : f.isKey with
  | true => exact ⟨stored, Or.inl ⟨rfl, given⟩⟩
  | false => exact ⟨stored, Or.inr ⟨rfl, Or.inr given⟩⟩

/-- Only in an insert that is not selective there are fields that a row lacks, and no keys. -/
theorem lacked_iff :
    (∃ f ∈ schema.insertedFields row selective, row.value? f.name = none) ↔
      selective = false ∧ ∃ f ∈ schema.persisted, f.isKey = false ∧ row.value? f.name = none := by
  have null {f : Field} (missing : row.value? f.name = none) : row.isNull f.name = true := by
    rw [Row.isNull, missing]
    rfl
  constructor
  · rintro ⟨f, inserted, missing⟩
    have stored := mem_inserted_fields_iff.mp inserted
    rw [null missing] at stored
    obtain ⟨stored, ⟨-, given⟩ | ⟨notKey, all | given⟩⟩ := stored
    · cases given
    · exact ⟨all, f, stored, notKey, missing⟩
    · cases given
  · rintro ⟨rfl, f, stored, notKey, missing⟩
    exact ⟨f, mem_inserted_fields_iff.mpr ⟨stored, Or.inr ⟨notKey, Or.inl rfl⟩⟩, missing⟩

theorem slots_of_row_insert (schema : Schema) (row : Row) (selective : Bool) :
    (schema.rowInsert row selective).slots =
      (schema.insertedFields row selective).map (row.slot []) := List.flatten_singleton

theorem slots_of_list_insert (schema : Schema) (first : Row) (rest : List Row)
    (selective : Bool) :
    (schema.listInsert first rest selective).slots =
      Row.listSlots (first :: rest) (schema.insertedFields first selective) := by
  rw [Insertion.slots, listInsert, insertOf, Row.located, Row.listed, List.map_map]
  rfl

end Schema

/-- The fields of a row are bound to their values, up to the first field that the row lacks. -/
theorem Row.bind_fields (row : Row) (fields : List Field) :
    ((fields.map (row.slot [])).map Prod.fst).mapM (bindPath row.resolve) =
      match fields.find? fun f => (row.value? f.name).isNone with
      | some f => .error (.unresolved f.name)
      | none => .ok (fields.map fun f => row.value f.name) := by
  induction fields with
  | nil => rfl
  | cons f fields ih =>
      rw [List.map_cons, List.map_cons, List.mapM_cons, ih, List.find?_cons]
      cases present : row.value? f.name with
      | none =>
          have failed : bindPath row.resolve (row.slot [] f).1 = .error (.unresolved f.name) := by
            have absent : row.resolve (row.slot [] f).1 = none := present
            have text : Path.text (row.slot [] f).1 = f.name := String.append_empty
            rw [bindPath, absent, text]
          rw [failed]
          rfl
      | some value =>
          have bound : bindPath row.resolve (row.slot [] f).1 = .ok value := by
            have here : row.resolve (row.slot [] f).1 = some value := present
            rw [bindPath, here]
          have same : row.value f.name = value := by
            rw [Row.value, present]
            rfl
          rw [bound, List.map_cons, same]
          dsimp only [Option.isNone_some]
          cases fields.find? fun f => (row.value? f.name).isNone <;> rfl

namespace Mapping

variable {mapping : Mapping}

theorem build_row (mapping : Mapping) (row : Row) (selective : Bool) (dialect : Dialect) :
    (Command.insert row selective).build mapping.toSchema dialect =
      if mapping.insertedFields row selective = [] then .error (.nothingToWrite mapping.entity)
      else
        match (mapping.insertedFields row selective).find? fun f => (row.value? f.name).isNone with
        | some f => .error (.unresolved f.name)
        | none => .ok ((mapping.rowInsert row selective).bound dialect) := by
  have mapped := mapping.mapping_of_mapping
  have written := draft_of_required (fun fields => mapping.insertOf fields [([], row)])
    (mapping.draft_of_row row selective)
  split
  · rename_i nothing
    rw [if_pos nothing] at written
    exact Command.build_of_failure mapped written dialect
  · rename_i some
    rw [if_neg some] at written
    rw [Command.build_eq_map (statement_of_insertion mapped written dialect)]
    show Except.map _ (((mapping.rowInsert row selective).slots.map Prod.fst).mapM
      (bindPath row.resolve)) = _
    rw [Schema.slots_of_row_insert, Row.bind_fields]
    cases (mapping.insertedFields row selective).find? fun f => (row.value? f.name).isNone with
    | some f => rfl
    | none =>
        rw [Insertion.bound, Schema.slots_of_row_insert, List.map_map]
        rfl

theorem build_rows {first : Row} {rest : List Row} {selective : Bool}
    (covers : (Command.insertMany (first :: rest) selective).Covers mapping.toSchema)
    (dialect : Dialect) :
    (Command.insertMany (first :: rest) selective).build mapping.toSchema dialect =
      if mapping.insertedFields first selective = [] then .error (.nothingToWrite mapping.entity)
      else .ok ((mapping.listInsert first rest selective).bound dialect) := by
  have mapped := mapping.mapping_of_mapping
  have written := draft_of_required
    (fun fields => mapping.insertOf fields (Row.located (first :: rest)))
    (mapping.draft_of_rows first rest selective)
  split
  · rename_i nothing
    rw [if_pos nothing] at written
    exact Command.build_of_failure mapped written dialect
  · rename_i some
    rw [if_neg some] at written
    have found : (Command.insertMany (first :: rest) selective).Finds
        (mapping.listInsert first rest selective).slots := by
      rw [Schema.slots_of_list_insert]
      apply finds_list_slots rfl
      exact fun row given f inserted => covers row given f (Schema.stored_of_inserted inserted)
    exact build_of_insertion mapped written found

end Mapping

section Outcome

variable (schema : Schema) (row : Row) (selective : Bool) (dialect : Dialect)

theorem Command.build_insert :
    (Command.insert row selective).build schema dialect =
      if 1 < schema.keys.length then
        .error (.compositeKey schema.entity (schema.keys.map Field.name))
      else if schema.insertedFields row selective = [] then .error (.nothingToWrite schema.entity)
      else
        match (schema.insertedFields row selective).find? fun f => (row.value? f.name).isNone with
        | some f => .error (.unresolved f.name)
        | none => .ok ((schema.rowInsert row selective).bound dialect) := by
  split
  · rename_i composite
    exact build_of_composite (Nat.not_le_of_lt composite) _ dialect
  · rename_i single
    exact Mapping.build_row ⟨schema, Nat.le_of_not_lt single⟩ row selective dialect

variable {schema row selective dialect}

theorem Command.insert_built_iff {bound : BoundStatement} :
    (Command.insert row selective).build schema dialect = .ok bound ↔
      ¬1 < schema.keys.length ∧ schema.insertedFields row selective ≠ [] ∧
        (¬∃ f ∈ schema.insertedFields row selective, row.value? f.name = none) ∧
        (schema.rowInsert row selective).bound dialect = bound := by
  rw [build_insert]
  split
  · rename_i composite
    exact ⟨nofun, fun single => absurd composite single.1⟩
  · rename_i single
    split
    · rename_i nothing
      exact ⟨nofun, fun some => absurd nothing some.2.1⟩
    · rename_i some
      cases found : (schema.insertedFields row selective).find? fun f =>
          (row.value? f.name).isNone with
      | some f =>
          have lacks := List.find?_some (p := fun f : Field => (row.value? f.name).isNone) found
          have lacked : ∃ f ∈ schema.insertedFields row selective, row.value? f.name = none :=
            ⟨f, List.mem_of_find?_eq_some found, Option.isNone_iff_eq_none.mp lacks⟩
          exact ⟨nofun, fun given => absurd lacked given.2.2.1⟩
      | none =>
          have given : ¬∃ f ∈ schema.insertedFields row selective, row.value? f.name = none := by
            rintro ⟨f, inserted, missing⟩
            exact List.find?_eq_none.mp found f inserted (Option.isNone_iff_eq_none.mpr missing)
          rw [Except.ok.injEq]
          exact ⟨fun same => ⟨single, some, given, same⟩, fun whole => whole.2.2.2⟩

theorem Command.insert_fails_iff :
    (∃ e, (Command.insert row selective).build schema dialect = .error e) ↔
      1 < schema.keys.length ∨ schema.insertedFields row selective = [] ∨
        ∃ f ∈ schema.insertedFields row selective, row.value? f.name = none := by
  have failed : (∃ e, (Command.insert row selective).build schema dialect = .error e) ↔
      ¬∃ bound, (Command.insert row selective).build schema dialect = .ok bound := by
    cases (Command.insert row selective).build schema dialect <;> simp
  simp only [failed, insert_built_iff, exists_and_left, exists_eq', and_true, not_and_or, not_not,
    ne_eq]

end Outcome

namespace Schema

variable (schema : Schema) (dialect : Dialect)

theorem sql_of_row_insert (row : Row) (selective : Bool) :
    ((schema.rowInsert row selective).bound dialect).sql =
      "INSERT INTO " ++ schema.table ++ " (" ++
        ", ".intercalate ((schema.insertedFields row selective).map Field.column) ++ ") VALUES " ++
        ("(" ++ ", ".intercalate (dialect.marks 1
          ((schema.insertedFields row selective).map fun f => [.key f.name])) ++ ")") := by
  have paths : ((schema.insertedFields row selective).map (row.slot [])).map Prod.fst =
      (schema.insertedFields row selective).map fun f => [.key f.name] := by
    rw [List.map_map]
    rfl
  have tuple : ((schema.rowInsert row selective).tuples.map Insertion.tuplePieces) =
      [Insertion.tuplePieces ((schema.insertedFields row selective).map (row.slot []))] := rfl
  rw [Insertion.bound, Insertion.sql_eq, tuple, Dialect.itemTexts, Dialect.itemTexts,
    String.intercalate_singleton, Dialect.spelling_tuple, String.ofList_toList, Dialect.tupleText,
    paths]
  rfl

theorem values_of_row_insert (row : Row) (selective : Bool) :
    ((schema.rowInsert row selective).bound dialect).values =
      (schema.insertedFields row selective).map fun f => row.value f.name := by
  rw [Insertion.bound, slots_of_row_insert, List.map_map]
  rfl

theorem texts_of_list_insert (first : Row) (rest : List Row) (selective : Bool) :
    ∃ tuples : List String,
      ((schema.listInsert first rest selective).bound dialect).sql =
        "INSERT INTO " ++ schema.table ++ " (" ++
          ", ".intercalate ((schema.insertedFields first selective).map Field.column) ++
          ") VALUES " ++ ", ".intercalate tuples ∧
      tuples.length = (first :: rest).length ∧
      ∀ i < (first :: rest).length, tuples[i]? = some ("(" ++ ", ".intercalate
        (dialect.marks (1 + i * (schema.insertedFields first selective).length)
          ((schema.insertedFields first selective).map fun f =>
            [.key "list", .index i, .key f.name])) ++ ")") := by
  have tuples : (schema.listInsert first rest selective).tuples.map Insertion.tuplePieces =
      Row.listed (first :: rest) fun base row =>
        Insertion.tuplePieces ((schema.insertedFields first selective).map (row.slot base)) := by
    rw [listInsert, insertOf, Row.located, Row.listed, List.map_map, List.map_map]
    rfl
  have widths : ∀ item ∈ Row.listed (first :: rest) fun base row =>
      Insertion.tuplePieces ((schema.insertedFields first selective).map (row.slot base)),
      (paramPaths item).length = (schema.insertedFields first selective).length := by
    intro item member
    obtain ⟨_, row, -, rfl⟩ := Row.mem_listed member
    rw [Insertion.params_of_tuple, List.length_map, List.length_map]
  refine ⟨_, Insertion.sql_eq _ _, ?_, ?_⟩
  · rw [Dialect.length_item_texts, tuples, Row.listed, List.length_map, List.length_zipIdx]
  · intro i inside
    have present := List.getElem?_eq_getElem inside
    rw [tuples, dialect.item_texts_at widths (Row.getElem_listed present), Dialect.spelling_tuple,
      String.ofList_toList, Dialect.tupleText, List.map_map]
    rfl

theorem values_of_list_insert (first : Row) (rest : List Row) (selective : Bool) :
    ((schema.listInsert first rest selective).bound dialect).values =
      (first :: rest).flatMap fun row =>
        (schema.insertedFields first selective).map fun f => row.value f.name := by
  rw [Insertion.bound, slots_of_list_insert, Row.values_of_list_slots]

end Schema

/-- A row is inserted with its key, if it has one, and with all its other stored fields, or with
those that are not null. The columns stand in the order of declaration, each field as often as it is
declared; there is a placeholder for each of them, and it gets the first value that the row has for
the field. The insert fails only if the key is composite, if nothing is to be written, or if the row
lacks a field that it would have to give. -/
theorem insert_writes_stored_fields (schema : Schema) (row : Row) (selective : Bool)
    (dialect : Dialect) :
    (∀ bound, (Command.insert row selective).build schema dialect = .ok bound →
      bound.sql =
        "INSERT INTO " ++ schema.table ++ " (" ++
          ", ".intercalate ((schema.insertedFields row selective).map Field.column) ++
          ") VALUES " ++
          ("(" ++ ", ".intercalate (dialect.marks 1
            ((schema.insertedFields row selective).map fun f => [.key f.name])) ++ ")") ∧
      bound.values = (schema.insertedFields row selective).map (fun f => row.value f.name) ∧
      (∀ f ∈ schema.insertedFields row selective, row.value? f.name = some (row.value f.name)) ∧
      (selective = true → ∀ value ∈ bound.values, value.isNull = false)) ∧
    (schema.insertedFields row selective).Sublist schema.fields ∧
    (∀ f, f ∈ schema.insertedFields row selective ↔
      f ∈ schema.persisted ∧
        (f.isKey = true ∧ row.isNull f.name = false ∨
          f.isKey = false ∧ (selective = false ∨ row.isNull f.name = false))) ∧
    (∀ f ∈ schema.persisted, row.isNull f.name = false →
      f ∈ schema.insertedFields row selective) ∧
    (∀ f ∈ schema.insertedFields row selective,
      (schema.insertedFields row selective).count f = schema.fields.count f) ∧
    ((Command.insert row selective).build schema dialect =
      if 1 < schema.keys.length then
        .error (.compositeKey schema.entity (schema.keys.map Field.name))
      else if schema.insertedFields row selective = [] then .error (.nothingToWrite schema.entity)
      else
        match (schema.insertedFields row selective).find? fun f => (row.value? f.name).isNone with
        | some f => .error (.unresolved f.name)
        | none => .ok ((schema.rowInsert row selective).bound dialect)) ∧
    ((∃ e, (Command.insert row selective).build schema dialect = .error e) ↔
      1 < schema.keys.length ∨ schema.insertedFields row selective = [] ∨
        selective = false ∧
          ∃ f ∈ schema.persisted, f.isKey = false ∧ row.value? f.name = none) := by
  refine ⟨?_, List.filter_sublist, fun f => Schema.mem_inserted_fields_iff,
    fun f => Schema.inserted_of_given, fun f => Schema.count_inserted_fields,
    Command.build_insert schema row selective dialect, ?_⟩
  · intro bound built
    obtain ⟨-, -, given, rfl⟩ := Command.insert_built_iff.mp built
    refine ⟨schema.sql_of_row_insert dialect row selective,
      schema.values_of_row_insert dialect row selective, ?_, ?_⟩
    · exact fun f inserted => Mapping.value_of_covers fun missing => given ⟨f, inserted, missing⟩
    · rintro rfl value bound
      rw [schema.values_of_row_insert] at bound
      obtain ⟨f, inserted, rfl⟩ := List.mem_map.mp bound
      rw [Schema.null_of_value]
      obtain ⟨-, ⟨-, given⟩ | ⟨-, all | given⟩⟩ := Schema.mem_inserted_fields_iff.mp inserted
      · exact given
      · cases all
      · exact given
  · rw [← Schema.lacked_iff]
    exact Command.insert_fails_iff

theorem crowded_book_inserted :
    (Command.insert crowdedBook true).build books .postgres =
        .ok ⟨"INSERT INTO book (isbn, title, shelf_no) VALUES ($1, $2, $3)",
          [.text "1", .text "Emma", .int 3]⟩ ∧
      (∀ value ∈ ([.text "1", .text "Emma", .int 3] : List Value), value.isNull = false) ∧
      ∃ e, (Command.insert [("isbn", .text "2"), ("title", .null)] false).build books .postgres =
        .error e := by
  obtain ⟨ofBuilt, -, -, -, -, outcome, -⟩ := insert_writes_stored_fields books crowdedBook true
    .postgres
  have computed : (Command.insert crowdedBook true).build books .postgres =
      .ok ⟨"INSERT INTO book (isbn, title, shelf_no) VALUES ($1, $2, $3)",
        [.text "1", .text "Emma", .int 3]⟩ := by
    rw [outcome]
    decide +kernel
  obtain ⟨-, -, -, given⟩ := ofBuilt _ computed
  obtain ⟨-, -, -, -, -, -, failing⟩ := insert_writes_stored_fields books
    [("isbn", .text "2"), ("title", .null)] false .postgres
  exact ⟨computed, given rfl, failing.mpr (by decide)⟩

/-- A list of rows that have all stored fields is inserted with the columns of its first row: all
fields that are no key, and the key if the first row has one. The values are those of the rows, one
after the other; the value of a row and a column stands where the placeholder of this row and column
is. So no value is lost but the keys of later rows, and these only if the first row has none. -/
theorem rows_are_inserted_with_first_columns {schema : Schema} (single : schema.keys.length ≤ 1)
    {first : Row} {rest : List Row}
    (covers : (Command.insertMany (first :: rest) false).Covers schema) (dialect : Dialect) :
    ((Command.insertMany (first :: rest) false).build schema dialect =
      if schema.insertedFields first false = [] then .error (.nothingToWrite schema.entity)
      else .ok ((schema.listInsert first rest false).bound dialect)) ∧
    (schema.insertedFields first false).Sublist schema.fields ∧
    (∀ f, f ∈ schema.insertedFields first false ↔
      f ∈ schema.persisted ∧ (f.isKey = true → first.isNull f.name = false)) ∧
    ∀ bound, (Command.insertMany (first :: rest) false).build schema dialect = .ok bound →
      (∃ tuples : List String,
        bound.sql =
          "INSERT INTO " ++ schema.table ++ " (" ++
            ", ".intercalate ((schema.insertedFields first false).map Field.column) ++
            ") VALUES " ++ ", ".intercalate tuples ∧
        tuples.length = (first :: rest).length ∧
        ∀ i < (first :: rest).length, tuples[i]? = some ("(" ++ ", ".intercalate
          (dialect.marks (1 + i * (schema.insertedFields first false).length)
            ((schema.insertedFields first false).map fun f =>
              [.key "list", .index i, .key f.name])) ++ ")")) ∧
      bound.values = ((first :: rest).flatMap fun row =>
        (schema.insertedFields first false).map fun f => row.value f.name) ∧
      (∀ (i j : Nat) (row : Row) (f : Field), (first :: rest)[i]? = some row →
        (schema.insertedFields first false)[j]? = some f →
        bound.values[i * (schema.insertedFields first false).length + j]? =
          some (row.value f.name)) ∧
      ∀ (i : Nat) (row : Row), (first :: rest)[i]? = some row → ∀ f ∈ schema.persisted,
        (f.isKey = true → first.isNull f.name = false) →
        ∃ j, (schema.insertedFields first false)[j]? = some f ∧
          bound.values[i * (schema.insertedFields first false).length + j]? =
            some (row.value f.name) := by
  have outcome := (⟨schema, single⟩ : Mapping).build_rows covers dialect
  refine ⟨outcome, List.filter_sublist, fun f => Schema.mem_inserted_fields_of_all, ?_⟩
  intro bound built
  rw [outcome] at built
  split at built
  · cases built
  · cases built
    have cell (i j : Nat) (row : Row) (f : Field) (present : (first :: rest)[i]? = some row)
        (chosen : (schema.insertedFields first false)[j]? = some f) :
        ((schema.listInsert first rest false).bound dialect).values[
          i * (schema.insertedFields first false).length + j]? = some (row.value f.name) := by
      rw [Insertion.bound, Schema.slots_of_list_insert, List.getElem?_map,
        Row.getElem_list_slots present chosen]
      rfl
    refine ⟨schema.texts_of_list_insert dialect first rest false,
      schema.values_of_list_insert dialect first rest false, cell, ?_⟩
    intro i row present f stored keyed
    have inserted := Schema.mem_inserted_fields_of_all.mpr ⟨stored, keyed⟩
    obtain ⟨j, chosen⟩ := List.getElem?_of_mem inserted
    exact ⟨j, chosen, cell i j row f present chosen⟩

def laterNumberedBooks : List Row :=
  [[("isbn", .null), ("title", .text "Emma"), ("shelf", .int 3)],
    [("isbn", .text "2"), ("title", .text "Persuasion"), ("shelf", .null)]]

theorem number_of_later_book_is_lost :
    books.keys.length ≤ 1 ∧ (Command.insertMany laterNumberedBooks false).Covers books ∧
      ∃ bound row f, (Command.insertMany laterNumberedBooks false).build books .sqlite = .ok bound ∧
        bound.sql = "INSERT INTO book (title, shelf_no) VALUES (?1, ?2), (?3, ?4)" ∧
        row ∈ laterNumberedBooks ∧ f ∈ books.persisted ∧ row.isNull f.name = false ∧
        row.value f.name ∉ bound.values := by
  have covers : (Command.insertMany laterNumberedBooks false).Covers books := by
    unfold Command.Covers
    decide
  refine ⟨by decide, covers, _, [("isbn", .text "2"), ("title", .text "Persuasion"),
    ("shelf", .null)], ⟨"isbn", "isbn", .text, some .assign, false, none, .never⟩, rfl, ?_, ?_, ?_,
    ?_, ?_⟩
  · decide +kernel
  · decide
  · decide
  · decide
  · decide +kernel

theorem later_numbered_books_inserted :
    books.keys.length ≤ 1 ∧ (Command.insertMany laterNumberedBooks false).Covers books ∧
      ∃ bound, (Command.insertMany laterNumberedBooks false).build books .sqlite = .ok bound ∧
        bound.values = [.text "Emma", .int 3, .text "Persuasion", .null] ∧
        bound.values[1 * 2 + 0]? = some (.text "Persuasion") := by
  have covers : (Command.insertMany laterNumberedBooks false).Covers books := by
    unfold Command.Covers
    decide
  have single : books.keys.length ≤ 1 := by decide
  obtain ⟨-, -, -, ofBuilt⟩ := rows_are_inserted_with_first_columns single covers .sqlite
  have built : (Command.insertMany laterNumberedBooks false).build books .sqlite = .ok ⟨_, _⟩ := rfl
  obtain ⟨-, values, cells, -⟩ := ofBuilt _ built
  refine ⟨single, covers, _, built, values, ?_⟩
  exact cells 1 0 _ ⟨"title", "title", .text, none, false, none, .never⟩ rfl rfl

end BoundSql
