import Mathlib
import BoundSql.Proofs.Command.RowList

/-!
Inserts as trees: the columns, and for every row the placeholders of its values in the order of
the columns. A row that is inserted alone and a list of rows write the same kind of tree, in which
the rows lie at different paths. The columns are those of one row, so it depends on that row alone
which fields are written for all of them.
-/

namespace BoundSql

structure Insertion where
  table : String
  columns : List String
  /-- What is written for each row, column by column. -/
  tuples : List (List Slot)

namespace Insertion

def head (insertion : Insertion) : String :=
  "INSERT INTO " ++ insertion.table ++ " (" ++ ", ".intercalate insertion.columns ++ ") VALUES "

def tuplePieces (slots : List Slot) : List Piece :=
  .text "(" :: (Piece.joined ", " (slots.map fun slot => [.param slot.1]) ++ [.text ")"])

def pieces (insertion : Insertion) : List Piece :=
  .text insertion.head :: Piece.joined ", " (insertion.tuples.map tuplePieces)

/-- The placeholders of an insert in the order of its text: those of the first row, then those of
the next. -/
def slots (insertion : Insertion) : List Slot := insertion.tuples.flatten

def statement (insertion : Insertion) (dialect : Dialect) : Statement :=
  ⟨dialect.sql insertion.pieces, insertion.slots.map Prod.fst⟩

def bound (insertion : Insertion) (dialect : Dialect) : BoundStatement :=
  ⟨dialect.sql insertion.pieces, insertion.slots.map Prod.snd⟩

end Insertion

def Row.located (rows : List Row) : List (Path × Row) := listed rows Prod.mk

namespace Schema

variable (schema : Schema)

/-- The fields that an insert writes from a row. -/
def insertedFields (row : Row) (selective : Bool) : List Field :=
  schema.fields.filter fun f =>
    f.persisted && if f.isKey then !row.isNull f.name else !selective || !row.isNull f.name

def insertOf (fields : List Field) (items : List (Path × Row)) : Insertion :=
  ⟨schema.table, fields.map Field.column, items.map fun item => fields.map (item.2.slot item.1)⟩

def rowInsert (row : Row) (selective : Bool) : Insertion :=
  schema.insertOf (schema.insertedFields row selective) [([], row)]

/-- The first row says which fields are written. -/
def listInsert (first : Row) (rest : List Row) (selective : Bool) : Insertion :=
  schema.insertOf (schema.insertedFields first selective) (Row.located (first :: rest))

end Schema

theorem Insertion.params_of_tuple (slots : List Slot) :
    paramPaths (tuplePieces slots) = slots.map Prod.fst := by
  rw [tuplePieces, param_paths_text, param_paths_append, param_paths_separated, List.flatMap_map,
    List.map_eq_flatMap]
  exact List.append_nil _

theorem Insertion.params (insertion : Insertion) :
    paramPaths insertion.pieces = insertion.slots.map Prod.fst := by
  rw [pieces, slots, param_paths_text, param_paths_separated, List.flatMap_map, List.map_flatten,
    List.flatMap_def]
  simp only [params_of_tuple]

namespace Dialect

variable (dialect : Dialect)

/-- The texts of items that stand one after the other, when the next parameter has this number. -/
def itemTexts : Nat → List (List Piece) → List String
  | _, [] => []
  | number, item :: rest =>
      .ofList (dialect.spelling number item) ::
        itemTexts (number + (paramPaths item).length) rest

theorem spelling_joined (separator : String) (number : Nat) (items : List (List Piece)) :
    dialect.spelling number (Piece.joined separator items) =
      (separator.intercalate (dialect.itemTexts number items)).toList := by
  unfold Piece.joined
  induction items generalizing number with
  | nil => rfl
  | cons item rest ih =>
      cases rest with
      | nil =>
          rw [List.intercalate_singleton, itemTexts, itemTexts, String.intercalate_singleton,
            String.toList_ofList]
      | cons next rest =>
          rw [List.intercalate_cons_cons, List.append_assoc, List.singleton_append,
            spelling_append, spelling_text, ih, itemTexts, itemTexts, itemTexts,
            String.intercalate_cons_cons, String.toList_append, String.toList_append,
            String.toList_ofList, List.append_assoc]

theorem length_item_texts (number : Nat) (items : List (List Piece)) :
    (dialect.itemTexts number items).length = items.length := by
  induction items generalizing number with
  | nil => rfl
  | cons item rest ih => rw [itemTexts, List.length_cons, ih, List.length_cons]

theorem getElem_item_texts (number : Nat) (items : List (List Piece)) (i : Nat) :
    (dialect.itemTexts number items)[i]? = items[i]?.map fun item =>
      .ofList (dialect.spelling (number + (paramPaths (items.take i).flatten).length) item) := by
  induction items generalizing i number with
  | nil => rfl
  | cons head rest ih =>
      cases i with
      | zero => rfl
      | succ i =>
          rw [itemTexts, List.getElem?_cons_succ, List.getElem?_cons_succ, ih, List.take_succ_cons,
            List.flatten_cons, param_paths_append, List.length_append, Nat.add_assoc]

/-- Items with the same number of parameters: those before an item have used up their numbers. -/
theorem item_texts_at {items : List (List Piece)} {width : Nat}
    (widths : ∀ item ∈ items, (paramPaths item).length = width) {i : Nat} {item : List Piece}
    (present : items[i]? = some item) (number : Nat) :
    (dialect.itemTexts number items)[i]? =
      some (.ofList (dialect.spelling (number + i * width) item)) := by
  have inside : i ≤ items.length := Nat.le_of_lt (List.getElem?_eq_some_iff.mp present).1
  have before : (paramPaths (items.take i).flatten).length = i * width := by
    have each : (items.take i).map (fun item => (paramPaths item).length) =
        List.replicate i width := by
      rw [List.eq_replicate_iff, List.length_map, List.length_take, Nat.min_eq_left inside]
      refine ⟨rfl, List.forall_mem_map.mpr ?_⟩
      exact fun item member => widths item (List.mem_of_mem_take member)
    rw [List.flatten_eq_flatMap, param_paths_flatMap, List.length_flatMap]
    simp only [id, each, List.sum_replicate, smul_eq_mul]
  rw [dialect.getElem_item_texts, present, before]
  rfl

theorem item_texts_of_params (number : Nat) (paths : List Path) :
    dialect.itemTexts number (paths.map fun path => [.param path]) =
      dialect.marks number paths := by
  induction paths generalizing number with
  | nil => rfl
  | cons path rest ih =>
      rw [List.map_cons, itemTexts, ih, spelling_param, spelling_nil, List.append_nil,
        String.ofList_toList]
      rfl

def tupleText (number : Nat) (slots : List Slot) : String :=
  "(" ++ ", ".intercalate (dialect.marks number (slots.map Prod.fst)) ++ ")"

theorem spelling_tuple (number : Nat) (slots : List Slot) :
    dialect.spelling number (Insertion.tuplePieces slots) =
      (dialect.tupleText number slots).toList := by
  have params : (slots.map fun slot => [Piece.param slot.1]) =
      (slots.map Prod.fst).map fun path => [.param path] := by
    rw [List.map_map]
    rfl
  rw [Insertion.tuplePieces, params, spelling_text, spelling_append, spelling_joined,
    item_texts_of_params, spelling_text, spelling_nil, List.append_nil, tupleText,
    String.toList_append, String.toList_append, List.append_assoc]

end Dialect

/-- The text of an insert: the tuples of its rows with commas between them. -/
theorem Insertion.sql_eq (insertion : Insertion) (dialect : Dialect) :
    dialect.sql insertion.pieces =
      insertion.head ++ ", ".intercalate
        (dialect.itemTexts 1 (insertion.tuples.map tuplePieces)) := by
  apply String.toList_injective
  rw [Dialect.to_list_sql, pieces, Dialect.spelling_text, Dialect.spelling_joined,
    String.toList_append]

namespace Mapping

variable {schema : Schema} {mapping : Mapping} {command : Command} {dialect : Dialect}

theorem insert_fields_eq (mapping : Mapping) (row : Row) (selective : Bool) :
    mapping.insertFields row selective = mapping.insertedFields row selective := by
  rw [insertFields, Schema.insertedFields, Schema.persisted, List.filter_filter]
  exact List.filter_congr fun f _ => Bool.and_comm ..

theorem tuple_of_row (base : Path) (row : Row) (fields : List Field) :
    tuple base fields = ⟨Insertion.tuplePieces (fields.map (row.slot base)), none⟩ := by
  have params : (fields.map fun f => Draft.param (base ++ [.key f.name])) =
      ((fields.map (row.slot base)).map fun slot => [Piece.param slot.1]).map
        fun pieces => ⟨pieces, none⟩ := by
    rw [List.map_map, List.map_map]
    rfl
  rw [tuple, params, Draft.joined_of_pieces]
  rfl

theorem insert_of_items (mapping : Mapping) (fields : List Field) (items : List (Path × Row)) :
    mapping.insertDraft fields (items.map Prod.fst) =
      ⟨(mapping.insertOf fields items).pieces, none⟩ := by
  have tuples : (items.map Prod.fst).map (fun base => tuple base fields) =
      ((mapping.insertOf fields items).tuples.map Insertion.tuplePieces).map
        fun pieces => ⟨pieces, none⟩ := by
    rw [Schema.insertOf, List.map_map, List.map_map, List.map_map]
    exact List.map_congr_left fun item _ => tuple_of_row item.1 item.2 fields
  rw [insertDraft, tuples, Draft.joined_of_pieces]
  rfl

theorem draft_of_row (mapping : Mapping) (row : Row) (selective : Bool) :
    mapping.draft (.insert row selective) =
      .after (mapping.requireFields (mapping.insertedFields row selective)) fun fields =>
        ⟨(mapping.insertOf fields [([], row)]).pieces, none⟩ := by
  rw [draft, insert_fields_eq]
  exact congrArg (Draft.after _) (funext fun fields => mapping.insert_of_items fields [([], row)])

theorem paths_of_located (rows : List Row) :
    (Row.located rows).map Prod.fst = listPaths rows.length := by
  rw [Row.located, Row.listed, List.map_map, listPaths, List.range_eq_range',
    ← List.zipIdx_map_snd, List.map_map]
  rfl

theorem draft_of_rows (mapping : Mapping) (first : Row) (rest : List Row) (selective : Bool) :
    mapping.draft (.insertMany (first :: rest) selective) =
      .after (mapping.requireFields (mapping.insertedFields first selective)) fun fields =>
        ⟨(mapping.insertOf fields (Row.located (first :: rest))).pieces, none⟩ := by
  rw [draft, insert_fields_eq]
  apply congrArg (Draft.after _)
  funext fields
  rw [← insert_of_items, paths_of_located]
  rfl

theorem statement_of_insertion (mapped : schema.mapping = .ok mapping) {insertion : Insertion}
    (written : mapping.draft command = ⟨insertion.pieces, none⟩) (dialect : Dialect) :
    command.statement schema dialect = .ok (insertion.statement dialect) := by
  rw [Command.statement, mapped]
  show (mapping.draft command).statement dialect = _
  rw [written, Draft.statement_eq_ok_iff, Insertion.statement, ← Insertion.params]
  exact ⟨rfl, rfl⟩

theorem build_of_insertion (mapped : schema.mapping = .ok mapping) {insertion : Insertion}
    (written : mapping.draft command = ⟨insertion.pieces, none⟩)
    (found : command.Finds insertion.slots) :
    command.build schema dialect = .ok (insertion.bound dialect) := by
  have bound : (insertion.statement dialect).bind command.root =
      .ok (insertion.slots.map Prod.snd) := mapM_bind_path insertion.slots found
  rw [Command.build_eq_map (statement_of_insertion mapped written dialect), bound]
  rfl

theorem draft_of_required {fields : List Field} (tree : List Field → Insertion)
    (written : mapping.draft command =
      .after (mapping.requireFields fields) fun fields => ⟨(tree fields).pieces, none⟩) :
    if fields = [] then (mapping.draft command).failure = some (.nothingToWrite mapping.entity)
    else mapping.draft command = ⟨(tree fields).pieces, none⟩ := by
  rw [written]
  split
  · rename_i nothing
    rw [nothing]
    rfl
  · rename_i some
    rw [require_fields_of_some some]
    rfl

end Mapping

end BoundSql
