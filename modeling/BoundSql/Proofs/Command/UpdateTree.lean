import Mathlib
import BoundSql.Proofs.ChangeSet.SetClause
import BoundSql.Proofs.Command.LiveRows

/-!
Updates as trees: what each column gets, which stored rows are selected, and the filter for live
rows. Every placeholder of a tree comes with its value, and those of what is written stand before
those of the selection. A command that updates writes such a tree, which has columns; it can be
built if the placeholders lead to their values.
-/

namespace BoundSql

abbrev Slot := Path × Value

inductive NewValue where
  /-- Null, written as a literal. -/
  | null
  | bound (slot : Slot)
  /-- The value that stands beside the first key that is the key of the stored row. Without such
  a key the column keeps its value. -/
  | byKey (keyColumn : String) (arms : List (Slot × Slot))

structure ColumnUpdate where
  column : String
  value : NewValue

inductive Selection where
  | key (column : String) (slot : Slot)
  | keys (column : String) (slots : List Slot)
  | criteria (sought : Criteria)

structure Update where
  table : String
  changes : List ColumnUpdate
  selection : Selection
  /-- What keeps the update to live rows, as it is written behind the selection. -/
  filter : String

def Piece.joined (separator : String) (items : List (List Piece)) : List Piece :=
  [.text separator].intercalate items

namespace ColumnUpdate

def armPieces (arm : Slot × Slot) : List Piece :=
  [.text " WHEN ", .param arm.1.1, .text " THEN ", .param arm.2.1]

def pieces (change : ColumnUpdate) : List Piece :=
  match change.value with
  | .null => [.text (change.column ++ " = NULL")]
  | .bound slot => [.text (change.column ++ " = "), .param slot.1]
  | .byKey keyColumn arms =>
      .text (change.column ++ " = CASE " ++ keyColumn) ::
        (Piece.joined "" (arms.map armPieces) ++ [.text (" ELSE " ++ change.column ++ " END")])

def slots (change : ColumnUpdate) : List Slot :=
  match change.value with
  | .null => []
  | .bound slot => [slot]
  | .byKey _ arms => arms.flatMap fun arm => [arm.1, arm.2]

end ColumnUpdate

namespace Selection

def pieces : Selection → List Piece
  | .key column slot => [.text (column ++ " = "), .param slot.1]
  | .keys column slots =>
      .text (column ++ " IN (") ::
        (Piece.joined ", " (slots.map fun slot => [.param slot.1]) ++ [.text ")"])
  | .criteria sought => (sought.draft [.key "condition"]).pieces

def slots : Selection → List Slot
  | .key _ slot => [slot]
  | .keys _ slots => slots
  | .criteria sought =>
      sought.bindings.map fun binding => (.key "condition" :: binding.1, binding.2)

def failure : Selection → Option Error
  | .criteria sought => (Condition.failuresOf sought.conditions).head?
  | _ => none

end Selection

namespace Update

def pieces (update : Update) : List Piece :=
  .text ("UPDATE " ++ update.table ++ " SET ") ::
    (Piece.joined ", " (update.changes.map ColumnUpdate.pieces) ++
      (.text " WHERE " :: (update.selection.pieces ++ [.text update.filter])))

/-- The placeholders of an update in the order of its text: those of what is written, then those
of the selection. -/
def slots (update : Update) : List Slot :=
  update.changes.flatMap ColumnUpdate.slots ++ update.selection.slots

def statement (update : Update) (dialect : Dialect) : Statement :=
  ⟨dialect.sql update.pieces, update.slots.map Prod.fst⟩

def bound (update : Update) (dialect : Dialect) : BoundStatement :=
  ⟨dialect.sql update.pieces, update.slots.map Prod.snd⟩

end Update

def Command.Finds (command : Command) (slots : List Slot) : Prop :=
  ∀ slot ∈ slots, command.root slot.1 = some slot.2

def Row.slot (base : Path) (row : Row) (f : Field) : Slot :=
  (base ++ [.key f.name], row.value f.name)

/-- Something for every row of a list, which lies at its position. -/
def Row.listed {α : Type} (rows : List Row) (each : Path → Row → α) : List α :=
  rows.zipIdx.map fun item => each [.key "list", .index item.2] item.1

def Row.change (base : Path) (row : Row) (f : Field) : ColumnUpdate :=
  ⟨f.column, .bound (row.slot base f)⟩

/-- The column of a field gets what the row with the key has in the field. -/
def Row.changeByKey (rows : List Row) (key f : Field) : ColumnUpdate :=
  ⟨f.column, .byKey key.column
    (listed rows fun base row => (row.slot base key, row.slot base f))⟩

def ChangeSet.change (entry : String × Value) : ColumnUpdate :=
  ⟨entry.1, if entry.2.isNull then .null else .bound (.key "spec" :: entryPath entry, entry.2)⟩

namespace Schema

variable (schema : Schema)

def writtenFields (row : Row) (selective : Bool) : List Field :=
  schema.fields.filter fun f =>
    f.persisted && !f.isKey && (!selective || !row.isNull f.name)

def keyUpdate (key : Field) (row : Row) (selective : Bool) : Update :=
  ⟨schema.table, (schema.writtenFields row selective).map (row.change []),
    .key key.column (row.slot [] key), schema.liveFilter⟩

/-- Writes a row over all stored rows that meet the criteria. -/
def criteriaUpdate (row : Row) (criteria : Criteria) (selective : Bool) : Update :=
  ⟨schema.table, (schema.writtenFields row selective).map (row.change [.key "entity"]),
    .criteria criteria, schema.liveFilter⟩

def changeUpdate (changes : ChangeSet) (criteria : Criteria) : Update :=
  ⟨schema.table, changes.entries.map ChangeSet.change, .criteria criteria, schema.liveFilter⟩

/-- Writes each row of a list over the stored row with its key. The first row says which fields
are written. -/
def batchUpdate (key : Field) (first : Row) (rest : List Row) (selective : Bool) : Update :=
  ⟨schema.table,
    (schema.writtenFields first selective).map (Row.changeByKey (first :: rest) key),
    .keys key.column (Row.listed (first :: rest) fun base row => row.slot base key),
    schema.liveFilter⟩

end Schema

theorem param_paths_separated (separator : String) (items : List (List Piece)) :
    paramPaths (Piece.joined separator items) = items.flatMap paramPaths := by
  unfold Piece.joined
  induction items with
  | nil => rfl
  | cons item rest ih =>
      cases rest with
      | nil => rw [List.intercalate_singleton, List.flatMap_singleton]
      | cons next rest =>
          have separated : paramPaths [.text separator] = [] := rfl
          rw [List.intercalate_cons_cons, param_paths_append, param_paths_append, ih, separated,
            List.append_nil]
          rfl

theorem ColumnUpdate.params (change : ColumnUpdate) :
    paramPaths change.pieces = change.slots.map Prod.fst := by
  obtain ⟨column, value⟩ := change
  cases value with
  | null => rfl
  | bound slot => rfl
  | byKey keyColumn arms =>
      rw [pieces, slots, param_paths_text, param_paths_append, param_paths_separated,
        List.flatMap_map, List.map_flatMap]
      exact List.append_nil _

theorem Selection.params {selection : Selection} (complete : selection.failure = none) :
    paramPaths selection.pieces = selection.slots.map Prod.fst := by
  cases selection with
  | key column slot => rfl
  | keys column slots =>
      rw [pieces, Selection.slots, param_paths_text, param_paths_append, param_paths_separated,
        List.flatMap_map, List.map_eq_flatMap]
      exact List.append_nil _
  | criteria sought =>
      have clean : Condition.failuresOf sought.conditions = [] := List.head?_eq_none_iff.mp complete
      rw [pieces, slots, sought.params_draft [.key "condition"] clean, List.map_map]
      rfl

theorem Update.params {update : Update} (complete : update.selection.failure = none) :
    paramPaths update.pieces = update.slots.map Prod.fst := by
  have changed : (update.changes.map ColumnUpdate.pieces).flatMap paramPaths =
      (update.changes.flatMap ColumnUpdate.slots).map Prod.fst := by
    rw [List.flatMap_map, List.map_flatMap]
    simp only [ColumnUpdate.params]
  rw [pieces, slots, param_paths_text, param_paths_append, param_paths_separated, changed,
    param_paths_text, param_paths_append, Selection.params complete, param_paths_text,
    param_paths_nil, List.append_nil, List.map_append]

theorem Draft.joined_of_pieces (separator : String) (items : List (List Piece)) :
    joined separator (items.map fun pieces => ⟨pieces, none⟩) =
      ⟨Piece.joined separator items, none⟩ := by
  unfold Piece.joined
  induction items with
  | nil => rfl
  | cons item rest ih =>
      cases rest with
      | nil =>
          rw [List.intercalate_singleton]
          rfl
      | cons next rest =>
          rw [List.map_cons] at ih
          rw [List.map_cons, List.map_cons, joined_cons_cons, ih, List.intercalate_cons_cons,
            List.append_assoc]
          rfl

theorem Draft.joined_of_complete (separator : String) {drafts : List Draft}
    (complete : ∀ draft ∈ drafts, draft.failure = none) :
    joined separator drafts = ⟨Piece.joined separator (drafts.map Draft.pieces), none⟩ := by
  have same : (drafts.map Draft.pieces).map (fun pieces => ⟨pieces, none⟩) = drafts := by
    rw [List.map_map]
    apply (List.map_congr_left ?_).trans (List.map_id drafts)
    intro draft member
    obtain ⟨pieces, failure⟩ := draft
    exact congrArg (Draft.mk pieces) (complete _ member).symm
  rw [← joined_of_pieces, same]

namespace Mapping

variable {schema : Schema} {mapping : Mapping} {command : Command} {update : Update}
  {dialect : Dialect}

theorem assignments_of_changes {items : List ColumnUpdate} {drafts : List Draft}
    (each : drafts = items.map fun change => ⟨change.pieces, none⟩) :
    Draft.joined ", " drafts = ⟨Piece.joined ", " (items.map ColumnUpdate.pieces), none⟩ := by
  rw [← Draft.joined_of_pieces, List.map_map, each]
  rfl

theorem assignments_of_row (base : Path) (row : Row) (fields : List Field) :
    fieldAssignments base fields =
      ⟨Piece.joined ", " ((fields.map (row.change base)).map ColumnUpdate.pieces), none⟩ := by
  apply assignments_of_changes
  rw [List.map_map]
  rfl

theorem assignments_of_entries (entries : List (String × Value)) :
    Draft.joined ", " (entries.map (ChangeSet.assignment [.key "spec"])) =
      ⟨Piece.joined ", " ((entries.map ChangeSet.change).map ColumnUpdate.pieces), none⟩ := by
  apply assignments_of_changes
  rw [List.map_map]
  apply List.map_congr_left
  intro entry _
  show ChangeSet.assignment [.key "spec"] entry = ⟨(ChangeSet.change entry).pieces, none⟩
  cases null : entry.2.isNull with
  | true =>
      rw [ChangeSet.assignment, ChangeSet.change, null, if_pos rfl, if_pos rfl]
      rfl
  | false =>
      rw [ChangeSet.assignment, ChangeSet.change, null, if_neg Bool.false_ne_true,
        if_neg Bool.false_ne_true]
      rfl

theorem list_paths_eq {α : Type} (rows : List Row) (each : Path → α) :
    (listPaths rows.length).map each = Row.listed rows fun base _ => each base := by
  rw [listPaths, List.range_eq_range', ← List.zipIdx_map_snd, List.map_map, List.map_map]
  rfl

theorem case_of_rows (rows : List Row) (key f : Field) :
    caseAssignment key (listPaths rows.length) f = ⟨(Row.changeByKey rows key f).pieces, none⟩ := by
  have arms : (listPaths rows.length).map (fun base =>
      Draft.text " WHEN " ++ (.param (base ++ [.key key.name]) ++
        (.text " THEN " ++ .param (base ++ [.key f.name])))) =
      ((Row.listed rows fun base row => (row.slot base key, row.slot base f)).map
        ColumnUpdate.armPieces).map fun pieces => ⟨pieces, none⟩ := by
    rw [list_paths_eq, Row.listed, Row.listed, List.map_map, List.map_map]
    rfl
  rw [caseAssignment, arms, Draft.joined_of_pieces]
  rfl

theorem among_of_rows (rows : List Row) (key : Field) :
    keyAmong key (listPaths rows.length) =
      ⟨(Selection.keys key.column (Row.listed rows fun base row => row.slot base key)).pieces,
        none⟩ := by
  have slots : (listPaths rows.length).map (fun base => Draft.param (base ++ [.key key.name])) =
      ((Row.listed rows fun base row => row.slot base key).map
        fun slot => [Piece.param slot.1]).map fun pieces => ⟨pieces, none⟩ := by
    rw [list_paths_eq, Row.listed, Row.listed, List.map_map, List.map_map]
    rfl
  rw [keyAmong, slots, Draft.joined_of_pieces]
  rfl

/-- The command is the text of the tree, or fails as its selection does. -/
structure Writes (mapping : Mapping) (command : Command) (update : Update) : Prop where
  failure : (mapping.draft command).failure = update.selection.failure
  pieces : update.selection.failure = none → (mapping.draft command).pieces = update.pieces

theorem writes_of_parts {changes : List ColumnUpdate} {selection : Selection} {condition : Draft}
    (written : mapping.draft command =
      mapping.updateDraft ⟨Piece.joined ", " (changes.map ColumnUpdate.pieces), none⟩ condition)
    (failure : condition.failure = selection.failure)
    (pieces : condition.pieces = selection.pieces) :
    mapping.Writes command ⟨mapping.table, changes, selection, mapping.liveFilter⟩ := by
  have set : (⟨Piece.joined ", " (changes.map ColumnUpdate.pieces), none⟩ : Draft).failure = none :=
    rfl
  constructor
  · rw [written, updateDraft, Draft.failure_append, Draft.failure_append, Draft.failure_append,
      Draft.failure_append, set, failure]
    cases selection.failure <;> rfl
  · intro complete
    have selected : condition.failure = none := failure.trans complete
    rw [written, updateDraft, Draft.pieces_append rfl, Draft.pieces_append set,
      Draft.pieces_append rfl, Draft.pieces_append selected, pieces]
    rfl

theorem writes_criteria {changes : List ColumnUpdate} {criteria : Criteria}
    (written : mapping.draft command =
      mapping.updateDraft ⟨Piece.joined ", " (changes.map ColumnUpdate.pieces), none⟩
        (criteria.draft [.key "condition"])) :
    mapping.Writes command ⟨mapping.table, changes, .criteria criteria, mapping.liveFilter⟩ :=
  writes_of_parts written (Condition.failure_clause _ _) rfl

theorem update_fields_eq (mapping : Mapping) (row : Row) (selective : Bool) :
    mapping.updateFields row selective = mapping.writtenFields row selective := by
  rw [updateFields, Schema.writtenFields, Schema.persisted, List.filter_filter]
  apply List.filter_congr
  intro f _
  rw [Bool.and_comm, Bool.and_assoc]

theorem require_fields_of_some {fields : List Field} (some : fields ≠ []) :
    mapping.requireFields fields = .ok fields := by
  cases fields with
  | nil => exact absurd rfl some
  | cons f fields => rfl

theorem require_key_value_of_given {key : Field} {row : Row}
    (given : row.isNull key.name = false) : mapping.requireKeyValue key row = .ok () := by
  rw [requireKeyValue, given]
  rfl

theorem draft_of_key {key : Field} {row : Row} {selective : Bool}
    (found : mapping.requireKey = .ok key) :
    mapping.draft (.updateById row selective) =
      .after (mapping.requireKeyValue key row) fun _ =>
        .after (mapping.requireFields (mapping.writtenFields row selective)) fun fields =>
          mapping.updateDraft (fieldAssignments [] fields) (keyEquals key [.key key.name]) := by
  rw [draft, found, update_fields_eq]
  rfl

theorem writes_by_key {key : Field} {row : Row} {selective : Bool}
    (found : mapping.requireKey = .ok key) (given : row.isNull key.name = false)
    (some : mapping.writtenFields row selective ≠ []) :
    mapping.Writes (.updateById row selective) (mapping.keyUpdate key row selective) := by
  have written : mapping.draft (.updateById row selective) = mapping.updateDraft
      (fieldAssignments [] (mapping.writtenFields row selective))
      (keyEquals key [.key key.name]) := by
    rw [draft_of_key found, require_key_value_of_given given, require_fields_of_some some]
    rfl
  rw [assignments_of_row [] row] at written
  exact writes_of_parts written rfl rfl

theorem writes_by_criteria {row : Row} {criteria : Criteria} {selective : Bool}
    (some : mapping.writtenFields row selective ≠ []) :
    mapping.Writes (.updateWhere row criteria selective)
      (mapping.criteriaUpdate row criteria selective) := by
  have written : mapping.draft (.updateWhere row criteria selective) = mapping.updateDraft
      (fieldAssignments [.key "entity"] (mapping.writtenFields row selective))
      (criteria.draft [.key "condition"]) := by
    rw [draft, update_fields_eq, require_fields_of_some some]
    rfl
  rw [assignments_of_row [.key "entity"] row] at written
  exact writes_criteria written

theorem writes_changes {changes : ChangeSet} {criteria : Criteria} (some : changes.entries ≠ []) :
    mapping.Writes (.updateWith changes criteria) (mapping.changeUpdate changes criteria) := by
  have written : changes.draft [.key "spec"] =
      Draft.joined ", " (changes.entries.map (ChangeSet.assignment [.key "spec"])) := by
    unfold ChangeSet.draft
    split
    · rename_i nothing
      exact absurd nothing some
    · rfl
  apply writes_criteria
  rw [draft, written, assignments_of_entries]

theorem writes_batch {key : Field} {first : Row} {rest : List Row} {selective : Bool}
    {done : Unit} (found : mapping.requireKey = .ok key)
    (given : (first :: rest).forM (mapping.requireKeyValue key) = .ok done)
    (some : mapping.writtenFields first selective ≠ []) :
    mapping.Writes (.updateMany (first :: rest) selective)
      (mapping.batchUpdate key first rest selective) := by
  have choices : Draft.joined ", " ((mapping.writtenFields first selective).map
      (caseAssignment key (listPaths (first :: rest).length))) =
        ⟨Piece.joined ", " (((mapping.writtenFields first selective).map
          (Row.changeByKey (first :: rest) key)).map ColumnUpdate.pieces), none⟩ := by
    apply assignments_of_changes
    rw [List.map_map]
    exact List.map_congr_left fun f _ => case_of_rows (first :: rest) key f
  have written : mapping.draft (.updateMany (first :: rest) selective) = mapping.updateDraft
      (.joined ", " ((mapping.writtenFields first selective).map
        (caseAssignment key (listPaths (first :: rest).length))))
      (keyAmong key (listPaths (first :: rest).length)) := by
    rw [draft, found]
    show Draft.after _ (fun _ => Draft.after
      (mapping.requireFields (mapping.updateFields first selective)) _) = _
    rw [given, update_fields_eq, require_fields_of_some some]
    rfl
  rw [choices, among_of_rows] at written
  exact writes_of_parts written rfl rfl

theorem given_of_require_key_value {key : Field} {row : Row} {done : Unit}
    (required : mapping.requireKeyValue key row = .ok done) : row.isNull key.name = false := by
  cases null : row.isNull key.name with
  | true =>
      rw [requireKeyValue, null] at required
      cases required
  | false => rfl

/-- Fields were required for an update, so there are fields that are written. -/
theorem some_of_require_fields {row : Row} {selective : Bool} {fields : List Field}
    (required : mapping.requireFields (mapping.updateFields row selective) = .ok fields) :
    mapping.writtenFields row selective ≠ [] := by
  rw [← update_fields_eq]
  exact (of_require_fields required).2

/-- An update command that is complete writes a tree with columns. -/
theorem writes_of_complete (is : command.IsUpdate)
    (complete : (mapping.draft command).failure = none) :
    ∃ update : Update, update.changes ≠ [] ∧ mapping.Writes command update := by
  have changed {fields : List Field} {change : Field → ColumnUpdate} (some : fields ≠ []) :
      fields.map change ≠ [] := mt List.map_eq_nil_iff.mp some
  cases command with
  | updateById row selective =>
      obtain ⟨key, found, -, complete⟩ := Draft.check_of_complete complete
      obtain ⟨_, given, -, complete⟩ := Draft.check_of_complete complete
      obtain ⟨fields, required, -, -⟩ := Draft.check_of_complete complete
      have some := some_of_require_fields required
      exact ⟨_, changed some, writes_by_key found (given_of_require_key_value given) some⟩
  | updateWhere row criteria selective =>
      obtain ⟨fields, required, -, -⟩ := Draft.check_of_complete complete
      have some := some_of_require_fields required
      exact ⟨_, changed some, writes_by_criteria some⟩
  | updateWith changes criteria =>
      have assigned := ((Draft.complete_append_iff ..).mp
        ((Draft.complete_append_iff ..).mp complete).2).1
      have some : changes.entries ≠ [] := by
        intro nothing
        rw [changes.failure_draft, if_pos nothing] at assigned
        cases assigned
      exact ⟨_, mt List.map_eq_nil_iff.mp some, writes_changes some⟩
  | updateMany rows selective =>
      obtain ⟨key, found, -, complete⟩ := Draft.check_of_complete complete
      cases rows with
      | nil => cases complete
      | cons first rest =>
          obtain ⟨_, given, -, complete⟩ := Draft.check_of_complete complete
          obtain ⟨fields, required, -, -⟩ := Draft.check_of_complete complete
          have some := some_of_require_fields required
          exact ⟨_, changed some, writes_batch found given some⟩
  | insert => exact is.elim
  | insertMany => exact is.elim
  | delete => exact is.elim
  | select => exact is.elim

theorem statement_of_writes (mapped : schema.mapping = .ok mapping)
    (writes : mapping.Writes command update) (dialect : Dialect) :
    command.statement schema dialect =
      match update.selection.failure with
      | some e => .error e
      | none => .ok (update.statement dialect) := by
  have written : command.statement schema dialect = (mapping.draft command).statement dialect := by
    rw [Command.statement, mapped]
    rfl
  rw [written, Draft.statement, writes.failure]
  cases complete : update.selection.failure with
  | some e => rfl
  | none =>
      show Except.ok _ = Except.ok _
      rw [writes.pieces complete, Update.statement, Update.params complete]

theorem build_of_writes (mapped : schema.mapping = .ok mapping)
    (writes : mapping.Writes command update)
    (found : command.Finds update.slots) :
    command.build schema dialect =
      match update.selection.failure with
      | some e => .error e
      | none => .ok (update.bound dialect) := by
  have written := statement_of_writes mapped writes dialect
  cases complete : update.selection.failure with
  | some e =>
      rw [complete] at written
      rw [Command.build, written]
      rfl
  | none =>
      rw [complete] at written
      have bound : (update.statement dialect).bind command.root =
          .ok (update.slots.map Prod.snd) := mapM_bind_path update.slots found
      rw [Command.build_eq_map written, bound]
      rfl

theorem finds_append {slots others : List Slot} (first : command.Finds slots)
    (second : command.Finds others) : command.Finds (slots ++ others) :=
  List.forall_mem_append.mpr ⟨first, second⟩

theorem value_of_covers {row : Row} {f : Field} (covers : row.value? f.name ≠ none) :
    row.value? f.name = some (row.value f.name) := by
  obtain ⟨value, present⟩ := Option.ne_none_iff_exists'.mp covers
  rw [Row.value, present]
  rfl

theorem finds_row {base : Path} {row : Row} {fields : List Field}
    (under : ∀ name, command.root (base ++ [.key name]) = row.value? name)
    (covers : ∀ f ∈ fields, row.value? f.name ≠ none) :
    command.Finds (fields.map (row.slot base)) := by
  intro slot member
  obtain ⟨f, present, rfl⟩ := List.mem_map.mp member
  exact (under f.name).trans (value_of_covers (covers f present))

theorem slots_of_row (base : Path) (row : Row) (fields : List Field) :
    (fields.map (row.change base)).flatMap ColumnUpdate.slots = fields.map (row.slot base) := by
  rw [List.flatMap_map, List.map_eq_flatMap]
  rfl

theorem stored_of_written {row : Row} {selective : Bool} {f : Field}
    (written : f ∈ schema.writtenFields row selective) : f ∈ schema.persisted := by
  obtain ⟨declared, is⟩ := List.mem_filter.mp written
  rw [Bool.and_eq_true, Bool.and_eq_true] at is
  exact List.mem_filter.mpr ⟨declared, is.1.1⟩

end Mapping

end BoundSql
