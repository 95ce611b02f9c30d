import BoundSql.Command.Basic

/-!
Commands in SQL. Columns come from the fields of the mapping in the order of declaration:
ignored fields never take part, the key is inserted only with a value and never updated, and
reads and updates keep to live rows. SET parameters stand before WHERE parameters.
-/

namespace BoundSql

namespace Mapping

def insertFields (mapping : Mapping) (row : Row) (selective : Bool) : List Field :=
  mapping.persisted.filter fun f =>
    if f.isKey then !row.isNull f.name else !selective || !row.isNull f.name

def updateFields (mapping : Mapping) (row : Row) (selective : Bool) : List Field :=
  mapping.persisted.filter fun f => !f.isKey && (!selective || !row.isNull f.name)

def requireFields (mapping : Mapping) (fields : List Field) : Except Error (List Field) :=
  if fields.isEmpty then .error (.nothingToWrite mapping.entity) else .ok fields

def requireKeyValue (mapping : Mapping) (key : Field) (row : Row) : Except Error Unit :=
  if row.isNull key.name then .error (.missingKey mapping.entity key.name) else .ok ()

def columnList (fields : List Field) : String := ", ".intercalate (fields.map Field.column)

/-- The placeholders of one row, in brackets; the values lie under `base`. -/
def tuple (base : Path) (fields : List Field) : Draft :=
  .text "(" ++
    (.joined ", " (fields.map fun f => .param (base ++ [.key f.name])) ++ .text ")")

def insertDraft (mapping : Mapping) (fields : List Field) (rows : List Path) : Draft :=
  .text ("INSERT INTO " ++ mapping.table ++ " (" ++ columnList fields ++ ") VALUES ") ++
    .joined ", " (rows.map fun base => tuple base fields)

def fieldAssignments (base : Path) (fields : List Field) : Draft :=
  .joined ", " (fields.map fun f =>
    .text (f.column ++ " = ") ++ .param (base ++ [.key f.name]))

def updateDraft (mapping : Mapping) (assignments condition : Draft) : Draft :=
  .text ("UPDATE " ++ mapping.table ++ " SET ") ++
    (assignments ++ (.text " WHERE " ++ (condition ++ .text mapping.liveFilter)))

def keyEquals (key : Field) (path : Path) : Draft := .text (key.column ++ " = ") ++ .param path

def listPaths (length : Nat) : List Path :=
  (List.range length).map fun i => [.key "list", .index i]

/-- One field of every row in a list: the row with a key gets the value that stands beside it. -/
def caseAssignment (key : Field) (rows : List Path) (f : Field) : Draft :=
  let arms := rows.map fun base =>
    .text " WHEN " ++ (.param (base ++ [.key key.name]) ++
      (.text " THEN " ++ .param (base ++ [.key f.name])))
  .text (f.column ++ " = CASE " ++ key.column) ++
    (.joined "" arms ++ .text (" ELSE " ++ f.column ++ " END"))

def keyAmong (key : Field) (rows : List Path) : Draft :=
  .text (key.column ++ " IN (") ++
    (.joined ", " (rows.map fun base => .param (base ++ [.key key.name])) ++ .text ")")

def targetDraft (mapping : Mapping) : Target → Draft
  | .id value =>
      .after mapping.requireKey fun key =>
        if value.isNull then .fail (.missingKey mapping.entity key.name)
        else keyEquals key [.key "id"]
  | .ids values =>
      .after mapping.requireKey fun key =>
        if values.isEmpty then .text "1=0"
        else .text (key.column ++ " IN (") ++ (.positions [.key "ids"] values.length ++ .text ")")
  | .criteria criteria => criteria.draft [.key "condition"]

def selectTail (options : SelectOptions) (target : Target) : Draft :=
  let clauses := match target with
    | .criteria criteria =>
        Criteria.groupClause criteria.groups ++
          (if options.count then .empty else Criteria.orderClause criteria.orders)
    | _ => .empty
  clauses ++ .text ((if options.limitOne then " LIMIT 1" else "") ++
    if options.forUpdate then " FOR UPDATE" else "")

/-- The SQL of a command. Keys are asked for first, then the fields to be written. -/
def draft (mapping : Mapping) : Command → Draft
  | .insert row selective =>
      .after (mapping.requireFields (mapping.insertFields row selective)) fun fields =>
        mapping.insertDraft fields [[]]
  | .insertMany [] _ =>
      .fail (.custom ("Cannot build a multi-row insert for " ++ mapping.entity ++
        " from an empty list"))
  | .insertMany (row :: rows) selective =>
      .after (mapping.requireFields (mapping.insertFields row selective)) fun fields =>
        mapping.insertDraft fields (listPaths (rows.length + 1))
  | .updateById row selective =>
      .after mapping.requireKey fun key =>
        .after (mapping.requireKeyValue key row) fun _ =>
          .after (mapping.requireFields (mapping.updateFields row selective)) fun fields =>
            mapping.updateDraft (fieldAssignments [] fields) (keyEquals key [.key key.name])
  | .updateWhere row criteria selective =>
      .after (mapping.requireFields (mapping.updateFields row selective)) fun fields =>
        mapping.updateDraft (fieldAssignments [.key "entity"] fields)
          (criteria.draft [.key "condition"])
  | .updateWith changes criteria =>
      mapping.updateDraft (changes.draft [.key "spec"]) (criteria.draft [.key "condition"])
  | .updateMany rows selective =>
      .after mapping.requireKey fun key =>
        match rows with
        | [] => .fail (.nothingToWrite mapping.entity)
        | first :: _ =>
            .after (rows.forM (mapping.requireKeyValue key)) fun _ =>
              .after (mapping.requireFields (mapping.updateFields first selective)) fun fields =>
                let paths := listPaths rows.length
                mapping.updateDraft (.joined ", " (fields.map (caseAssignment key paths)))
                  (keyAmong key paths)
  | .delete target false =>
      .text ("DELETE FROM " ++ mapping.table ++ " WHERE ") ++ mapping.targetDraft target
  | .delete target true =>
      .after mapping.requireMarked fun (f, marker) =>
        .text ("UPDATE " ++ mapping.table ++ " SET " ++ f.column ++ " = " ++ marker.deleted ++
          " WHERE ") ++ mapping.targetDraft target
  | .select target options =>
      let projection := if options.count then "COUNT(1)" else ", ".intercalate mapping.columns
      .text ("SELECT " ++ projection ++ " FROM " ++ mapping.table ++ " WHERE ") ++
        (mapping.targetDraft target ++ (.text mapping.liveFilter ++ selectTail options target))

end Mapping

namespace Command

def statement (command : Command) (schema : Schema) (dialect : Dialect) :
    Except Error Statement := do
  let mapping ← schema.mapping
  (mapping.draft command).statement dialect

def build (command : Command) (schema : Schema) (dialect : Dialect) :
    Except Error BoundStatement := do
  let statement ← command.statement schema dialect
  statement.bound command.root

end Command

end BoundSql
