import Mathlib
import BoundSql.Proofs.Command.KeyTargets
import BoundSql.Proofs.Command.RowList
import BoundSql.Proofs.Command.Updates

/-!
One statement for the updates of many rows. The batch lists its values column by column, and the
updates of the single rows list them row by row; the arms of a row in the batch are what its own
update writes. In a store, the first row whose key is that of a stored row decides what the batch
writes over it. The single updates, made one after the other, do the same if no two keys are equal,
because none of them touches the key.
-/

namespace BoundSql

/-- The columns that get a bound value, with these values. -/
def Update.pairs (update : Update) : List (String × Value) :=
  update.changes.filterMap fun change =>
    match change.value with
    | .bound slot => some (change.column, slot.2)
    | _ => none

/-- For each column that is chosen by the key, the key in the arm at a position, and the column
with the value of that arm. -/
def Update.arms (update : Update) (i : Nat) : List (Value × String × Value) :=
  update.changes.filterMap fun change =>
    match change.value with
    | .byKey _ arms => arms[i]?.map fun arm => (arm.1.2, change.column, arm.2.2)
    | _ => none

/-- The keys that a selection compares with, and the column of the key. -/
def Selection.keyPairs : Selection → List (String × Value)
  | .key column slot => [(column, slot.2)]
  | .keys column slots => slots.map fun slot => (column, slot.2)
  | .criteria _ => []

abbrev StoredRow := String → Value

/-- What a store knows about values and conditions. -/
structure Store where
  /-- A stored value compares equal to a value that is bound. -/
  equals : Value → Value → Bool
  /-- Values that equal one stored value equal each other. -/
  euclidean : ∀ stored a b, equals stored a = true → equals stored b = true → equals a b = true
  /-- Whether a stored row meets criteria. -/
  satisfies : StoredRow → Criteria → Bool
  /-- Whether a stored row passes a filter, given as its text. -/
  passes : StoredRow → String → Bool

namespace Store

variable (store : Store)

def hasKey (stored : StoredRow) (key : Field) (row : Row) : Bool :=
  store.equals (stored key.column) (row.value key.name)

def selects (stored : StoredRow) : Selection → Bool
  | .key column slot => store.equals (stored column) slot.2
  | .keys column slots => slots.any fun slot => store.equals (stored column) slot.2
  | .criteria sought => store.satisfies stored sought

def newValue (stored : StoredRow) (change : ColumnUpdate) : Value :=
  match change.value with
  | .null => .null
  | .bound slot => slot.2
  | .byKey keyColumn arms =>
      ((arms.find? fun arm => store.equals (stored keyColumn) arm.1.2).map fun arm => arm.2.2).getD
        (stored change.column)

/-- The stored row with all changes made at once. -/
def changed (stored : StoredRow) (changes : List ColumnUpdate) : StoredRow := fun column =>
  ((changes.find? fun change => change.column == column).map (store.newValue stored)).getD
    (stored column)

def run (stored : StoredRow) (update : Update) : StoredRow :=
  if store.selects stored update.selection && store.passes stored update.filter then
    store.changed stored update.changes
  else stored

end Store

def Schema.plainFields (schema : Schema) : List Field := schema.persisted.filter fun f => !f.isKey

theorem Schema.written_fields_of_all (schema : Schema) (row : Row) :
    schema.writtenFields row false = schema.plainFields := by
  rw [writtenFields, plainFields, persisted, List.filter_filter]
  apply List.filter_congr
  intro f _
  rw [Bool.not_false, Bool.true_or, Bool.and_true, Bool.and_comm]

theorem Schema.written_fields_alike (schema : Schema) (row other : Row) :
    schema.writtenFields row false = schema.writtenFields other false := by
  rw [written_fields_of_all, written_fields_of_all]

theorem Schema.plain_of_written {schema : Schema} {row : Row} {selective : Bool} {f : Field}
    (written : f ∈ schema.writtenFields row selective) : f ∈ schema.plainFields := by
  have notKey := ((schema.mem_written_fields_iff row selective f).mp written).2.2.1
  rw [plainFields, List.mem_filter, notKey]
  exact ⟨Mapping.stored_of_written written, rfl⟩

/-- Writes these fields of a row over the stored row with its key. -/
def Schema.fieldsUpdate (schema : Schema) (key : Field) (row : Row) (fields : List Field) :
    Update :=
  ⟨schema.table, fields.map (row.change []), .key key.column (row.slot [] key),
    schema.liveFilter⟩

theorem Schema.key_update_eq (schema : Schema) (key : Field) (row : Row) (selective : Bool) :
    schema.keyUpdate key row selective =
      schema.fieldsUpdate key row (schema.writtenFields row selective) := rfl

theorem Schema.slots_of_batch (schema : Schema) (key : Field) (first : Row) (rest : List Row)
    (selective : Bool) :
    (schema.batchUpdate key first rest selective).slots =
      ((schema.writtenFields first selective).flatMap fun f =>
        Row.listSlots (first :: rest) [key, f]) ++ Row.listSlots (first :: rest) [key] := by
  have choices (f : Field) : (Row.changeByKey (first :: rest) key f).slots =
      Row.listSlots (first :: rest) [key, f] := by
    show ((Row.listed (first :: rest) fun base row =>
      (row.slot base key, row.slot base f)).flatMap fun arm => [arm.1, arm.2]) = _
    rw [Row.listSlots, Row.listed, Row.listed, List.flatMap_map, ← List.flatMap_def]
    rfl
  have among : (Row.listed (first :: rest) fun base row => row.slot base key) =
      Row.listSlots (first :: rest) [key] := by
    rw [Row.listSlots, Row.listed, Row.listed, List.map_eq_flatMap, ← List.flatMap_def]
    rfl
  rw [Update.slots, batchUpdate, List.flatMap_map, Selection.slots, among]
  simp only [choices]

namespace Mapping

variable {mapping : Mapping} {key : Field} {first : Row} {rest rows : List Row}

theorem require_key_values_eq (mapping : Mapping) (key : Field) (rows : List Row) :
    rows.forM (mapping.requireKeyValue key) =
      if rows.any fun row => row.isNull key.name then
        .error (.missingKey mapping.entity key.name)
      else .ok () := by
  induction rows with
  | nil => rfl
  | cons row rows ih =>
      rw [List.forM, ih, requireKeyValue, List.any_cons]
      cases row.isNull key.name <;> rfl

theorem finds_batch {selective : Bool} (keyed : key ∈ mapping.persisted)
    (covers : (Command.updateMany (first :: rest) selective).Covers mapping.toSchema) :
    (Command.updateMany (first :: rest) selective).Finds
      (mapping.batchUpdate key first rest selective).slots := by
  rw [Schema.slots_of_batch]
  apply finds_append
  · intro slot member
    obtain ⟨f, written, inside⟩ := List.mem_flatMap.mp member
    refine finds_list_slots rfl ?_ slot inside
    intro row given
    rw [List.forall_mem_cons, List.forall_mem_singleton]
    exact ⟨covers row given key keyed, covers row given f (stored_of_written written)⟩
  · apply finds_list_slots rfl
    intro row given
    rw [List.forall_mem_singleton]
    exact covers row given key keyed

/-- A batch asks for the keys of all rows, and then for something to write of the first one. -/
theorem build_batch {selective : Bool} (found : mapping.requireKey = .ok key)
    (covers : (Command.updateMany (first :: rest) selective).Covers mapping.toSchema)
    (dialect : Dialect) :
    (Command.updateMany (first :: rest) selective).build mapping.toSchema dialect =
      if (first :: rest).any fun row => row.isNull key.name then
        .error (.missingKey mapping.entity key.name)
      else if mapping.writtenFields first selective = [] then
        .error (.nothingToWrite mapping.entity)
      else .ok ((mapping.batchUpdate key first rest selective).bound dialect) := by
  have mapped := mapping.mapping_of_mapping
  have required := mapping.require_key_values_eq key (first :: rest)
  cases null : (first :: rest).any fun row => row.isNull key.name with
  | true =>
      rw [null] at required
      apply Command.build_of_failure mapped
      rw [draft, found]
      show (Draft.after ((first :: rest).forM _) _).failure = _
      rw [required]
      rfl
  | false =>
      rw [null] at required
      rw [if_neg Bool.false_ne_true]
      split
      · rename_i nothing
        apply Command.build_of_failure mapped
        rw [draft, found]
        show (Draft.after ((first :: rest).forM _) fun _ => Draft.after
          (mapping.requireFields (mapping.updateFields first selective)) _).failure = _
        rw [required, update_fields_eq, nothing]
        rfl
      · rename_i some
        have keyed : key ∈ mapping.persisted := by
          apply mapping.keys_stored
          rw [keys_of_require_key found]
          exact List.mem_cons_self
        exact build_of_writes mapped (writes_batch found required some) (finds_batch keyed covers)

theorem build_many (found : mapping.requireKey = .ok key) (plain : mapping.plainFields ≠ [])
    (covers : (Command.updateMany (first :: rest) false).Covers mapping.toSchema)
    (dialect : Dialect) :
    (Command.updateMany (first :: rest) false).build mapping.toSchema dialect =
      if (first :: rest).any fun row => row.isNull key.name then
        .error (.missingKey mapping.entity key.name)
      else .ok ((mapping.batchUpdate key first rest false).bound dialect) := by
  rw [build_batch found covers, Schema.written_fields_of_all, if_neg plain]

theorem build_singles (found : mapping.requireKey = .ok key) (plain : mapping.plainFields ≠ [])
    (covers : (Command.updateMany rows false).Covers mapping.toSchema) (dialect : Dialect) :
    ∀ row ∈ rows, (Command.updateById row false).build mapping.toSchema dialect =
      if row.isNull key.name then .error (.missingKey mapping.entity key.name)
      else .ok ((mapping.keyUpdate key row false).bound dialect) := by
  intro row given
  have coversRow : (Command.updateById row false).Covers mapping.toSchema := by
    intro other only
    rw [List.mem_singleton.mp only]
    exact covers row given
  rw [build_by_id coversRow, keys_of_require_key found]
  dsimp only
  rw [Schema.written_fields_of_all, if_neg plain]

end Mapping

theorem Schema.plain_fields_of_exists {schema : Schema}
    (plain : ∃ f ∈ schema.persisted, f.isKey = false) : schema.plainFields ≠ [] := by
  obtain ⟨f, stored, notKey⟩ := plain
  have isPlain : f ∈ schema.plainFields := by
    rw [plainFields, List.mem_filter, notKey]
    exact ⟨stored, rfl⟩
  exact List.ne_nil_of_mem isPlain

/-- Something fails for a list exactly if it fails for an item, and then it fails as it does for
the first such item. -/
theorem error_iff_first_error {α β γ : Type} {items : List α} {bad : α → Bool} {failure : Error}
    {all : Except Error β} {each : α → Except Error γ} {made : β} {single : α → γ}
    (whole : all = if items.any bad then .error failure else .ok made)
    (singles : ∀ item ∈ items, each item = if bad item then .error failure else .ok (single item))
    (e : Error) :
    all = .error e ↔ ∃ before item after, items = before ++ item :: after ∧
      (∀ other ∈ before, ∃ outcome, each other = .ok outcome) ∧ each item = .error e := by
  constructor
  · intro failed
    cases any : items.any bad with
    | false =>
        rw [whole, any] at failed
        cases failed
    | true =>
        rw [whole, any] at failed
        cases failed
        have found : (items.find? bad).isSome = true :=
          List.find?_isSome.mpr (List.any_eq_true.mp any)
        obtain ⟨item, first⟩ := Option.isSome_iff_exists.mp found
        obtain ⟨isBad, before, after, split, good⟩ := List.find?_eq_some_iff_append.mp first
        refine ⟨before, item, after, split, ?_, ?_⟩
        · intro other earlier
          refine ⟨single other, ?_⟩
          rw [singles other (split ▸ List.mem_append_left _ earlier)]
          have notBad : bad other = false := by simpa using good other earlier
          rw [notBad]
          rfl
        · rw [singles item (List.mem_of_find?_eq_some first), isBad]
          rfl
  · rintro ⟨before, item, after, split, -, failed⟩
    have present : item ∈ items := split ▸ List.mem_append_right before List.mem_cons_self
    rw [singles item present] at failed
    cases isBad : bad item with
    | false =>
        rw [isBad] at failed
        cases failed
    | true =>
        rw [isBad, if_pos rfl] at failed
        cases failed
        have any : items.any bad = true := List.any_eq_true.mpr ⟨item, present, isBad⟩
        rw [whole, any]
        rfl

namespace Schema

variable {schema : Schema} {key : Field} {first row : Row} {rest : List Row} {dialect : Dialect}

theorem values_of_written_batch (key : Field) (first : Row) (rest : List Row) (selective : Bool)
    (dialect : Dialect) :
    ((schema.batchUpdate key first rest selective).bound dialect).values =
      ((schema.writtenFields first selective).flatMap fun f =>
        (first :: rest).flatMap fun row => [row.value key.name, row.value f.name]) ++
      (first :: rest).map fun row => row.value key.name := by
  rw [Update.bound, slots_of_batch, List.map_append, List.map_flatMap, Row.values_of_list_slots,
    List.map_eq_flatMap]
  simp only [Row.values_of_list_slots]
  rfl

theorem values_of_batch (key : Field) (first : Row) (rest : List Row) (dialect : Dialect) :
    ((schema.batchUpdate key first rest false).bound dialect).values =
      (schema.plainFields.flatMap fun f =>
        (first :: rest).flatMap fun row => [row.value key.name, row.value f.name]) ++
      (first :: rest).map fun row => row.value key.name := by
  rw [values_of_written_batch, written_fields_of_all]

theorem pairs_of_fields_update (fields : List Field) :
    (schema.fieldsUpdate key row fields).pairs =
      fields.map fun f => (f.column, row.value f.name) := by
  rw [Update.pairs, fieldsUpdate, List.filterMap_map, ← List.filterMap_eq_map]
  rfl

theorem pairs_of_key_update :
    (schema.keyUpdate key row false).pairs =
      schema.plainFields.map fun f => (f.column, row.value f.name) := by
  rw [key_update_eq, pairs_of_fields_update, written_fields_of_all]

theorem arms_of_written_batch {selective : Bool} {i : Nat}
    (present : (first :: rest)[i]? = some row) :
    (schema.batchUpdate key first rest selective).arms i =
      (schema.writtenFields first selective).map fun f =>
        (row.value key.name, f.column, row.value f.name) := by
  rw [Update.arms, batchUpdate, List.filterMap_map, ← List.filterMap_eq_map]
  apply List.filterMap_congr
  intro f _
  show ((Row.listed _ _)[i]?).map _ = _
  rw [Row.getElem_listed present]
  rfl

theorem arms_of_batch {i : Nat} (present : (first :: rest)[i]? = some row) :
    (schema.batchUpdate key first rest false).arms i =
      schema.plainFields.map fun f => (row.value key.name, f.column, row.value f.name) := by
  rw [arms_of_written_batch present, written_fields_of_all]

theorem key_pairs_of_batch :
    (schema.batchUpdate key first rest false).selection.keyPairs =
      (first :: rest).flatMap fun row => (schema.keyUpdate key row false).selection.keyPairs := by
  have keys : (Row.listed (first :: rest) fun base row => row.slot base key).map
      (fun slot => (key.column, slot.2)) =
        (first :: rest).map fun row => (key.column, row.value key.name) :=
    Row.map_listed fun _ _ => rfl
  exact keys.trans List.map_eq_flatMap

theorem length_of_batch (key : Field) (first : Row) (rest : List Row) (dialect : Dialect) :
    ((schema.batchUpdate key first rest false).bound dialect).values.length =
      2 * schema.plainFields.length * (first :: rest).length + (first :: rest).length := by
  rw [values_of_batch, List.length_append, List.length_map, List.length_flatMap]
  simp only [List.length_flatMap, List.length_cons, List.length_nil, List.map_const',
    List.sum_replicate, smul_eq_mul]
  ring

theorem key_column_not_plain (keyed : key ∈ schema.keys) (distinct : schema.columns.Nodup) :
    ∀ f ∈ schema.plainFields, (f.column == key.column) = false := by
  intro f plain
  obtain ⟨stored, notKey⟩ := List.mem_filter.mp plain
  obtain ⟨keyStored, isKey⟩ := List.mem_filter.mp keyed
  apply beq_false_of_ne
  intro same
  have equal : f = key := List.inj_on_of_nodup_map distinct stored keyStored same
  rw [equal, isKey] at notKey
  cases notKey

end Schema

namespace Store

variable {store : Store} {schema : Schema} {key : Field} {stored : StoredRow}

theorem changed_by_row (row : Row) (fields : List Field) :
    store.changed stored (schema.fieldsUpdate key row fields).changes = fun column =>
      ((fields.find? fun f => f.column == column).map fun f =>
        row.value f.name).getD (stored column) := by
  funext column
  rw [changed, Schema.fieldsUpdate, List.find?_map, Option.map_map]
  rfl

/-- The first row with the key of the stored row gives the values of a batch. -/
theorem changed_by_batch {first row : Row} {rest : List Row} {selective : Bool}
    (found : (first :: rest).find? (store.hasKey stored key) = some row) :
    store.changed stored (schema.batchUpdate key first rest selective).changes =
      store.changed stored
        (schema.fieldsUpdate key row (schema.writtenFields first selective)).changes := by
  have value (f : Field) :
      store.newValue stored (Row.changeByKey (first :: rest) key f) = row.value f.name := by
    have arm : ((Row.listed (first :: rest) fun base row =>
        (row.slot base key, row.slot base f)).find? fun arm =>
          store.equals (stored key.column) arm.1.2).map (fun arm => arm.2.2) =
        ((first :: rest).find? (store.hasKey stored key)).map fun row => row.value f.name :=
      Row.find_listed (fun _ _ => rfl) fun _ _ => rfl
    show Option.getD (Option.map _ _) _ = _
    rw [arm, found]
    rfl
  rw [changed_by_row]
  funext column
  rw [changed, Schema.batchUpdate, List.find?_map, Option.map_map]
  have values : (store.newValue stored ∘ Row.changeByKey (first :: rest) key) =
      fun f => row.value f.name := funext value
  rw [values]
  rfl

section Rows

variable {fields : List Field}

theorem run_of_other {row : Row} (other : store.hasKey stored key row = false) :
    store.run stored (schema.fieldsUpdate key row fields) = stored := by
  have missed : store.selects stored (schema.fieldsUpdate key row fields).selection = false :=
    other
  rw [run, missed]
  rfl

theorem run_of_key {row : Row} (equal : store.hasKey stored key row = true) :
    store.run stored (schema.fieldsUpdate key row fields) =
      if store.passes stored schema.liveFilter then
        store.changed stored (schema.fieldsUpdate key row fields).changes
      else stored := by
  have met : store.selects stored (schema.fieldsUpdate key row fields).selection = true := equal
  rw [run, met, Bool.true_and]
  rfl

/-- An update by key never changes the key. -/
theorem key_of_run (apart : ∀ f ∈ fields, (f.column == key.column) = false) (row : Row) :
    store.run stored (schema.fieldsUpdate key row fields) key.column = stored key.column := by
  have none : fields.find? (fun f => f.column == key.column) = none := by
    rw [List.find?_eq_none]
    intro f written
    rw [apart f written]
    exact Bool.false_ne_true
  rw [run]
  split
  · rw [changed_by_row]
    dsimp only
    rw [none]
    rfl
  · rfl

end Rows

theorem run_written_batch (first : Row) (rest : List Row) (selective : Bool) :
    store.run stored (schema.batchUpdate key first rest selective) =
      ((first :: rest).find? (store.hasKey stored key)).elim stored fun row =>
        store.run stored (schema.fieldsUpdate key row (schema.writtenFields first selective)) := by
  have selected : store.selects stored (schema.batchUpdate key first rest selective).selection =
      (first :: rest).any (store.hasKey stored key) := by
    have keys : (Row.listed (first :: rest) fun base row => row.slot base key).map
        (fun slot => store.equals (stored key.column) slot.2) =
          (first :: rest).map (store.hasKey stored key) := Row.map_listed fun _ _ => rfl
    have anyKey := congrArg (List.any · id) keys
    rw [List.any_map, List.any_map] at anyKey
    exact anyKey
  rw [run, selected]
  cases found : (first :: rest).find? (store.hasKey stored key) with
  | none =>
      have absent : (first :: rest).any (store.hasKey stored key) = false := by
        rw [List.any_eq_false]
        exact List.find?_eq_none.mp found
      rw [absent]
      rfl
  | some row =>
      have equal := List.find?_some found
      have present : (first :: rest).any (store.hasKey stored key) = true :=
        List.any_eq_true.mpr ⟨row, List.mem_of_find?_eq_some found, equal⟩
      rw [present, Bool.true_and, changed_by_batch found, Option.elim_some, run_of_key equal]
      rfl

/-- The first row with the key of a stored row is what a batch writes over it. -/
theorem run_batch (first : Row) (rest : List Row) :
    store.run stored (schema.batchUpdate key first rest false) =
      ((first :: rest).find? (store.hasKey stored key)).elim stored fun row =>
        store.run stored (schema.keyUpdate key row false) := by
  rw [run_written_batch]
  simp only [Schema.key_update_eq, schema.written_fields_alike _ first]

/-- Updates of rows with different keys, one after the other: only the row with the key of the
stored row is written over it. -/
theorem run_singles {selective : Bool}
    (apart : ∀ f ∈ schema.plainFields, (f.column == key.column) = false) {rows : List Row}
    (different : rows.Pairwise fun row other =>
      store.equals (row.value key.name) (other.value key.name) = false) :
    rows.foldl (fun stored row => store.run stored (schema.keyUpdate key row selective)) stored =
      (rows.find? (store.hasKey stored key)).elim stored fun row =>
        store.run stored (schema.keyUpdate key row selective) := by
  induction rows generalizing stored with
  | nil => rfl
  | cons row rows ih =>
      obtain ⟨fromRow, differentRest⟩ := List.pairwise_cons.mp different
      rw [List.foldl_cons, ih differentRest, List.find?_cons]
      cases equal : store.hasKey stored key row with
      | false => rw [Schema.key_update_eq, run_of_other equal]
      | true =>
          have apartWritten : ∀ f ∈ schema.writtenFields row selective,
              (f.column == key.column) = false :=
            fun f written => apart f (Schema.plain_of_written written)
          -- The key is still the same, and no later row has it.
          have others : rows.find? (store.hasKey
              (store.run stored (schema.keyUpdate key row selective)) key) = none := by
            rw [List.find?_eq_none]
            intro other member equalOther
            rw [hasKey, Schema.key_update_eq, key_of_run apartWritten] at equalOther
            have same := store.euclidean _ _ _ equal equalOther
            rw [fromRow other member] at same
            cases same
          rw [others]
          rfl

end Store

/-- One update of many rows agrees with the updates of the single rows by key, nulls included. It
fails exactly if one of them fails, and as the first of them does. Otherwise it binds, column by
column, the key and the value of every row, and then all keys. So the arms of a row are what its
own update writes, the keys are those of the single updates, and the filter is theirs. If the keys
are different and no two columns are the same, every stored row becomes what the single updates in
their order make of it. -/
theorem batch_update_agrees_with_single_updates {schema : Schema} {key : Field}
    (keyed : key ∈ schema.keys) (plain : ∃ f ∈ schema.persisted, f.isKey = false) {first : Row}
    {rest : List Row} (covers : (Command.updateMany (first :: rest) false).Covers schema)
    (dialect : Dialect) :
    (∀ e, (Command.updateMany (first :: rest) false).build schema dialect = .error e ↔
      ∃ before row after, first :: rest = before ++ row :: after ∧
        (∀ other ∈ before, ∃ bound,
          (Command.updateById other false).build schema dialect = .ok bound) ∧
        (Command.updateById row false).build schema dialect = .error e) ∧
    ∀ bound, (Command.updateMany (first :: rest) false).build schema dialect = .ok bound →
      bound = (schema.batchUpdate key first rest false).bound dialect ∧
      bound.values =
        (schema.plainFields.flatMap fun f =>
          (first :: rest).flatMap fun row => [row.value key.name, row.value f.name]) ++
        ((first :: rest).map fun row => row.value key.name) ∧
      bound.values.length =
        2 * schema.plainFields.length * (first :: rest).length + (first :: rest).length ∧
      (∀ row ∈ first :: rest, (Command.updateById row false).build schema dialect =
        .ok ((schema.keyUpdate key row false).bound dialect)) ∧
      (∀ i row, (first :: rest)[i]? = some row →
        (schema.batchUpdate key first rest false).arms i =
          (schema.keyUpdate key row false).pairs.map fun pair => (row.value key.name, pair)) ∧
      (schema.batchUpdate key first rest false).selection.keyPairs =
        ((first :: rest).flatMap fun row =>
          (schema.keyUpdate key row false).selection.keyPairs) ∧
      (∀ row, (schema.keyUpdate key row false).filter =
        (schema.batchUpdate key first rest false).filter) ∧
      ∀ store : Store, schema.columns.Nodup →
        (first :: rest).Pairwise (fun row other =>
          store.equals (row.value key.name) (other.value key.name) = false) →
        ∀ stored, store.run stored (schema.batchUpdate key first rest false) =
          (first :: rest).foldl
            (fun stored row => store.run stored (schema.keyUpdate key row false)) stored := by
  cases mapped : schema.mapping with
  | error failure =>
      have refused := Command.build_of_unmapped mapped
      have whole : (Command.updateMany (first :: rest) false).build schema dialect =
          if (first :: rest).any fun _ => true then .error failure else .ok default :=
        refused _ dialect
      have singles : ∀ row ∈ first :: rest, (Command.updateById row false).build schema dialect =
          if true then .error failure else .ok default := fun _ _ => refused _ dialect
      refine ⟨error_iff_first_error whole singles, ?_⟩
      intro bound built
      rw [refused] at built
      cases built
  | ok mapping =>
      have found := require_key_of_mem mapped keyed
      obtain rfl := Schema.to_schema_of_mapping mapped
      have some := Schema.plain_fields_of_exists plain
      have whole := Mapping.build_many found some covers dialect
      have singles := Mapping.build_singles found some covers dialect
      refine ⟨error_iff_first_error whole singles, ?_⟩
      intro bound built
      cases null : (first :: rest).any fun row => row.isNull key.name with
      | true =>
          rw [whole, null] at built
          cases built
      | false =>
          rw [whole, null] at built
          cases built
          refine ⟨rfl, Schema.values_of_batch key first rest dialect,
            Schema.length_of_batch key first rest dialect, ?_, ?_, Schema.key_pairs_of_batch,
            fun _ => rfl, ?_⟩
          · intro row given
            rw [singles row given, if_neg (List.any_eq_false.mp null row given)]
          · intro i row present
            rw [Schema.arms_of_batch present, Schema.pairs_of_key_update, List.map_map]
            rfl
          · intro store distinct different stored
            rw [Store.run_batch]
            exact (Store.run_singles (Schema.key_column_not_plain keyed distinct) different).symm

/-- A store in which equal values are the same, and null equals nothing. It knows the filter of
accounts, and no criteria but empty ones. -/
def plainStore : Store where
  equals stored value := stored == value && !stored.isNull
  euclidean stored a b first second := by
    rw [Bool.and_eq_true, beq_iff_eq] at first second
    rw [← first.1, ← second.1, beq_self_eq_true, first.2]
    rfl
  satisfies _ criteria := criteria.conditions.isEmpty
  passes stored filter := filter == " AND is_closed = 0" && stored "is_closed" == .int 0

def annsAccount : Row := [("id", .bigInt 1), ("owner", .text "Ann"), ("closed", .int 0)]

def closedAccount : Row := [("closed", .int 1), ("owner", .null), ("id", .bigInt 2)]

def keylessAccount : Row := [("id", .null), ("owner", .text "Cy"), ("closed", .int 0)]

def zoesAccount : StoredRow := fun column =>
  if column = "id" then .bigInt 1 else if column = "is_closed" then .int 0 else .text "Zoe"

theorem two_accounts_in_one_update :
    accountKey ∈ accounts.keys ∧ (∃ f ∈ accounts.persisted, f.isKey = false) ∧
      (Command.updateMany [annsAccount, closedAccount] false).Covers accounts ∧
      (Command.updateMany [annsAccount, closedAccount] false).build accounts .sqlite =
        .ok ⟨"UPDATE account SET " ++
          "owner_name = CASE id WHEN ?1 THEN ?2 WHEN ?3 THEN ?4 ELSE owner_name END, " ++
          "is_closed = CASE id WHEN ?5 THEN ?6 WHEN ?7 THEN ?8 ELSE is_closed END " ++
          "WHERE id IN (?9, ?10) AND is_closed = 0",
          [.bigInt 1, .text "Ann", .bigInt 2, .null, .bigInt 1, .int 0, .bigInt 2, .int 1,
            .bigInt 1, .bigInt 2]⟩ ∧
      ([annsAccount, closedAccount].foldl
        (fun stored row => plainStore.run stored (accounts.keyUpdate accountKey row false))
        zoesAccount) "owner_name" = .text "Ann" ∧
      (Command.updateMany [annsAccount, keylessAccount, closedAccount] false).build accounts
        .sqlite = .error (.missingKey "Account" "id") := by
  have keyed : accountKey ∈ accounts.keys := by decide
  have plain : ∃ f ∈ accounts.persisted, f.isKey = false := by decide
  have covers : (Command.updateMany [annsAccount, closedAccount] false).Covers accounts := by
    unfold Command.Covers
    decide
  have coversAll :
      (Command.updateMany [annsAccount, keylessAccount, closedAccount] false).Covers accounts := by
    unfold Command.Covers
    decide
  obtain ⟨-, ofBatch⟩ := batch_update_agrees_with_single_updates keyed plain covers .sqlite
  obtain ⟨failing, -⟩ := batch_update_agrees_with_single_updates keyed plain coversAll .sqlite
  have built : (Command.updateMany [annsAccount, closedAccount] false).build accounts .sqlite =
      .ok ⟨_, _⟩ := rfl
  obtain ⟨-, -, -, -, -, -, -, inStore⟩ := ofBatch _ built
  have different : [annsAccount, closedAccount].Pairwise (fun row other =>
      plainStore.equals (row.value accountKey.name) (other.value accountKey.name) = false) := by
    decide
  have same := inStore plainStore (by decide) different zoesAccount
  refine ⟨keyed, plain, covers, by decide +kernel, ?_, ?_⟩
  · rw [← same]
    decide +kernel
  · rw [failing]
    refine ⟨[annsAccount], keylessAccount, [closedAccount], rfl, ?_, rfl⟩
    rw [List.forall_mem_singleton]
    exact ⟨_, rfl⟩

end BoundSql
