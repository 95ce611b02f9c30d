import Mathlib
import BoundSql.Command.Sql
import BoundSql.Proofs.Condition.Tree

/-!
Values and SQL. Two commands are alike if they differ in nothing but values, and every value of
the one is null where that of the other is, as far as it makes a difference. What is written for
alike commands is the same, and so is the failure if writing fails: no text that a value holds
can reach the statement.
-/

namespace BoundSql

theorem Draft.after_congr {α : Type} {check : Except Error α} {first second : α → Draft}
    (same : ∀ a, check = .ok a → first a = second a) :
    Draft.after check first = Draft.after check second := by
  cases check with
  | error e => rfl
  | ok a => exact same a rfl

/-- The same tree, apart from the values: nulls are compared with at the same places, and the
lists are of the same lengths. -/
inductive Condition.Alike : Condition → Condition → Prop where
  | compare (op : Comparison) (column : String) {value other : Value}
      (null : value.isNull = other.isNull) :
      Alike (.compare op column value) (.compare op column other)
  | nullTest (column : String) (isNull : Bool) :
      Alike (.nullTest column isNull) (.nullTest column isNull)
  | member (column : String) (negated : Bool) {values others : List Value}
      (length : values.length = others.length) :
      Alike (.member column values negated) (.member column others negated)
  | group (logic : Logic) {children others : List Condition}
      (alike : List.Forall₂ Alike children others) :
      Alike (.group logic children) (.group logic others)

namespace Condition

theorem draft_compare_congr (base : Path) (op : Comparison) (column : String)
    {value other : Value} (null : value.isNull = other.isNull) :
    draft base (.compare op column value) = draft base (.compare op column other) := by
  cases first : value.isNull with
  | false =>
      have second := null.symm.trans first
      rw [draft_compare_of_value base op column first,
        draft_compare_of_value base op column second]
  | true =>
      have second := null.symm.trans first
      rw [Value.eq_null_of_is_null first, Value.eq_null_of_is_null second]

theorem draft_member_congr (base : Path) (column : String) (negated : Bool)
    {values others : List Value} (length : values.length = others.length) :
    draft base (.member column values negated) = draft base (.member column others negated) := by
  cases values with
  | nil =>
      have empty : others = [] := List.length_eq_zero_iff.mp length.symm
      rw [empty]
  | cons value values =>
      cases others with
      | nil => cases length
      | cons other others =>
          have rest : values.length = others.length := Nat.succ.inj length
          rw [draft_member_cons, draft_member_cons, rest]

theorem drafts_congr (base : Path) (i : Nat) {cs others : List Condition}
    (alike : List.Forall₂ Alike cs others)
    (same : ∀ c ∈ cs, ∀ other base, Alike c other → c.draft base = other.draft base) :
    drafts base i cs = drafts base i others := by
  induction alike generalizing i with
  | nil => rfl
  | cons head tail ih =>
      have first := same _ List.mem_cons_self _ (base ++ [.index i]) head
      have rest := ih (i + 1) fun c member => same c (List.mem_cons_of_mem _ member)
      rw [drafts, drafts, first, rest]

theorem draft_congr (base : Path) {c other : Condition} (alike : c.Alike other) :
    c.draft base = other.draft base := by
  induction c using tree_induction generalizing base other with
  | compare op column value =>
      cases alike with
      | compare _ _ null => exact draft_compare_congr base op column null
  | nullTest column isNull =>
      cases alike with
      | nullTest => rfl
  | member column values negated =>
      cases alike with
      | member _ _ length => exact draft_member_congr base column negated length
  | group logic children ih =>
      cases alike with
      | group _ childrenAlike =>
          have same := drafts_congr (base ++ [.key "children"]) 0 childrenAlike
            fun c member other base alike => ih c member base alike
          cases childrenAlike with
          | nil => rfl
          | cons head tail => rw [draft_group_cons, draft_group_cons, same]

theorem clause_congr (base : Path) {cs others : List Condition}
    (alike : List.Forall₂ Alike cs others) : clause base cs = clause base others := by
  have same := drafts_congr (base ++ [.key "conditions"]) 0 alike
    fun c _ other base alike => draft_congr base alike
  cases alike with
  | nil => rfl
  | cons head tail => rw [clause_cons, clause_cons, same]

end Condition

namespace ChangeSet

def EntryAlike (entry other : String × Value) : Prop :=
  entry.1 = other.1 ∧ entry.2.isNull = other.2.isNull

def Alike (changes other : ChangeSet) : Prop :=
  List.Forall₂ EntryAlike changes.entries other.entries

theorem assignment_congr (base : Path) {entry other : String × Value}
    (alike : EntryAlike entry other) : assignment base entry = assignment base other := by
  rw [assignment, assignment, alike.1, alike.2]

theorem assignments_congr (base : Path) {entries others : List (String × Value)}
    (alike : List.Forall₂ EntryAlike entries others) :
    entries.map (assignment base) = others.map (assignment base) := by
  induction alike with
  | nil => rfl
  | cons head tail ih => rw [List.map_cons, List.map_cons, assignment_congr base head, ih]

theorem draft_congr (base : Path) {changes other : ChangeSet} (alike : changes.Alike other) :
    changes.draft base = other.draft base := by
  obtain ⟨entries⟩ := changes
  obtain ⟨others⟩ := other
  have same := assignments_congr base alike
  cases alike with
  | nil => rfl
  | cons head tail => exact congrArg (Draft.joined ", ") same

end ChangeSet

/-- Every stored field is null in both rows or in neither. -/
def Row.Alike (schema : Schema) (row other : Row) : Prop :=
  ∀ f ∈ schema.persisted, row.isNull f.name = other.isNull f.name

namespace Mapping

theorem mem_persisted_of_require_key {mapping : Mapping} {key : Field}
    (found : mapping.requireKey = .ok key) : key ∈ mapping.persisted := by
  unfold requireKey at found
  split at found
  · rename_i first isKey
    cases found
    have member : key ∈ mapping.keys := List.mem_of_mem_head? isKey
    exact List.mem_of_mem_filter member
  · cases found

variable (mapping : Mapping) {row other : Row}

theorem insert_fields_congr (alike : Row.Alike mapping.toSchema row other) (selective : Bool) :
    mapping.insertFields row selective = mapping.insertFields other selective := by
  refine List.filter_congr ?_
  intro f member
  rw [alike f member]

theorem update_fields_congr (alike : Row.Alike mapping.toSchema row other) (selective : Bool) :
    mapping.updateFields row selective = mapping.updateFields other selective := by
  refine List.filter_congr ?_
  intro f member
  rw [alike f member]

theorem require_key_value_congr (alike : Row.Alike mapping.toSchema row other) {key : Field}
    (stored : key ∈ mapping.persisted) :
    mapping.requireKeyValue key row = mapping.requireKeyValue key other := by
  rw [requireKeyValue, requireKeyValue, alike key stored]

theorem require_key_values_congr {rows others : List Row}
    (alike : List.Forall₂ (Row.Alike mapping.toSchema) rows others) {key : Field}
    (stored : key ∈ mapping.persisted) :
    rows.forM (mapping.requireKeyValue key) = others.forM (mapping.requireKeyValue key) := by
  induction alike with
  | nil => rfl
  | cons head tail ih =>
      rw [List.forM, List.forM, mapping.require_key_value_congr head stored, ih]

end Mapping

namespace Target

/-- The same kind of target for values of the same kind: a key is null in both or in neither,
and there are as many keys. -/
inductive Alike : Target → Target → Prop where
  | id {value other : Value} (null : value.isNull = other.isNull) :
      Alike (.id value) (.id other)
  | ids {values others : List Value} (length : values.length = others.length) :
      Alike (.ids values) (.ids others)
  | criteria {sought other : Criteria}
      (conditions : List.Forall₂ Condition.Alike sought.conditions other.conditions) :
      Alike (.criteria sought) (.criteria other)

def groups : Target → List String
  | .criteria sought => sought.groups
  | _ => []

def orders : Target → List OrderItem
  | .criteria sought => sought.orders
  | _ => []

end Target

namespace Mapping

theorem target_draft_congr (mapping : Mapping) {target other : Target}
    (alike : target.Alike other) : mapping.targetDraft target = mapping.targetDraft other := by
  cases alike with
  | id null => simp only [targetDraft, null]
  | @ids values others length =>
      have empty : values.isEmpty = others.isEmpty := by
        rw [Bool.eq_iff_iff, List.isEmpty_iff_length_eq_zero, List.isEmpty_iff_length_eq_zero,
          length]
      simp only [targetDraft, length, empty]
  | criteria conditions => exact Condition.clause_congr _ conditions

theorem select_tail_congr (options : SelectOptions) {target other : Target}
    (alike : target.Alike other) (groups : target.groups = other.groups)
    (orders : options.count = true ∨ target.orders = other.orders) :
    selectTail options target = selectTail options other := by
  cases alike with
  | id null => rfl
  | ids length => rfl
  | criteria conditions =>
      simp only [Target.groups, Target.orders] at groups orders
      rcases orders with count | orders
      · simp only [selectTail, groups, count, if_true]
      · simp only [selectTail, groups, orders]

end Mapping

/-- The same command of the same options for alike objects. What a SELECT arranges is no value;
it has to be the same as far as the SELECT asks for it. -/
inductive Command.Alike (schema : Schema) : Command → Command → Prop where
  | insert (selective : Bool) {row other : Row} (rowAlike : row.Alike schema other) :
      Alike schema (.insert row selective) (.insert other selective)
  | insertMany (selective : Bool) {rows others : List Row}
      (rowsAlike : List.Forall₂ (Row.Alike schema) rows others) :
      Alike schema (.insertMany rows selective) (.insertMany others selective)
  | updateById (selective : Bool) {row other : Row} (rowAlike : row.Alike schema other) :
      Alike schema (.updateById row selective) (.updateById other selective)
  | updateWhere (selective : Bool) {row otherRow : Row} {criteria other : Criteria}
      (rowAlike : row.Alike schema otherRow)
      (conditions : List.Forall₂ Condition.Alike criteria.conditions other.conditions) :
      Alike schema (.updateWhere row criteria selective) (.updateWhere otherRow other selective)
  | updateWith {changes otherChanges : ChangeSet} {criteria other : Criteria}
      (changesAlike : changes.Alike otherChanges)
      (conditions : List.Forall₂ Condition.Alike criteria.conditions other.conditions) :
      Alike schema (.updateWith changes criteria) (.updateWith otherChanges other)
  | updateMany (selective : Bool) {rows others : List Row}
      (rowsAlike : List.Forall₂ (Row.Alike schema) rows others) :
      Alike schema (.updateMany rows selective) (.updateMany others selective)
  | delete (logical : Bool) {target other : Target} (targetAlike : target.Alike other) :
      Alike schema (.delete target logical) (.delete other logical)
  | select (options : SelectOptions) {target other : Target} (targetAlike : target.Alike other)
      (groups : target.groups = other.groups)
      (orders : options.count = true ∨ target.orders = other.orders) :
      Alike schema (.select target options) (.select other options)

theorem Mapping.draft_congr (mapping : Mapping) {command other : Command}
    (alike : command.Alike mapping.toSchema other) :
    mapping.draft command = mapping.draft other := by
  cases alike with
  | insert selective rowAlike =>
      rw [draft, draft, mapping.insert_fields_congr rowAlike]
  | insertMany selective rowsAlike =>
      cases rowsAlike with
      | nil => rfl
      | cons head tail =>
          rw [draft, draft, mapping.insert_fields_congr head, tail.length_eq]
  | updateById selective rowAlike =>
      rw [draft, draft, mapping.update_fields_congr rowAlike]
      refine Draft.after_congr fun key found => ?_
      have stored := mem_persisted_of_require_key found
      rw [mapping.require_key_value_congr rowAlike stored]
  | @updateWhere selective row otherRow criteria otherCriteria rowAlike conditions =>
      have condition : criteria.draft [.key "condition"] = otherCriteria.draft [.key "condition"] :=
        Condition.clause_congr _ conditions
      rw [draft, draft, mapping.update_fields_congr rowAlike, condition]
  | @updateWith changes otherChanges criteria otherCriteria changesAlike conditions =>
      have condition : criteria.draft [.key "condition"] = otherCriteria.draft [.key "condition"] :=
        Condition.clause_congr _ conditions
      rw [draft, draft, ChangeSet.draft_congr _ changesAlike, condition]
  | updateMany selective rowsAlike =>
      rw [draft, draft]
      refine Draft.after_congr fun key found => ?_
      have stored := mem_persisted_of_require_key found
      have keyValues := mapping.require_key_values_congr rowsAlike stored
      have length := rowsAlike.length_eq
      cases rowsAlike with
      | nil => rfl
      | cons head tail =>
          have fields := mapping.update_fields_congr head selective
          simp only [keyValues, length, fields]
  | delete logical targetAlike =>
      have condition := mapping.target_draft_congr targetAlike
      cases logical with
      | false => rw [draft, draft, condition]
      | true => simp only [draft, condition]
  | select options targetAlike groups orders =>
      rw [draft, draft, mapping.target_draft_congr targetAlike,
        select_tail_congr options targetAlike groups orders]

theorem Schema.to_schema_of_mapping {schema : Schema} {mapping : Mapping}
    (found : schema.mapping = .ok mapping) : mapping.toSchema = schema := by
  unfold Schema.mapping at found
  split at found
  · cases found
    rfl
  · cases found

/-- Alike commands make the same statement or fail alike. -/
theorem Command.statement_eq_of_alike {schema : Schema} {command other : Command}
    (alike : command.Alike schema other) (dialect : Dialect) :
    command.statement schema dialect = other.statement schema dialect := by
  unfold Command.statement
  cases found : schema.mapping with
  | error e => rfl
  | ok mapping =>
      rw [← Schema.to_schema_of_mapping found] at alike
      have same := mapping.draft_congr alike
      show (mapping.draft command).statement dialect = (mapping.draft other).statement dialect
      rw [same]

def accounts : Schema where
  entity := "Account"
  table := "account"
  fields :=
    [⟨"id", "id", .bigInt, some .assign, false, none, .never⟩,
      ⟨"owner", "owner_name", .text, none, false, none, .never⟩,
      ⟨"closed", "is_closed", .integer, none, false, some ⟨"1", "0"⟩, .never⟩]

def handover (owner former : String) (ids : List Value) : Command :=
  .updateWhere [("owner", .text owner), ("closed", .null)]
    (.ofConditions
      [.group .or [.compare .eq "owner_name" (.text former), .member "id" ids false],
        .compare .ne "owner_name" .null])
    true

def plainHandover : Command := handover "Ada" "Bob" [.int 1, .null]

def hostileHandover : Command :=
  handover "x', is_closed = '0" "' OR '1' = '1" [.null, .text "2) OR (1=1"]

theorem hostile_handover_statement :
    plainHandover.Alike accounts hostileHandover ∧
      hostileHandover.statement accounts .postgres =
        .ok ⟨"UPDATE account SET owner_name = $1 WHERE (owner_name = $2 OR id IN ($3, $4))" ++
            " AND owner_name IS NOT NULL AND is_closed = 0",
          [[.key "entity", .key "owner"],
            [.key "condition", .key "conditions", .index 0, .key "children", .index 0,
              .key "value"],
            [.key "condition", .key "conditions", .index 0, .key "children", .index 1,
              .key "values", .index 0],
            [.key "condition", .key "conditions", .index 0, .key "children", .index 1,
              .key "values", .index 1]]⟩ := by
  have rowAlike : Row.Alike accounts [("owner", .text "Ada"), ("closed", .null)]
      [("owner", .text "x', is_closed = '0"), ("closed", .null)] := by
    unfold Row.Alike
    decide
  have alike : plainHandover.Alike accounts hostileHandover := by
    refine .updateWhere true rowAlike (.cons ?_ (.cons ?_ .nil))
    · exact .group .or (.cons (.compare .eq _ rfl) (.cons (.member _ false rfl) .nil))
    · exact .compare .ne _ rfl
  refine ⟨alike, ?_⟩
  rw [← Command.statement_eq_of_alike alike .postgres]
  decide +kernel

end BoundSql
