import Mathlib
import BoundSql.Command.Sql
import BoundSql.Proofs.Command.Noninterference
import BoundSql.Proofs.Condition.Addressing

/-!
Binding the placeholders of a command. Every form of a command names its values in a way of its
own, and `bindings` lists for each of them which placeholder stands for what: a field of one of
the rows that were given, a column of a change set, or a value of the target. The statement has
these placeholders in this order, and the command finds at each of them what it stands for. So a
statement that was built can be bound, unless a row lacks a field; then binding fails at the
first placeholder whose field is missing.
-/

namespace BoundSql

/-- What a placeholder stands for: the first value of a name in a row, or a value that the
command was given. -/
inductive Source where
  | field (row : Row) (name : String)
  | given (value : Value)
deriving Repr, Inhabited

def Source.value? : Source → Option Value
  | .field row name => row.value? name
  | .given value => some value

def Row.bindings (base : Path) (row : Row) (fields : List Field) : List (Path × Source) :=
  fields.map fun f => (base ++ [.key f.name], .field row f.name)

def Row.listBindings (rows : List Row) (fields : List Field) : List (Path × Source) :=
  rows.zipIdx.flatMap fun item => bindings [.key "list", .index item.2] item.1 fields

def Criteria.sources (base : Path) (criteria : Criteria) : List (Path × Source) :=
  criteria.bindings.map fun binding => (base ++ binding.1, .given binding.2)

def ChangeSet.bindings (base : Path) (changes : ChangeSet) : List (Path × Source) :=
  (changes.entries.filter fun entry => !entry.2.isNull).map fun entry =>
    (base ++ [.key "updates", .key entry.1], .field changes.entries entry.1)

def Target.bindings : Target → List (Path × Source)
  | .id value => [([.key "id"], .given value)]
  | .ids values => values.zipIdx.map fun item => ([.key "ids", .index item.2], .given item.1)
  | .criteria sought => sought.sources [.key "condition"]

def Command.rows : Command → List Row
  | .insert row _ => [row]
  | .insertMany rows _ => rows
  | .updateById row _ => [row]
  | .updateWhere row _ _ => [row]
  | .updateWith _ _ => []
  | .updateMany rows _ => rows
  | .delete _ _ => []
  | .select _ _ => []

/-- The placeholders of a command in the order of its text, with what they stand for. The columns
of a list of rows are those of its first row, and the key of a row stands where it is compared
with. -/
def Mapping.bindings (mapping : Mapping) : Command → List (Path × Source)
  | .insert row selective => row.bindings [] (mapping.insertFields row selective)
  | .insertMany [] _ => []
  | .insertMany (row :: rows) selective =>
      Row.listBindings (row :: rows) (mapping.insertFields row selective)
  | .updateById row selective =>
      row.bindings [] (mapping.updateFields row selective) ++ row.bindings [] mapping.keys
  | .updateWhere row criteria selective =>
      row.bindings [.key "entity"] (mapping.updateFields row selective) ++
        criteria.sources [.key "condition"]
  | .updateWith changes criteria =>
      changes.bindings [.key "spec"] ++ criteria.sources [.key "condition"]
  | .updateMany [] _ => []
  | .updateMany (row :: rows) selective =>
      ((mapping.updateFields row selective).flatMap fun f =>
        Row.listBindings (row :: rows) (mapping.keys ++ [f])) ++
        Row.listBindings (row :: rows) mapping.keys
  | .delete target _ => target.bindings
  | .select target _ => target.bindings

/-- The outcome of binding a command. Either every placeholder has the value of its source, or
there is a first one that stands for a stored field which its row does not have. -/
inductive Mapping.Bound (mapping : Mapping) (command : Command) :
    Except Error (List Value) → Prop where
  | complete {values : List Value}
      (all : (mapping.bindings command).map (·.2.value?) = values.map some) :
      Bound mapping command (.ok values)
  | missing {before after : List (Path × Source)} {path : Path} {row : Row} {f : Field}
      (split : mapping.bindings command = before ++ (path, .field row f.name) :: after)
      (earlier : ∀ binding ∈ before, binding.2.value? ≠ none)
      (given : row ∈ command.rows) (stored : f ∈ mapping.persisted)
      (absent : row.value? f.name = none) :
      Bound mapping command (.error (.unresolved path.text))

namespace Draft

/-- The parameters of the draft, if it is complete. -/
def HasParams (draft : Draft) (paths : List Path) : Prop :=
  draft.failure = none → paramPaths draft.pieces = paths

theorem has_params_text (s : String) : (text s).HasParams [] := fun _ => rfl

theorem has_params_param (path : Path) : (param path).HasParams [path] := fun _ => rfl

theorem has_params_fail (e : Error) (paths : List Path) : (fail e).HasParams paths := nofun

theorem HasParams.append {first second : Draft} {paths others : List Path}
    (before : first.HasParams paths) (after : second.HasParams others) :
    (first ++ second).HasParams (paths ++ others) := by
  intro complete
  obtain ⟨firstComplete, secondComplete⟩ := (complete_append_iff ..).mp complete
  rw [pieces_append firstComplete, param_paths_append, before firstComplete, after secondComplete]

theorem HasParams.after_text {draft : Draft} {paths : List Path} (s : String)
    (params : draft.HasParams paths) : (text s ++ draft).HasParams paths :=
  (has_params_text s).append params

theorem HasParams.before_text {draft : Draft} {paths : List Path}
    (params : draft.HasParams paths) (s : String) : (draft ++ text s).HasParams paths := by
  have whole := params.append (has_params_text s)
  rwa [List.append_nil] at whole

theorem has_params_joined {α : Type} (separator : String) (items : List α) {draft : α → Draft}
    {paths : α → List Path} (each : ∀ item ∈ items, (draft item).HasParams (paths item)) :
    (joined separator (items.map draft)).HasParams (items.flatMap paths) := by
  intro complete
  have allComplete := (complete_joined_iff ..).mp complete
  rw [param_paths_joined separator _ allComplete, List.flatMap_map]
  apply List.flatMap_congr
  intro item member
  exact each item member (allComplete _ (List.mem_map_of_mem member))

theorem has_params_each {α : Type} (separator : String) (items : List α) {draft : α → Draft}
    {path : α → Path} (each : ∀ item ∈ items, (draft item).HasParams [path item]) :
    (joined separator (items.map draft)).HasParams (items.map path) := by
  have joined := has_params_joined separator items each
  rwa [← List.map_eq_flatMap] at joined

structure Fixed (draft : Draft) : Prop where
  complete : draft.failure = none
  params : paramPaths draft.pieces = []

theorem fixed_text (s : String) : (text s).Fixed := ⟨rfl, rfl⟩

theorem Fixed.append {first second : Draft} (before : first.Fixed) (after : second.Fixed) :
    (first ++ second).Fixed where
  complete := (complete_append_iff ..).mpr ⟨before.complete, after.complete⟩
  params := by
    rw [pieces_append before.complete, param_paths_append, before.params, after.params]
    rfl

theorem has_params_after {α : Type} {check : Except Error α} {draft : α → Draft}
    {paths : List Path} (each : ∀ a, check = .ok a → (draft a).HasParams paths) :
    (after check draft).HasParams paths := by
  cases check with
  | error e => exact has_params_fail e paths
  | ok a => exact each a rfl

end Draft

theorem Criteria.has_params_draft (base : Path) (criteria : Criteria) :
    (criteria.draft base).HasParams ((criteria.sources base).map Prod.fst) := by
  intro complete
  rw [criteria.params_draft base (clean_of_complete complete), sources, List.map_map]
  rfl

theorem ChangeSet.has_params_assignment (base : Path) (entry : String × Value) :
    (assignment base entry).HasParams
      (if entry.2.isNull then [] else [base ++ [.key "updates", .key entry.1]]) := by
  unfold assignment
  split
  · exact Draft.has_params_text _
  · exact (Draft.has_params_param _).after_text _

theorem ChangeSet.has_params_draft (base : Path) (changes : ChangeSet) :
    (changes.draft base).HasParams ((changes.bindings base).map Prod.fst) := by
  obtain ⟨entries⟩ := changes
  cases entries with
  | nil => exact Draft.has_params_fail _ _
  | cons entry entries =>
      have all := Draft.has_params_joined ", " (entry :: entries)
        fun item _ => has_params_assignment base item
      have paths : ((entry :: entries).flatMap fun item : String × Value =>
          if item.2.isNull then ([] : List Path)
          else [base ++ [.key "updates", .key item.1]]) =
            (bindings base ⟨entry :: entries⟩).map Prod.fst := by
        rw [bindings, List.map_map]
        induction entry :: entries with
        | nil => rfl
        | cons item items ih =>
            rw [List.flatMap_cons, ih]
            cases null : item.2.isNull <;> simp [null]
      rwa [paths] at all

namespace Mapping

theorem keys_of_require_key {mapping : Mapping} {key : Field}
    (found : mapping.requireKey = .ok key) : mapping.keys = [key] := by
  have short := mapping.keys_length
  unfold requireKey key? at found
  cases keys : mapping.keys with
  | nil =>
      rw [keys] at found
      cases found
  | cons first rest =>
      rw [keys] at found short
      cases found
      cases rest with
      | nil => rfl
      | cons second rest => simp at short

theorem has_params_assignments (base : Path) (row : Row) (fields : List Field) :
    (fieldAssignments base fields).HasParams ((row.bindings base fields).map Prod.fst) := by
  rw [Row.bindings, List.map_map]
  exact Draft.has_params_each ", " fields fun f _ => (Draft.has_params_param _).after_text _

theorem paths_list_bindings (rows : List Row) (fields : List Field) :
    (Row.listBindings rows fields).map Prod.fst =
      (listPaths rows.length).flatMap fun base => fields.map fun f => base ++ [.key f.name] := by
  rw [listPaths, List.range_eq_range', ← List.zipIdx_map_snd, List.map_map, List.flatMap_map,
    Row.listBindings, List.map_flatMap]
  simp only [Row.bindings, List.map_map]
  rfl

theorem has_params_tuple (base : Path) (fields : List Field) :
    (tuple base fields).HasParams (fields.map fun f => base ++ [.key f.name]) := by
  have each := Draft.has_params_each ", " fields
    fun f _ => Draft.has_params_param (base ++ [.key f.name])
  exact (each.before_text ")").after_text "("

theorem has_params_insert (mapping : Mapping) (fields : List Field) (rows : List Path) :
    (mapping.insertDraft fields rows).HasParams
      (rows.flatMap fun base => fields.map fun f => base ++ [.key f.name]) := by
  have each := Draft.has_params_joined ", " rows fun base _ => has_params_tuple base fields
  exact each.after_text _

theorem has_params_case (key f : Field) (rows : List Path) :
    (caseAssignment key rows f).HasParams
      (rows.flatMap fun base => [base ++ [.key key.name], base ++ [.key f.name]]) := by
  have arm : ∀ base ∈ rows, (Draft.text " WHEN " ++ (.param (base ++ [.key key.name]) ++
      (.text " THEN " ++ .param (base ++ [.key f.name])))).HasParams
        [base ++ [.key key.name], base ++ [.key f.name]] := by
    intro base _
    have written := (Draft.has_params_param (base ++ [.key f.name])).after_text " THEN "
    exact ((Draft.has_params_param (base ++ [.key key.name])).append written).after_text " WHEN "
  exact ((Draft.has_params_joined "" rows arm).before_text _).after_text _

theorem has_params_key_among (key : Field) (rows : List Path) :
    (keyAmong key rows).HasParams (rows.flatMap fun base => [base ++ [.key key.name]]) := by
  have each := Draft.has_params_joined ", " rows
    fun base _ => Draft.has_params_param (base ++ [.key key.name])
  exact (each.before_text ")").after_text _

theorem has_params_update (mapping : Mapping) {assignments condition : Draft}
    {paths others : List Path} (set : assignments.HasParams paths)
    (among : condition.HasParams others) :
    (mapping.updateDraft assignments condition).HasParams (paths ++ others) :=
  (set.append ((among.before_text _).after_text _)).after_text _

theorem has_params_positions (base : Path) (length : Nat) :
    (Draft.positions base length).HasParams (Draft.positionPaths base length) :=
  fun _ => param_paths_positions base length

theorem has_params_target (mapping : Mapping) (target : Target) :
    (mapping.targetDraft target).HasParams (target.bindings.map Prod.fst) := by
  cases target with
  | id value =>
      apply Draft.has_params_after
      intro key _
      split
      · exact Draft.has_params_fail _ _
      · exact (Draft.has_params_param _).after_text _
  | ids values =>
      apply Draft.has_params_after
      intro key _
      cases values with
      | nil => exact Draft.has_params_text _
      | cons value values =>
          have paths : (Target.bindings (.ids (value :: values))).map Prod.fst =
              Draft.positionPaths [.key "ids"] (values.length + 1) := by
            rw [Target.bindings, Draft.positionPaths, List.map_map, ← List.length_cons (a := value),
              List.range_eq_range', ← List.zipIdx_map_snd, List.map_map]
            rfl
          rw [paths]
          exact ((has_params_positions _ _).before_text ")").after_text _
  | criteria sought => exact sought.has_params_draft _

theorem fixed_select_tail (options : SelectOptions) (target : Target) :
    (selectTail options target).Fixed := by
  have group : ∀ groups, (Criteria.groupClause groups).Fixed := by
    intro groups
    cases groups <;> exact ⟨rfl, rfl⟩
  have order : ∀ orders, (Criteria.orderClause orders).Fixed := by
    intro orders
    cases orders <;> exact ⟨rfl, rfl⟩
  cases target with
  | id value => exact ⟨rfl, rfl⟩
  | ids values => exact ⟨rfl, rfl⟩
  | criteria sought =>
      refine ((group sought.groups).append ?_).append (Draft.fixed_text _)
      cases options.count with
      | true => exact ⟨rfl, rfl⟩
      | false => exact order sought.orders

theorem of_require_fields {mapping : Mapping} {fields found : List Field}
    (required : mapping.requireFields fields = .ok found) : found = fields ∧ fields ≠ [] := by
  unfold requireFields at required
  cases fields with
  | nil => cases required
  | cons f fields =>
      cases required
      exact ⟨rfl, List.cons_ne_nil f fields⟩

/-- A command writes the placeholders that it is said to write. -/
theorem has_params_draft (mapping : Mapping) (command : Command) :
    (mapping.draft command).HasParams ((mapping.bindings command).map Prod.fst) := by
  cases command with
  | insert row selective =>
      apply Draft.has_params_after
      intro fields required
      obtain ⟨rfl, -⟩ := of_require_fields required
      have written := mapping.has_params_insert (mapping.insertFields row selective) [[]]
      rw [bindings, Row.bindings, List.map_map]
      rwa [List.flatMap_singleton] at written
  | insertMany rows selective =>
      cases rows with
      | nil => exact Draft.has_params_fail _ _
      | cons row rows =>
          apply Draft.has_params_after
          intro fields required
          obtain ⟨rfl, -⟩ := of_require_fields required
          rw [bindings, paths_list_bindings]
          exact mapping.has_params_insert _ _
  | updateById row selective =>
      apply Draft.has_params_after
      intro key found
      apply Draft.has_params_after
      intro _ _
      apply Draft.has_params_after
      intro fields required
      obtain ⟨rfl, -⟩ := of_require_fields required
      rw [bindings, keys_of_require_key found, List.map_append]
      exact mapping.has_params_update (has_params_assignments [] row _)
        ((Draft.has_params_param [.key key.name]).after_text _)
  | updateWhere row criteria selective =>
      apply Draft.has_params_after
      intro fields required
      obtain ⟨rfl, -⟩ := of_require_fields required
      rw [bindings, List.map_append]
      exact mapping.has_params_update (has_params_assignments _ row _)
        (criteria.has_params_draft _)
  | updateWith changes criteria =>
      rw [bindings, List.map_append]
      exact mapping.has_params_update (changes.has_params_draft _) (criteria.has_params_draft _)
  | updateMany rows selective =>
      apply Draft.has_params_after
      intro key found
      cases rows with
      | nil => exact Draft.has_params_fail _ _
      | cons row rows =>
          apply Draft.has_params_after
          intro _ _
          apply Draft.has_params_after
          intro fields required
          obtain ⟨rfl, -⟩ := of_require_fields required
          rw [bindings, keys_of_require_key found, List.map_append, List.map_flatMap]
          simp only [paths_list_bindings]
          have assignments := Draft.has_params_joined ", " (mapping.updateFields row selective)
            fun f _ => has_params_case key f (listPaths (row :: rows).length)
          exact mapping.has_params_update assignments (has_params_key_among key _)
  | delete target logical =>
      cases logical with
      | false => exact (mapping.has_params_target target).after_text _
      | true =>
          apply Draft.has_params_after
          intro found _
          exact (mapping.has_params_target target).after_text _
  | select target options =>
      have tail : (selectTail options target).HasParams [] :=
        fun _ => (fixed_select_tail options target).params
      have after := (mapping.has_params_target target).append
        (tail.after_text mapping.liveFilter)
      rw [List.append_nil] at after
      exact after.after_text _

/-- The bindings lead to what they stand for, and only a stored field of a row that was given
may be missing. -/
structure Leads (mapping : Mapping) (command : Command) (bindings : List (Path × Source)) :
    Prop where
  found : ∀ binding ∈ bindings, command.root binding.1 = binding.2.value?
  missing : ∀ binding ∈ bindings, binding.2.value? = none →
    ∃ row ∈ command.rows, ∃ f ∈ mapping.persisted, binding.2 = .field row f.name

section Leading

variable {mapping : Mapping} {command : Command} {bindings others : List (Path × Source)}

theorem Leads.append (first : mapping.Leads command bindings)
    (second : mapping.Leads command others) : mapping.Leads command (bindings ++ others) :=
  ⟨List.forall_mem_append.mpr ⟨first.found, second.found⟩,
    List.forall_mem_append.mpr ⟨first.missing, second.missing⟩⟩

theorem leads_flatMap {α : Type} {items : List α} {each : α → List (Path × Source)}
    (leads : ∀ item ∈ items, mapping.Leads command (each item)) :
    mapping.Leads command (items.flatMap each) := by
  constructor
  · intro binding member
    obtain ⟨item, present, inside⟩ := List.mem_flatMap.mp member
    exact (leads item present).found binding inside
  · intro binding member
    obtain ⟨item, present, inside⟩ := List.mem_flatMap.mp member
    exact (leads item present).missing binding inside

theorem leads_of_values (resolves : ∀ binding ∈ bindings, ∃ value,
      command.root binding.1 = some value ∧ binding.2.value? = some value) :
    mapping.Leads command bindings := by
  constructor
  · intro binding member
    obtain ⟨value, found, same⟩ := resolves binding member
    rw [found, same]
  · intro binding member absent
    obtain ⟨value, -, same⟩ := resolves binding member
    rw [same] at absent
    cases absent

theorem leads_row {base : Path} {row : Row} {fields : List Field} (given : row ∈ command.rows)
    (stored : ∀ f ∈ fields, f ∈ mapping.persisted)
    (under : ∀ name, command.root (base ++ [.key name]) = row.value? name) :
    mapping.Leads command (row.bindings base fields) := by
  constructor
  · intro binding member
    obtain ⟨f, -, rfl⟩ := List.mem_map.mp member
    exact under f.name
  · intro binding member _
    obtain ⟨f, present, rfl⟩ := List.mem_map.mp member
    exact ⟨row, given, f, stored f present, rfl⟩

theorem leads_list {rows : List Row} {fields : List Field} (given : command.rows = rows)
    (root : command.root = .named [("list", Row.resolveAll rows)])
    (stored : ∀ f ∈ fields, f ∈ mapping.persisted) :
    mapping.Leads command (Row.listBindings rows fields) := by
  apply leads_flatMap
  intro item member
  obtain ⟨row, i⟩ := item
  have present : rows[i]? = some row := List.mem_zipIdx_iff_getElem?.mp member
  apply leads_row
  · rw [given]
    exact List.mem_of_getElem? present
  · exact stored
  · intro name
    rw [root]
    show (rows[i]?).bind _ = _
    rw [present]
    rfl

theorem leads_criteria {criteria : Criteria}
    (under : ∀ path, command.root (.key "condition" :: path) = criteria.resolve path) :
    mapping.Leads command (criteria.sources [.key "condition"]) := by
  apply leads_of_values
  intro binding member
  obtain ⟨⟨path, value⟩, bound, rfl⟩ := List.mem_map.mp member
  refine ⟨value, ?_, rfl⟩
  show command.root (.key "condition" :: path) = some value
  rw [under]
  exact ((criteria.mem_bindings_iff ..).mp bound).1

theorem leads_changes {changes : ChangeSet}
    (under : ∀ path, command.root (.key "spec" :: path) = changes.resolve path) :
    mapping.Leads command (changes.bindings [.key "spec"]) := by
  apply leads_of_values
  intro binding member
  obtain ⟨entry, kept, rfl⟩ := List.mem_map.mp member
  have entered : (changes.entries.lookup entry.1).isSome = true :=
    List.lookup_isSome_iff.mpr ⟨entry, List.mem_of_mem_filter kept, beq_self_eq_true entry.1⟩
  obtain ⟨value, found⟩ := Option.isSome_iff_exists.mp entered
  refine ⟨value, ?_, found⟩
  show command.root (.key "spec" :: [.key "updates", .key entry.1]) = some value
  rw [under]
  exact found

theorem leads_target (target : Target) (root : command.root = target.resolve) :
    mapping.Leads command target.bindings := by
  cases target with
  | id value =>
      apply leads_of_values
      intro binding member
      cases List.mem_singleton.mp member
      rw [root]
      exact ⟨value, rfl, rfl⟩
  | ids values =>
      apply leads_of_values
      intro binding member
      obtain ⟨⟨value, i⟩, present, rfl⟩ := List.mem_map.mp member
      rw [root]
      exact ⟨value, List.mem_zipIdx_iff_getElem?.mp present, rfl⟩
  | criteria sought =>
      apply leads_criteria
      intro path
      rw [root]
      rfl

end Leading

theorem insert_fields_stored (mapping : Mapping) (row : Row) (selective : Bool) :
    ∀ f ∈ mapping.insertFields row selective, f ∈ mapping.persisted :=
  fun _ => List.mem_of_mem_filter

theorem update_fields_stored (mapping : Mapping) (row : Row) (selective : Bool) :
    ∀ f ∈ mapping.updateFields row selective, f ∈ mapping.persisted :=
  fun _ => List.mem_of_mem_filter

theorem keys_stored (mapping : Mapping) : ∀ f ∈ mapping.keys, f ∈ mapping.persisted :=
  fun _ => List.mem_of_mem_filter

/-- Each form of a command finds its placeholders under the names that it writes. -/
theorem leads_bindings (mapping : Mapping) (command : Command) :
    mapping.Leads command (mapping.bindings command) := by
  cases command with
  | insert row selective =>
      exact leads_row List.mem_cons_self (mapping.insert_fields_stored row selective) fun _ => rfl
  | insertMany rows selective =>
      cases rows with
      | nil => exact ⟨nofun, nofun⟩
      | cons row rows => exact leads_list rfl rfl (mapping.insert_fields_stored row selective)
  | updateById row selective =>
      apply Leads.append
      · exact leads_row List.mem_cons_self (mapping.update_fields_stored row selective)
          fun _ => rfl
      · exact leads_row List.mem_cons_self mapping.keys_stored fun _ => rfl
  | updateWhere row criteria selective =>
      apply Leads.append
      · exact leads_row List.mem_cons_self (mapping.update_fields_stored row selective)
          fun _ => rfl
      · exact leads_criteria fun _ => rfl
  | updateWith changes criteria =>
      exact (leads_changes fun _ => rfl).append (leads_criteria fun _ => rfl)
  | updateMany rows selective =>
      cases rows with
      | nil => exact ⟨nofun, nofun⟩
      | cons row rows =>
          apply Leads.append
          · apply leads_flatMap
            intro f member
            apply leads_list rfl rfl
            rw [List.forall_mem_append, List.forall_mem_singleton]
            exact ⟨mapping.keys_stored, mapping.update_fields_stored row selective f member⟩
          · exact leads_list rfl rfl mapping.keys_stored
  | delete target logical => exact leads_target target rfl
  | select target options => exact leads_target target rfl

end Mapping

/-- Paths that lead to sources are bound to their values, up to the first source without one. -/
theorem bind_sources {root : Resolver} {bindings : List (Path × Source)}
    (found : ∀ binding ∈ bindings, root binding.1 = binding.2.value?) :
    (∃ values, (bindings.map Prod.fst).mapM (bindPath root) = .ok values ∧
      bindings.map (·.2.value?) = values.map some) ∨
    ∃ before path source after, bindings = before ++ (path, source) :: after ∧
      (∀ binding ∈ before, binding.2.value? ≠ none) ∧ source.value? = none ∧
      (bindings.map Prod.fst).mapM (bindPath root) = .error (.unresolved path.text) := by
  induction bindings with
  | nil => exact Or.inl ⟨[], rfl, rfl⟩
  | cons binding bindings ih =>
      obtain ⟨path, source⟩ := binding
      have here : root path = source.value? := found _ List.mem_cons_self
      have later := ih fun other member => found other (List.mem_cons_of_mem _ member)
      rw [List.map_cons, List.mapM_cons]
      cases present : source.value? with
      | none =>
          have failed : bindPath root path = .error (.unresolved path.text) := by
            rw [bindPath, here, present]
          refine Or.inr ⟨[], path, source, bindings, rfl, List.forall_mem_nil _, present, ?_⟩
          rw [failed]
          rfl
      | some value =>
          have bound : bindPath root path = .ok value := by
            rw [bindPath, here, present]
          rw [bound]
          obtain ⟨values, same, all⟩ |
            ⟨before, lost, stuck, after, split, earlier, absent, failed⟩ := later
          · refine Or.inl ⟨value :: values, ?_, ?_⟩
            · rw [same]
              rfl
            · rw [List.map_cons, present, all, List.map_cons]
          · refine Or.inr ⟨(path, source) :: before, lost, stuck, after, ?_, ?_, absent, ?_⟩
            · rw [split, List.cons_append]
            · rw [List.forall_mem_cons]
              refine ⟨?_, earlier⟩
              rw [present]
              exact Option.some_ne_none value
            · rw [failed]
              rfl

namespace Command

theorem statement_eq_ok {command : Command} {schema : Schema} {dialect : Dialect}
    {statement : Statement} (built : command.statement schema dialect = .ok statement) :
    ∃ mapping, schema.mapping = .ok mapping ∧ (mapping.draft command).failure = none ∧
      statement = ⟨dialect.sql (mapping.draft command).pieces,
        paramPaths (mapping.draft command).pieces⟩ := by
  unfold Command.statement at built
  cases found : schema.mapping with
  | error e =>
      rw [found] at built
      cases built
  | ok mapping =>
      rw [found] at built
      exact ⟨mapping, rfl, (Draft.statement_eq_ok_iff ..).mp built⟩

theorem build_eq_map {command : Command} {schema : Schema} {dialect : Dialect}
    {statement : Statement} (built : command.statement schema dialect = .ok statement) :
    command.build schema dialect =
      (statement.bind command.root).map fun values => ⟨statement.sql, values⟩ := by
  unfold Command.build
  rw [built]
  show (statement.bind command.root >>= _) = _
  cases statement.bind command.root <;> rfl

theorem build_of_unmapped {schema : Schema} {e : Error} (unmapped : schema.mapping = .error e)
    (command : Command) (dialect : Dialect) : command.build schema dialect = .error e := by
  rw [Command.build, Command.statement, unmapped]
  rfl

theorem build_of_composite {schema : Schema} (composite : ¬schema.keys.length ≤ 1)
    (command : Command) (dialect : Dialect) :
    command.build schema dialect =
      .error (.compositeKey schema.entity (schema.keys.map Field.name)) :=
  build_of_unmapped (dif_neg composite) command dialect

theorem build_of_failure {command : Command} {schema : Schema} {mapping : Mapping} {e : Error}
    (mapped : schema.mapping = .ok mapping) (failed : (mapping.draft command).failure = some e)
    (dialect : Dialect) : command.build schema dialect = .error e := by
  have refused : command.statement schema dialect = .error e := by
    rw [Command.statement, mapped]
    show (mapping.draft command).statement dialect = .error e
    rw [Draft.statement, failed]
  rw [Command.build, refused]
  rfl

theorem params_of_statement {command : Command} {schema : Schema} {mapping : Mapping}
    {dialect : Dialect} {statement : Statement} (mapped : schema.mapping = .ok mapping)
    (built : command.statement schema dialect = .ok statement) :
    statement.params = (mapping.bindings command).map Prod.fst := by
  obtain ⟨other, found, complete, rfl⟩ := statement_eq_ok built
  cases mapped.symm.trans found
  exact mapping.has_params_draft command complete

/-- All rows of the command have all stored fields. -/
def Covers (command : Command) (schema : Schema) : Prop :=
  ∀ row ∈ command.rows, ∀ f ∈ schema.persisted, row.value? f.name ≠ none

section Outcome

variable {command : Command} {schema : Schema} {mapping : Mapping} {dialect : Dialect}
  {statement : Statement}

theorem bound_of_statement (mapped : schema.mapping = .ok mapping)
    (built : command.statement schema dialect = .ok statement) :
    mapping.Bound command (statement.bind command.root) := by
  obtain ⟨found, missing⟩ := mapping.leads_bindings command
  rw [Statement.bind, params_of_statement mapped built]
  obtain ⟨values, same, all⟩ | ⟨before, path, source, after, split, earlier, absent, failed⟩ :=
    bind_sources found
  · rw [same]
    exact .complete all
  · rw [failed]
    have present : (path, source) ∈ mapping.bindings command := by
      rw [split]
      exact List.mem_append_right before List.mem_cons_self
    obtain ⟨row, given, f, stored, isField⟩ := missing _ present absent
    dsimp only at isField
    subst isField
    exact .missing split earlier given stored absent

/-- If the rows have all stored fields, every placeholder gets the value of its source. -/
theorem bind_of_covers (mapped : schema.mapping = .ok mapping)
    (built : command.statement schema dialect = .ok statement) (covers : command.Covers schema) :
    ∃ values, statement.bind command.root = .ok values ∧
      (mapping.bindings command).map (·.2.value?) = values.map some := by
  have bound := bound_of_statement mapped built
  generalize statement.bind command.root = outcome at bound
  cases bound with
  | complete all => exact ⟨_, rfl, all⟩
  | @missing before after path row f split earlier given stored absent =>
      have kept : f ∈ schema.persisted := by
        rwa [← Schema.to_schema_of_mapping mapped]
      exact absurd absent (covers row given f kept)

end Outcome

end Command

/-- Every statement that is built can be bound, up to fields that a row lacks. Its placeholders
are those of the command in order. Building it with values gives the same text with the values
of the sources, or fails at the first placeholder whose field its row does not have; and if all
rows have all stored fields, it gives as many values as there are placeholders. -/
theorem built_statement_binds {command : Command} {schema : Schema} {dialect : Dialect}
    {statement : Statement} (built : command.statement schema dialect = .ok statement) :
    ∃ mapping, schema.mapping = .ok mapping ∧
      statement.params = (mapping.bindings command).map Prod.fst ∧
      (∃ outcome, mapping.Bound command outcome ∧
        command.build schema dialect = outcome.map fun values => ⟨statement.sql, values⟩) ∧
      (command.Covers schema → ∃ values,
        command.build schema dialect = .ok ⟨statement.sql, values⟩ ∧
        values.length = statement.params.length ∧
        (mapping.bindings command).map (·.2.value?) = values.map some) := by
  obtain ⟨mapping, mapped, -, -⟩ := Command.statement_eq_ok built
  have params := Command.params_of_statement mapped built
  refine ⟨mapping, mapped, params, ?_, ?_⟩
  · exact ⟨_, Command.bound_of_statement mapped built, Command.build_eq_map built⟩
  · intro covers
    obtain ⟨values, bound, all⟩ := Command.bind_of_covers mapped built covers
    refine ⟨values, ?_, ?_, all⟩
    · rw [Command.build_eq_map built, bound]
      rfl
    · have lengths := congrArg List.length all
      rw [List.length_map, List.length_map] at lengths
      rw [params, List.length_map, lengths]

def books : Schema where
  entity := "Book"
  table := "book"
  fields :=
    [⟨"isbn", "isbn", .text, some .assign, false, none, .never⟩,
      ⟨"title", "title", .text, none, false, none, .never⟩,
      ⟨"shelf", "shelf_no", .integer, none, false, none, .never⟩]

def crowdedBook : Row :=
  [("shelf", .int 3), ("isbn", .text "1"), ("title", .text "Emma"), ("isbn", .null),
    ("shelf", .int 9), ("lent", .bool true)]

def shelfless : Command := .updateMany [crowdedBook, [("title", .null), ("isbn", .text "2")]] false

def reshelved : Command :=
  .updateWhere crowdedBook (.ofConditions [.compare .eq "title" (.text "Emma")]) false

theorem crowded_book_binds :
    (∃ statement values, reshelved.statement books .sqlite = .ok statement ∧
      statement.sql = "UPDATE book SET title = ?1, shelf_no = ?2 WHERE title = ?3" ∧
      reshelved.Covers books ∧
      reshelved.build books .sqlite = .ok ⟨statement.sql, values⟩ ∧
      values = [.text "Emma", .int 3, .text "Emma"] ∧
      values.length = statement.params.length) ∧
    ∃ (statement : Statement) (mapping : Mapping) (outcome : Except Error (List Value)),
      shelfless.statement books .sqlite = .ok statement ∧ mapping.Bound shelfless outcome ∧
      shelfless.build books .sqlite = outcome.map (fun values => ⟨statement.sql, values⟩) ∧
      shelfless.build books .sqlite = .error (.unresolved "list[1].shelf") := by
  constructor
  · have covers : reshelved.Covers books := by
      unfold Command.Covers
      decide
    have written : reshelved.statement books .sqlite = .ok ⟨_, _⟩ := rfl
    obtain ⟨mapping, -, -, -, whole⟩ := built_statement_binds written
    obtain ⟨values, built, lengths, -⟩ := whole covers
    have computed : reshelved.build books .sqlite =
      .ok ⟨_, [.text "Emma", .int 3, .text "Emma"]⟩ := rfl
    have same := (BoundStatement.mk.inj (Except.ok.inj (built.symm.trans computed))).2
    exact ⟨_, values, written, by decide +kernel, covers, built, same, lengths⟩
  · have written : shelfless.statement books .sqlite = .ok ⟨_, _⟩ := rfl
    obtain ⟨mapping, -, -, ⟨outcome, bound, built⟩, -⟩ := built_statement_binds written
    exact ⟨_, mapping, outcome, written, bound, built, rfl⟩

end BoundSql
