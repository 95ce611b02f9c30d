import Mathlib
import BoundSql.Proofs.Clause.Precedence
import BoundSql.Proofs.Clause.ReadBack
import BoundSql.Proofs.Command.Binding
import BoundSql.Proofs.Criteria.Identifiers

/-!
What keeps reads and updates to live rows. The condition on the marked column stands behind the
other conditions of a command, as a bare text. Read by the precedence of SQL, the whole clause is
one conjunction: the predicates of the command come first and the condition on the marked column
is the last factor, so no OR among the conditions can let a deleted row through. The options of
a SELECT leave the clause and its values as they are, and a row is marked as deleted in the same
column.
-/

namespace BoundSql

def Row.value (row : Row) (field : String) : Value := (row.value? field).getD .null

def Target.columns : Target → List String
  | .id _ => []
  | .ids _ => []
  | .criteria sought => Condition.columnsOf sought.conditions

def Command.columns : Command → List String
  | .updateWhere _ criteria _ => Condition.columnsOf criteria.conditions
  | .updateWith _ criteria => Condition.columnsOf criteria.conditions
  | .delete target _ => target.columns
  | .select target _ => target.columns
  | _ => []

def Command.IsUpdate : Command → Prop
  | .updateById _ _ => True
  | .updateWhere _ _ _ => True
  | .updateWith _ _ => True
  | .updateMany _ _ => True
  | _ => False

namespace Mapping

def targetPredicates (mapping : Mapping) : Target → List (Predicate Value)
  | .id value => mapping.keys.map fun key => .compare key.column .eq value
  | .ids [] => [.constant false]
  | .ids (value :: values) => mapping.keys.map fun key => .member key.column false value values
  | .criteria sought => sought.normal

def predicates (mapping : Mapping) : Command → List (Predicate Value)
  | .updateById row _ =>
      mapping.keys.map fun key => .compare key.column .eq (row.value key.name)
  | .updateWhere _ criteria _ => criteria.normal
  | .updateWith _ criteria => criteria.normal
  | .updateMany [] _ => []
  | .updateMany (row :: rows) _ =>
      mapping.keys.map fun key =>
        .member key.column false (row.value key.name) (rows.map fun row => row.value key.name)
  | .delete target _ => mapping.targetPredicates target
  | .select target _ => mapping.targetPredicates target
  | .insert _ _ => []
  | .insertMany _ _ => []

def projection (mapping : Mapping) (options : SelectOptions) : String :=
  if options.count then "COUNT(1)" else ", ".intercalate mapping.columns

end Mapping

/-- A complete draft writes these predicates joined by AND, in every dialect and from every
number on, and its parameters lead to their values. -/
structure Draft.Conjoins (draft : Draft) (root : Resolver) (ps : List (Predicate Value)) :
    Prop where
  spelled : draft.failure = none → ∀ (dialect : Dialect) (number : Nat), ∃ first rest,
    first.text ++ Predicate.follow .and rest = dialect.spelling number draft.pieces ∧
      Predicate.signsOf (first :: rest) = dialect.marks number (paramPaths draft.pieces) ∧
      (first :: rest).map Predicate.shape = ps.map Predicate.shape
  values : draft.failure = none →
    (paramPaths draft.pieces).map root = (Predicate.signsOf ps).map some

namespace Draft

theorem conjoins_after {α : Type} {check : Except Error α} {draft : α → Draft} {root : Resolver}
    {ps : List (Predicate Value)} (each : ∀ a, check = .ok a → (draft a).Conjoins root ps) :
    (after check draft).Conjoins root ps := by
  cases check with
  | error e => exact ⟨nofun, nofun⟩
  | ok a => exact each a rfl

/-- What is checked first succeeded if the draft is complete. -/
theorem check_of_complete {α : Type} {check : Except Error α} {draft : α → Draft}
    (complete : (after check draft).failure = none) :
    ∃ a, check = .ok a ∧ after check draft = draft a ∧ (draft a).failure = none := by
  cases check with
  | error e => cases complete
  | ok a => exact ⟨a, rfl, rfl, complete⟩

theorem conjoins_single {draft : Draft} {root : Resolver} {p : Predicate Value}
    (spells : ∀ (dialect : Dialect) (number : Nat), ∃ q,
      dialect.Spells number draft.pieces q ∧ q.shape = p.shape)
    (values : (paramPaths draft.pieces).map root = p.signs.map some) :
    draft.Conjoins root [p] := by
  constructor
  · intro _ dialect number
    obtain ⟨q, spelled, shape⟩ := spells dialect number
    refine ⟨q, [], ?_, ?_, ?_⟩
    · rw [Predicate.follow, List.append_nil, spelled.text]
    · rw [Predicate.signsOf, Predicate.signsOf, List.append_nil, spelled.signs]
    · rw [List.map_singleton, List.map_singleton, shape]
  · intro _
    rw [values, Predicate.signsOf, Predicate.signsOf, List.append_nil]

theorem conjoins_comparison (column : String) {path : Path} {root : Resolver} {value : Value}
    (found : root path = some value) :
    (text (column ++ " = ") ++ param path).Conjoins root [.compare column .eq value] := by
  apply conjoins_single
  · intro dialect number
    refine ⟨.compare column .eq (dialect.placeholder number path), ⟨?_, rfl⟩, rfl⟩
    show _ = dialect.spelling number [.text (column ++ " = "), .param path]
    rw [Dialect.spelling_text, Dialect.spelling_param, Dialect.spelling_nil, List.append_nil,
      Predicate.text, String.toList_append]
    rfl
  · show [root path] = [some value]
    rw [found]

theorem conjoins_member (column : String) {paths : List Path} {root : Resolver} {value : Value}
    {values : List Value} (found : paths.map root = (value :: values).map some) :
    (text (column ++ " IN (") ++ (joined ", " (paths.map param) ++ text ")")).Conjoins root
      [.member column false value values] := by
  cases paths with
  | nil => cases found
  | cons path paths =>
      have complete : (joined ", " ((path :: paths).map param)).failure = none := by
        rw [complete_joined_iff]
        exact complete_params _
      have pieces : (text (column ++ " IN (") ++
          (joined ", " ((path :: paths).map param) ++ text ")")).pieces =
            .text (column ++ " IN (") :: (.param path ::
              ((paths.flatMap fun other => [.text ", ", .param other]) ++ [.text ")"])) := by
        rw [pieces_append rfl, pieces_append complete, pieces_params]
        rfl
      have params : paramPaths (text (column ++ " IN (") ++
          (joined ", " ((path :: paths).map param) ++ text ")")).pieces = path :: paths := by
        rw [pieces, param_paths_text, param_paths_param, param_paths_append, param_paths_flatMap]
        exact congrArg (path :: ·) ((List.append_nil _).trans (List.flatMap_singleton' paths))
      apply conjoins_single
      · intro dialect number
        refine ⟨.member column false (dialect.placeholder number path)
          (dialect.marks (number + 1) paths), ⟨?_, ?_⟩, ?_⟩
        · rw [pieces, Dialect.spelling_text, Dialect.spelling_param, Dialect.spelling_append,
            Dialect.spelling_params, Dialect.spelling_text, Dialect.spelling_nil, Predicate.text,
            Predicate.moreSigns, String.toList_append]
          simp only [List.append_assoc, List.append_nil]
          rfl
        · rw [params]
          rfl
        · have lengths := congrArg List.length found
          simp only [List.length_map, List.length_cons, Nat.add_right_cancel_iff] at lengths
          have signs : (dialect.marks (number + 1) paths).map (fun _ => ()) =
              values.map fun _ => () := by
            rw [List.map_const', List.map_const', Dialect.length_marks, lengths]
          rw [Predicate.shape, Predicate.shape, signs]
      · rw [params]
        exact found

end Draft

theorem Criteria.conjoins (criteria : Criteria) (base : Path) {root : Resolver}
    (under : ∀ path, root (base ++ path) = criteria.resolve path) :
    (criteria.draft base).Conjoins root criteria.normal := by
  constructor
  · intro complete dialect number
    obtain ⟨first, rest, text, signs, shapes⟩ :=
      criteria.draft_spells dialect base number (clean_of_complete complete)
    rw [chain_text_same_word] at text
    exact ⟨first, rest, text, signs, shapes⟩
  · intro complete
    have clean := clean_of_complete complete
    rw [criteria.params_draft base clean, criteria.signs_normal clean, ← criteria.values_bindings,
      List.map_map, List.map_map]
    apply List.map_congr_left
    intro binding member
    show root (base ++ binding.1) = some binding.2
    rw [under]
    exact ((criteria.mem_bindings_iff ..).mp member).1

namespace Mapping

variable {mapping : Mapping}

theorem map_positions {α : Type} (items : List α) :
    (List.range items.length).map (fun i => items[i]?) = items.map some := by
  apply List.ext_getElem
  · simp
  · intro i _ inside
    simp

theorem conjoins_target (target : Target) :
    (mapping.targetDraft target).Conjoins target.resolve (mapping.targetPredicates target) := by
  cases target with
  | id value =>
      apply Draft.conjoins_after
      intro key found
      rw [targetPredicates, keys_of_require_key found]
      split
      · exact ⟨nofun, nofun⟩
      · exact Draft.conjoins_comparison key.column rfl
  | ids values =>
      apply Draft.conjoins_after
      intro key found
      cases values with
      | nil =>
          apply Draft.conjoins_single
          · intro dialect number
            exact ⟨.constant false, ⟨by simp [Draft.text, Predicate.text], rfl⟩, rfl⟩
          · rfl
      | cons value values =>
          rw [targetPredicates, keys_of_require_key found]
          show (Draft.text (key.column ++ " IN (") ++
            (Draft.positions [.key "ids"] (value :: values).length ++ .text ")")).Conjoins _ _
          rw [Draft.positions_eq_joined]
          apply Draft.conjoins_member
          rw [Draft.positionPaths, List.map_map]
          exact map_positions (value :: values)
  | criteria sought => exact sought.conjoins [.key "condition"] fun _ => rfl

theorem key_given_of_require {key : Field} {row : Row} {done : Unit}
    (given : mapping.requireKeyValue key row = .ok done) :
    row.value? key.name = some (row.value key.name) := by
  unfold requireKeyValue Row.isNull at given
  cases present : row.value? key.name with
  | none =>
      rw [present] at given
      cases given
  | some value => rw [Row.value, present, Option.getD_some]

theorem keys_given_of_require {key : Field} {rows : List Row} {done : Unit}
    (given : rows.forM (mapping.requireKeyValue key) = .ok done) :
    ∀ row ∈ rows, row.value? key.name = some (row.value key.name) := by
  induction rows with
  | nil => exact nofun
  | cons row rows ih =>
      rw [List.forM] at given
      cases first : mapping.requireKeyValue key row with
      | error e =>
          rw [first] at given
          cases given
      | ok _ =>
          rw [first] at given
          rw [List.forall_mem_cons]
          exact ⟨key_given_of_require first, ih given⟩

theorem conjoins_key_among {key : Field} {row : Row} {rows : List Row}
    (given : ∀ other ∈ row :: rows, other.value? key.name = some (other.value key.name)) :
    (keyAmong key (listPaths (row :: rows).length)).Conjoins
      (.named [("list", Row.resolveAll (row :: rows))])
      [.member key.column false (row.value key.name)
        (rows.map fun other => other.value key.name)] := by
  have params : ((listPaths (row :: rows).length).map fun base =>
      Draft.param (base ++ [.key key.name])) =
        ((listPaths (row :: rows).length).map fun base => base ++ [.key key.name]).map
          Draft.param := by
    rw [List.map_map]
    rfl
  rw [keyAmong, params]
  apply Draft.conjoins_member
  have positions := congrArg (List.map fun row? : Option Row => row?.bind fun other =>
    other.value? key.name) (map_positions (row :: rows))
  rw [List.map_map, List.map_map] at positions
  rw [listPaths, List.map_map, List.map_map, ← List.map_cons (f := fun other : Row =>
    other.value key.name), List.map_map]
  refine positions.trans ?_
  apply List.map_congr_left
  exact given

/-- The parts of an update: what is assigned, and the condition with its predicates. -/
theorem update_parts (command : Command) (update : command.IsUpdate)
    (complete : (mapping.draft command).failure = none) :
    ∃ assignments condition, mapping.draft command = mapping.updateDraft assignments condition ∧
      condition.Conjoins command.root (mapping.predicates command) := by
  cases command with
  | updateById row selective =>
      obtain ⟨key, found, withKey, complete⟩ := Draft.check_of_complete complete
      obtain ⟨_, given, withValue, complete⟩ := Draft.check_of_complete complete
      obtain ⟨fields, -, withFields, -⟩ := Draft.check_of_complete complete
      refine ⟨_, _, withKey.trans (withValue.trans withFields), ?_⟩
      rw [predicates, keys_of_require_key found]
      exact Draft.conjoins_comparison key.column (key_given_of_require given)
  | updateWhere row criteria selective =>
      obtain ⟨fields, -, withFields, -⟩ := Draft.check_of_complete complete
      exact ⟨_, _, withFields, criteria.conjoins [.key "condition"] fun _ => rfl⟩
  | updateWith changes criteria =>
      exact ⟨_, _, rfl, criteria.conjoins [.key "condition"] fun _ => rfl⟩
  | updateMany rows selective =>
      obtain ⟨key, found, withKey, complete⟩ := Draft.check_of_complete complete
      cases rows with
      | nil => cases complete
      | cons row rows =>
          obtain ⟨_, given, withValues, complete⟩ := Draft.check_of_complete complete
          obtain ⟨fields, -, withFields, -⟩ := Draft.check_of_complete complete
          refine ⟨_, _, withKey.trans (withValues.trans withFields), ?_⟩
          rw [predicates, keys_of_require_key found]
          exact conjoins_key_among (keys_given_of_require given)
  | insert => exact update.elim
  | insertMany => exact update.elim
  | delete => exact update.elim
  | select => exact update.elim

theorem update_spelled {assignments condition : Draft}
    (complete : (mapping.updateDraft assignments condition).failure = none) (dialect : Dialect) :
    condition.failure = none ∧
    dialect.sql (mapping.updateDraft assignments condition).pieces =
      "UPDATE " ++ mapping.table ++ " SET " ++ dialect.sql assignments.pieces ++ " WHERE " ++
        (String.ofList (dialect.spelling ((paramPaths assignments.pieces).length + 1)
          condition.pieces) ++ mapping.liveFilter) ∧
    paramPaths (mapping.updateDraft assignments condition).pieces =
      paramPaths assignments.pieces ++ paramPaths condition.pieces := by
  rw [updateDraft] at complete ⊢
  rw [Draft.complete_append_iff, Draft.complete_append_iff, Draft.complete_append_iff,
    Draft.complete_append_iff] at complete
  obtain ⟨-, assigned, -, selected, -⟩ := complete
  have pieces : (Draft.text ("UPDATE " ++ mapping.table ++ " SET ") ++
      (assignments ++ (.text " WHERE " ++ (condition ++ .text mapping.liveFilter)))).pieces =
        .text ("UPDATE " ++ mapping.table ++ " SET ") :: (assignments.pieces ++
          (.text " WHERE " :: (condition.pieces ++ [.text mapping.liveFilter]))) := by
    rw [Draft.pieces_append rfl, Draft.pieces_append assigned, Draft.pieces_append rfl,
      Draft.pieces_append selected]
    rfl
  refine ⟨selected, ?_, ?_⟩
  · apply String.toList_injective
    rw [pieces, Dialect.to_list_sql]
    simp only [Dialect.spelling_text, Dialect.spelling_append, Dialect.spelling_nil,
      String.toList_append, String.toList_ofList, Dialect.to_list_sql, List.append_assoc,
      List.append_nil, Nat.add_comm 1]
  · rw [pieces, param_paths_text, param_paths_append, param_paths_text, param_paths_append,
      param_paths_text, param_paths_nil, List.append_nil]

def selectText (mapping : Mapping) (dialect : Dialect) (target : Target)
    (options : SelectOptions) (condition : String) : String :=
  "SELECT " ++ mapping.projection options ++ " FROM " ++ mapping.table ++ " WHERE " ++
    condition ++ dialect.sql (selectTail options target).pieces

theorem failure_select (target : Target) (options : SelectOptions) :
    (mapping.draft (.select target options)).failure = (mapping.targetDraft target).failure := by
  rw [draft, Draft.failure_append, Draft.failure_append, Draft.failure_append,
    (fixed_select_tail options target).complete]
  cases (mapping.targetDraft target).failure <;> rfl

theorem spelling_without_params (dialect : Dialect) (number : Nat) {pieces : List Piece}
    (none : paramPaths pieces = []) :
    dialect.spelling number pieces = dialect.spelling 1 pieces := by
  induction pieces generalizing number with
  | nil => rfl
  | cons piece pieces ih =>
      cases piece with
      | text s => rw [Dialect.spelling_text, Dialect.spelling_text, ih number none]
      | param path => cases none

theorem select_spelled {target : Target} (complete : (mapping.targetDraft target).failure = none)
    (options : SelectOptions) (dialect : Dialect) :
    dialect.sql (mapping.draft (.select target options)).pieces =
      mapping.selectText dialect target options
        (String.ofList (dialect.spelling 1 (mapping.targetDraft target).pieces) ++
          mapping.liveFilter) ∧
    paramPaths (mapping.draft (.select target options)).pieces =
      paramPaths (mapping.targetDraft target).pieces := by
  have tail := (fixed_select_tail options target).params
  have pieces : (mapping.draft (.select target options)).pieces =
      .text ("SELECT " ++ mapping.projection options ++ " FROM " ++ mapping.table ++ " WHERE ") ::
        ((mapping.targetDraft target).pieces ++
          (.text mapping.liveFilter :: (selectTail options target).pieces)) := by
    rw [draft, Draft.pieces_append rfl, Draft.pieces_append complete, Draft.pieces_append rfl]
    rfl
  constructor
  · apply String.toList_injective
    rw [pieces, Dialect.to_list_sql]
    simp only [selectText, Dialect.spelling_text, Dialect.spelling_append, String.toList_append,
      String.toList_ofList, Dialect.to_list_sql, List.append_assoc,
      spelling_without_params dialect _ tail]
  · rw [pieces, param_paths_text, param_paths_append, param_paths_text, tail, List.append_nil]

theorem columns_of_keys {p : Field → Predicate Value}
    (columns : ∀ key, (p key).columns = [key.column]) :
    ∀ column ∈ Predicate.columnsOf (mapping.keys.map p), column ∈ mapping.columns := by
  intro column present
  rw [Predicate.columns_of_eq_flatMap, List.flatMap_map, List.mem_flatMap] at present
  obtain ⟨key, isKey, inKey⟩ := present
  rw [columns, List.mem_singleton] at inKey
  rw [inKey]
  exact List.mem_map_of_mem (mapping.keys_stored key isKey)

theorem columns_of_target (target : Target) :
    ∀ column ∈ Predicate.columnsOf (mapping.targetPredicates target),
      column ∈ mapping.columns ∨ column ∈ target.columns := by
  cases target with
  | id value => exact fun column member => Or.inl (columns_of_keys (fun _ => rfl) column member)
  | ids values =>
      cases values with
      | nil => exact nofun
      | cons value values =>
          exact fun column member => Or.inl (columns_of_keys (fun _ => rfl) column member)
  | criteria sought => exact fun column member => Or.inr (sought.columns_normal column member)

theorem columns_of_predicates (command : Command) :
    ∀ column ∈ Predicate.columnsOf (mapping.predicates command),
      column ∈ mapping.columns ∨ column ∈ command.columns := by
  cases command with
  | updateById row selective =>
      exact fun column member => Or.inl (columns_of_keys (fun _ => rfl) column member)
  | updateWhere row criteria selective =>
      exact fun column member => Or.inr (criteria.columns_normal column member)
  | updateWith changes criteria =>
      exact fun column member => Or.inr (criteria.columns_normal column member)
  | updateMany rows selective =>
      cases rows with
      | nil => exact nofun
      | cons row rows =>
          exact fun column member => Or.inl (columns_of_keys (fun _ => rfl) column member)
  | delete target logical => exact columns_of_target target
  | select target options => exact columns_of_target target
  | insert => exact nofun
  | insertMany => exact nofun

end Mapping

def liveFactor (f : Field) (marker : DeleteMarker) : Factor :=
  .compare f.column .eq (.literal marker.normal)

/-- Read by the precedence of SQL, the text is one conjunction: predicates of the shapes of `ps`,
with the placeholders of the parameters in their order, and the condition that a row is live as
the last factor. -/
def ReadsLive (dialect : Dialect) (number : Nat) (params : List Path) (body : String)
    (ps : List (Predicate Value)) (f : Field) (marker : DeleteMarker) : Prop :=
  ∃ qs : List (Predicate String),
    Precedence.read (dialect.marks number params) body.toList =
      some [qs.map Predicate.factor ++ [liveFactor f marker]] ∧
    qs.map Predicate.shape = ps.map Predicate.shape ∧
    Predicate.signsOf qs = dialect.marks number params

section Live

variable {schema : Schema} {mapping : Mapping} {f : Field} {marker : DeleteMarker}

theorem column_of_marked (marked : schema.marked.head? = some (f, marker)) :
    f.column ∈ schema.columns := by
  have member := List.mem_of_head? marked
  obtain ⟨g, stored, found⟩ := List.mem_filterMap.mp member
  obtain ⟨_, -, same⟩ := Option.map_eq_some_iff.mp found
  rw [← (Prod.mk.inj same).1]
  exact List.mem_map_of_mem stored

theorem identifiers_of_command (mapped : schema.mapping = .ok mapping)
    (identifiers : Identifiers schema.columns) (command : Command)
    (trusted : Identifiers command.columns) :
    Identifiers (Predicate.columnsOf (mapping.predicates command)) := by
  intro column member
  rw [← Schema.to_schema_of_mapping mapped] at identifiers
  obtain stored | sought := mapping.columns_of_predicates command column member
  · exact identifiers column stored
  · exact trusted column sought

theorem reads_live {condition : Draft} {root : Resolver} {ps : List (Predicate Value)}
    (conjoins : condition.Conjoins root ps) (complete : condition.failure = none)
    (columns : Identifiers (Predicate.columnsOf ps)) (identifiers : Identifiers schema.columns)
    (marked : schema.marked.head? = some (f, marker))
    (literal : Precedence.isLiteral marker.normal = true) (dialect : Dialect) (number : Nat) :
    ReadsLive dialect number (paramPaths condition.pieces)
      (String.ofList (dialect.spelling number condition.pieces) ++ schema.liveFilter) ps f
      marker := by
  obtain ⟨first, rest, text, signs, shapes⟩ := conjoins.spelled complete dialect number
  have formed : ∀ p ∈ first :: rest, ∀ column ∈ p.columns, isIdentifier column = true := by
    intro p member column inColumns
    apply columns
    rw [← Predicate.columns_of_same_shapes shapes, Predicate.columns_of_eq_flatMap]
    exact List.mem_flatMap.mpr ⟨p, member, inColumns⟩
  have read := Precedence.read_with_last formed
    (identifiers _ (column_of_marked marked)) literal
  refine ⟨first :: rest, ?_, shapes, signs⟩
  rw [String.toList_append, String.toList_ofList, Schema.liveFilter, marked, ← text, ← signs]
  exact read

theorem bind_of_found {root : Resolver} {paths : List Path} {values : List Value}
    (found : paths.map root = values.map some) :
    paths.mapM (bindPath root) = .ok values := by
  have related : List.Forall₂ Eq (paths.map root) (values.map some) := by
    rw [found]
    exact List.forall₂_refl _
  rw [List.forall₂_map_left_iff, List.forall₂_map_right_iff, List.forall₂_iff_zip] at related
  obtain ⟨lengths, resolves⟩ := related
  have bound := mapM_bind_path (paths.zip values) fun _ member => resolves member
  rwa [List.map_fst_zip lengths.le, List.map_snd_zip lengths.ge] at bound

/-- The clause of a SELECT with its parameters and their values, which takes no options. -/
def Mapping.selectClause (mapping : Mapping) (dialect : Dialect) (target : Target) :
    Except Error (String × List Path × List Value) :=
  match (mapping.targetDraft target).failure with
  | some e => .error e
  | none => .ok
      (String.ofList (dialect.spelling 1 (mapping.targetDraft target).pieces) ++
        mapping.liveFilter,
        paramPaths (mapping.targetDraft target).pieces,
        Predicate.signsOf (mapping.targetPredicates target))

theorem select_built (mapped : schema.mapping = .ok mapping) (dialect : Dialect)
    (target : Target) (options : SelectOptions) :
    (Command.select target options).statement schema dialect =
      (mapping.selectClause dialect target).map (fun clause =>
        ⟨mapping.selectText dialect target options clause.1, clause.2.1⟩) ∧
    (Command.select target options).build schema dialect =
      (mapping.selectClause dialect target).map fun clause =>
        ⟨mapping.selectText dialect target options clause.1, clause.2.2⟩ := by
  have written : (Command.select target options).statement schema dialect =
      (mapping.draft (.select target options)).statement dialect := by
    rw [Command.statement, mapped]
    rfl
  unfold Mapping.selectClause
  cases failed : (mapping.targetDraft target).failure with
  | some e =>
      have refused : (Command.select target options).statement schema dialect = .error e := by
        rw [written, Draft.statement, Mapping.failure_select, failed]
      refine ⟨refused, ?_⟩
      rw [Command.build, refused]
      rfl
  | none =>
      obtain ⟨text, params⟩ := mapping.select_spelled failed options dialect
      have built : (Command.select target options).statement schema dialect =
          .ok ⟨mapping.selectText dialect target options
            (String.ofList (dialect.spelling 1 (mapping.targetDraft target).pieces) ++
              mapping.liveFilter), paramPaths (mapping.targetDraft target).pieces⟩ := by
        rw [written, Draft.statement_eq_ok_iff, Mapping.failure_select, text, params]
        exact ⟨failed, rfl⟩
      have bound : (paramPaths (mapping.targetDraft target).pieces).mapM
          (bindPath target.resolve) =
            .ok (Predicate.signsOf (mapping.targetPredicates target)) :=
        bind_of_found ((mapping.conjoins_target target).values failed)
      refine ⟨built, ?_⟩
      rw [Command.build_eq_map built]
      show ((paramPaths (mapping.targetDraft target).pieces).mapM
        (bindPath target.resolve)).map _ = _
      rw [bound]
      rfl

/-- The text of an update, of which the clause is the last part. -/
theorem update_built (mapped : schema.mapping = .ok mapping) {dialect : Dialect}
    {command : Command} {statement : Statement} (update : command.IsUpdate)
    (built : command.statement schema dialect = .ok statement) :
    ∃ assignments condition : Draft,
      condition.Conjoins command.root (mapping.predicates command) ∧ condition.failure = none ∧
      statement.sql = "UPDATE " ++ mapping.table ++ " SET " ++ dialect.sql assignments.pieces ++
        " WHERE " ++ (String.ofList (dialect.spelling
          ((paramPaths assignments.pieces).length + 1) condition.pieces) ++ mapping.liveFilter) ∧
      statement.params = paramPaths assignments.pieces ++ paramPaths condition.pieces := by
  obtain ⟨other, found, complete, rfl⟩ := Command.statement_eq_ok built
  cases mapped.symm.trans found
  obtain ⟨assignments, condition, draft, conjoins⟩ := mapping.update_parts command update complete
  rw [draft] at complete ⊢
  obtain ⟨selected, text, params⟩ := mapping.update_spelled complete dialect
  exact ⟨assignments, condition, conjoins, selected, text, params⟩

theorem delete_built (mapped : schema.mapping = .ok mapping)
    (marked : schema.marked.head? = some (f, marker)) {dialect : Dialect} {target : Target}
    {statement : Statement}
    (built : (Command.delete target true).statement schema dialect = .ok statement) :
    ∃ condition, statement.sql = "UPDATE " ++ mapping.table ++ " SET " ++ f.column ++ " = " ++
      marker.deleted ++ " WHERE " ++ condition := by
  obtain ⟨other, found, complete, rfl⟩ := Command.statement_eq_ok built
  cases mapped.symm.trans found
  obtain ⟨only, required, draft, -⟩ := Draft.check_of_complete complete
  have isMarked : only = (f, marker) := by
    rw [← Schema.to_schema_of_mapping mapped] at marked
    unfold Schema.requireMarked at required
    split at required
    · rename_i found
      cases required
      rw [found] at marked
      exact Option.some.inj marked
    · cases required
  subst isMarked
  refine ⟨dialect.sql (mapping.targetDraft target).pieces, ?_⟩
  apply String.toList_injective
  show (dialect.sql (mapping.draft (.delete target true)).pieces).toList = _
  rw [show mapping.draft (.delete target true) = _ from draft, Draft.pieces_append rfl,
    Dialect.to_list_sql, String.toList_append, Dialect.to_list_sql]
  exact dialect.spelling_text 1 _ _

end Live

/-- Reads and updates keep to live rows. The text between WHERE and the tail of a command, read by
the precedence of SQL, is one conjunction: its first factors are the predicates of the command in
their order, with placeholders that are bound to their values, and its last factor is the
condition on the first marked column. So whatever stands in brackets among them, only live rows
are selected. The options of a SELECT change neither that text nor the values, and rows are
marked as deleted in the same column. -/
theorem live_filter_governs {schema : Schema} {mapping : Mapping} {f : Field}
    {marker : DeleteMarker} (mapped : schema.mapping = .ok mapping)
    (identifiers : Identifiers schema.columns)
    (marked : schema.marked.head? = some (f, marker))
    (literal : Precedence.isLiteral marker.normal = true) (dialect : Dialect) :
    (∀ target options,
      (Command.select target options).statement schema dialect =
        (mapping.selectClause dialect target).map (fun clause =>
          ⟨mapping.selectText dialect target options clause.1, clause.2.1⟩) ∧
      (Command.select target options).build schema dialect =
        (mapping.selectClause dialect target).map fun clause =>
          ⟨mapping.selectText dialect target options clause.1, clause.2.2⟩) ∧
    (∀ target body params values, Identifiers target.columns →
      mapping.selectClause dialect target = .ok (body, params, values) →
        values = Predicate.signsOf (mapping.targetPredicates target) ∧
        ReadsLive dialect 1 params body (mapping.targetPredicates target) f marker) ∧
    (∀ command statement, command.IsUpdate → Identifiers command.columns →
      command.statement schema dialect = .ok statement →
        ∃ assigned body before after,
          statement.sql =
            "UPDATE " ++ mapping.table ++ " SET " ++ assigned ++ " WHERE " ++ body ∧
          statement.params = before ++ after ∧
          after.map command.root = (Predicate.signsOf (mapping.predicates command)).map some ∧
          ReadsLive dialect (before.length + 1) after body (mapping.predicates command) f
            marker) ∧
    (∀ target statement, (Command.delete target true).statement schema dialect = .ok statement →
      ∃ condition, statement.sql = "UPDATE " ++ mapping.table ++ " SET " ++ f.column ++ " = " ++
        marker.deleted ++ " WHERE " ++ condition) ∧
    ∀ truth factors, Factor.someHold truth [factors ++ [liveFactor f marker]] = true →
      truth (liveFactor f marker) = true := by
  have schemaOf := Schema.to_schema_of_mapping mapped
  refine ⟨select_built mapped dialect, ?_, ?_, ?_, ?_⟩
  · intro target body params values trusted clause
    unfold Mapping.selectClause at clause
    cases failed : (mapping.targetDraft target).failure with
    | some e =>
        rw [failed] at clause
        cases clause
    | none =>
        rw [failed] at clause
        cases clause
        have columns := identifiers_of_command mapped identifiers (.select target default) trusted
        have live := reads_live (mapping.conjoins_target target) failed columns identifiers marked
          literal dialect 1
        rw [← schemaOf] at live
        exact ⟨rfl, live⟩
  · intro command statement update trusted built
    obtain ⟨assignments, condition, conjoins, selected, text, params⟩ :=
      update_built mapped update built
    refine ⟨_, _, _, _, text, params, conjoins.values selected, ?_⟩
    have columns := identifiers_of_command mapped identifiers command trusted
    have live := reads_live conjoins selected columns identifiers marked literal dialect
      ((paramPaths assignments.pieces).length + 1)
    rwa [← schemaOf] at live
  · exact fun target statement built => delete_built mapped marked built
  · exact fun truth factors => Factor.last_holds truth factors (liveFactor f marker)

def ownedAccounts : Target :=
  .criteria ⟨[.group .or [.compare .eq "owner_name" (.text "x OR 1=1"),
    .compare .eq "owner_name" .null, .compare .ne "is_closed" (.int 0)], .member "id" [] true],
    [⟨"id", false⟩], ["owner_name"]⟩

def closedField : Field :=
  ⟨"closed", "is_closed", .integer, none, false, some ⟨"1", "0"⟩, .never⟩

theorem owned_accounts_keep_live :
    ∃ (body : String) (params : List Path) (values : List Value) (mapping : Mapping),
      Identifiers accounts.columns ∧ Identifiers ownedAccounts.columns ∧
      accounts.marked.head? = some (closedField, ⟨"1", "0"⟩) ∧
      Precedence.isLiteral "0" = true ∧
      body =
        "(owner_name = $1 OR owner_name IS NULL OR is_closed <> $2) AND 1=1 AND is_closed = 0" ∧
      (Command.select ownedAccounts (.ofFlags [])).statement accounts .postgres =
        .ok ⟨mapping.selectText .postgres ownedAccounts (.ofFlags []) body, params⟩ ∧
      (Command.select ownedAccounts (.ofFlags [.forUpdate, .exists])).build accounts .postgres =
        .ok ⟨mapping.selectText .postgres ownedAccounts (.ofFlags [.forUpdate, .exists]) body,
          values⟩ ∧
      mapping.selectText .postgres ownedAccounts (.ofFlags [.forUpdate, .exists]) body =
        "SELECT COUNT(1) FROM account WHERE " ++ body ++
          " GROUP BY owner_name LIMIT 1 FOR UPDATE" ∧
      values = [.text "x OR 1=1", .int 0] ∧
      ReadsLive .postgres 1 params body (mapping.targetPredicates ownedAccounts) closedField
        ⟨"1", "0"⟩ := by
  have identifiers : Identifiers accounts.columns := by
    unfold Identifiers
    decide
  have trusted : Identifiers ownedAccounts.columns := by
    unfold Identifiers
    decide
  have literal : Precedence.isLiteral "0" = true := by decide
  have mapped : accounts.mapping = .ok ⟨accounts, by decide⟩ := rfl
  have marked : accounts.marked.head? = some (closedField, ⟨"1", "0"⟩) := rfl
  obtain ⟨built, reads, -⟩ := live_filter_governs mapped identifiers marked literal .postgres
  have clause : Mapping.selectClause ⟨accounts, by decide⟩ .postgres ownedAccounts =
      .ok (_, _, _) := rfl
  obtain ⟨values, live⟩ := reads _ _ _ _ trusted clause
  have first := (built ownedAccounts (.ofFlags [])).1
  have second := (built ownedAccounts (.ofFlags [.forUpdate, .exists])).2
  rw [clause] at first second
  exact ⟨_, _, _, _, identifiers, trusted, marked, literal, by decide +kernel, first, second,
    by decide +kernel, rfl, live⟩

end BoundSql
