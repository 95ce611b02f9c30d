import Mathlib
import BoundSql.Proofs.Command.LiveRows

/-!
Targets that are keys. A key or a list of keys is written by itself, and its placeholders lie under
paths of its own; the same rows can be asked for by criteria on the column of the key. Where
placeholders are numbered, the two are written alike, because drafts that differ only in the paths
of their parameters have one text. The values are the same in every dialect. Marking rows as
deleted and removing them differ only in what stands before the conditions of the target.
-/

namespace BoundSql

def Piece.bare : Piece → Piece
  | .text s => .text s
  | .param _ => .param []

namespace Dialect

variable {dialect : Dialect}

/-- A numbered placeholder does not show its path. -/
theorem placeholder_of_numbered (numbered : dialect ≠ .named) (number : Nat) (path : Path) :
    dialect.placeholder number [] = dialect.placeholder number path := by
  cases dialect with
  | named => exact absurd rfl numbered
  | postgres => rfl
  | sqlite => rfl
  | mysql => rfl

theorem spelling_bare (numbered : dialect ≠ .named) (number : Nat) (pieces : List Piece) :
    dialect.spelling number (pieces.map Piece.bare) = dialect.spelling number pieces := by
  induction pieces generalizing number with
  | nil => rfl
  | cons piece pieces ih =>
      rw [List.map_cons]
      cases piece with
      | text s => rw [Piece.bare, spelling_text, spelling_text, ih]
      | param path =>
          rw [Piece.bare, spelling_param, spelling_param, ih,
            placeholder_of_numbered numbered number path]

end Dialect

namespace Draft

/-- The draft with all parameters at the empty path. -/
def bare (draft : Draft) : Draft := ⟨draft.pieces.map Piece.bare, draft.failure⟩

theorem bare_append (first second : Draft) :
    (first ++ second).bare = first.bare ++ second.bare := by
  cases failed : first.failure with
  | none =>
      have complete : first.bare.failure = none := failed
      rw [append_of_failure_eq_none failed, append_of_failure_eq_none complete]
      simp only [bare, List.map_append]
  | some e =>
      have stopped : first.failure ≠ none := by simp [failed]
      have bareStopped : first.bare.failure ≠ none := stopped
      rw [append_of_failure_ne_none stopped, append_of_failure_ne_none bareStopped]

theorem bare_text (s : String) : (text s).bare = text s := rfl

theorem bare_joined (separator : String) (drafts : List Draft) :
    (joined separator drafts).bare = joined separator (drafts.map bare) := by
  induction drafts with
  | nil => rfl
  | cons draft rest ih =>
      cases rest with
      | nil => rfl
      | cons next rest =>
          rw [joined_cons_cons, bare_append, bare_append, ih, bare_text]
          rfl

theorem bare_positions (base : Path) (length : Nat) :
    (positions base length).bare = joined ", " (List.replicate length (param [])) := by
  rw [positions, bare_joined, List.map_map]
  have alike : (bare ∘ fun i => param (base ++ [.index i])) = fun _ => param [] := rfl
  rw [alike, List.map_const', List.length_range]

end Draft

namespace Mapping

/-- The conditions of a target as a statement has them that binds nothing before, with the values
of their placeholders. -/
def targetClause (mapping : Mapping) (dialect : Dialect) (target : Target) :
    Except Error BoundStatement :=
  match (mapping.targetDraft target).failure with
  | some e => .error e
  | none => .ok
      ⟨String.ofList (dialect.spelling 1 (mapping.targetDraft target).pieces),
        Predicate.signsOf (mapping.targetPredicates target)⟩

/-- What stands before the conditions of a DELETE, or of the UPDATE that marks rows as deleted. -/
def deleteHead (mapping : Mapping) : Bool → Except Error String
  | false => .ok ("DELETE FROM " ++ mapping.table ++ " WHERE ")
  | true => mapping.requireMarked.map fun marked =>
      "UPDATE " ++ mapping.table ++ " SET " ++ marked.1.column ++ " = " ++ marked.2.deleted ++
        " WHERE "

variable {schema : Schema} {mapping : Mapping}

theorem select_of_clause (mapped : schema.mapping = .ok mapping) (dialect : Dialect)
    (target : Target) (options : SelectOptions) :
    (Command.select target options).build schema dialect =
      (mapping.targetClause dialect target).map fun clause =>
        ⟨mapping.selectText dialect target options (clause.sql ++ mapping.liveFilter),
          clause.values⟩ := by
  rw [(select_built mapped dialect target options).2, selectClause, targetClause]
  cases (mapping.targetDraft target).failure <;> rfl

theorem build_of_head {command : Command} {target : Target} {head : String}
    (mapped : schema.mapping = .ok mapping)
    (draft : mapping.draft command = .text head ++ mapping.targetDraft target)
    (root : command.root = target.resolve) (dialect : Dialect) :
    command.build schema dialect =
      (mapping.targetClause dialect target).map fun clause =>
        ⟨head ++ clause.sql, clause.values⟩ := by
  have written : command.statement schema dialect =
      (Draft.text head ++ mapping.targetDraft target).statement dialect := by
    rw [Command.statement, mapped, ← draft]
    rfl
  have failure : (Draft.text head ++ mapping.targetDraft target).failure =
      (mapping.targetDraft target).failure := by
    rw [Draft.failure_append]
    rfl
  rw [targetClause]
  cases failed : (mapping.targetDraft target).failure with
  | some e =>
      have stopped : (mapping.draft command).failure = some e := by
        rw [draft, failure, failed]
      rw [Command.build_of_failure mapped stopped]
      rfl
  | none =>
      have pieces : (Draft.text head ++ mapping.targetDraft target).pieces =
          .text head :: (mapping.targetDraft target).pieces := by
        rw [Draft.pieces_append rfl]
        rfl
      have text : dialect.sql (.text head :: (mapping.targetDraft target).pieces) =
          head ++ String.ofList (dialect.spelling 1 (mapping.targetDraft target).pieces) := by
        apply String.toList_injective
        rw [Dialect.to_list_sql, Dialect.spelling_text, String.toList_append, String.toList_ofList]
      have built : command.statement schema dialect =
          .ok ⟨head ++ String.ofList (dialect.spelling 1 (mapping.targetDraft target).pieces),
            paramPaths (mapping.targetDraft target).pieces⟩ := by
        rw [written, Draft.statement_eq_ok_iff, failure, pieces, text]
        exact ⟨failed, rfl⟩
      have bound : (paramPaths (mapping.targetDraft target).pieces).mapM
          (bindPath target.resolve) =
            .ok (Predicate.signsOf (mapping.targetPredicates target)) :=
        bind_of_found ((mapping.conjoins_target target).values failed)
      rw [Command.build_eq_map built, root, Statement.bind, bound]
      rfl

theorem delete_of_clause (mapped : schema.mapping = .ok mapping) (dialect : Dialect)
    (target : Target) (logical : Bool) :
    (Command.delete target logical).build schema dialect =
      (mapping.deleteHead logical).bind fun head =>
        (mapping.targetClause dialect target).map fun clause =>
          ⟨head ++ clause.sql, clause.values⟩ := by
  cases logical with
  | false => exact build_of_head mapped rfl rfl dialect
  | true =>
      cases required : mapping.requireMarked with
      | error e =>
          have stopped : (mapping.draft (.delete target true)).failure = some e := by
            rw [Mapping.draft, required]
            rfl
          rw [Command.build_of_failure mapped stopped, deleteHead, required]
          rfl
      | ok marked =>
          have draft : mapping.draft (.delete target true) =
              .text ("UPDATE " ++ mapping.table ++ " SET " ++ marked.1.column ++ " = " ++
                marked.2.deleted ++ " WHERE ") ++ mapping.targetDraft target := by
            rw [Mapping.draft, required]
            rfl
          rw [deleteHead, required]
          exact build_of_head mapped draft rfl dialect

/-- Targets that differ only in the paths of their placeholders. -/
structure Interchangeable (mapping : Mapping) (first second : Target) : Prop where
  written : (mapping.targetDraft first).bare = (mapping.targetDraft second).bare
  predicates : mapping.targetPredicates first = mapping.targetPredicates second
  tail : ∀ options, selectTail options first = selectTail options second

section Interchangeable

variable {first second : Target} {dialect : Dialect}

theorem Interchangeable.failure (alike : mapping.Interchangeable first second) :
    (mapping.targetDraft first).failure = (mapping.targetDraft second).failure := by
  show (mapping.targetDraft first).bare.failure = (mapping.targetDraft second).bare.failure
  rw [alike.written]

theorem Interchangeable.clause (alike : mapping.Interchangeable first second)
    (numbered : dialect ≠ .named) :
    mapping.targetClause dialect first = mapping.targetClause dialect second := by
  have pieces : (mapping.targetDraft first).pieces.map Piece.bare =
      (mapping.targetDraft second).pieces.map Piece.bare := congrArg Draft.pieces alike.written
  have text := congrArg (dialect.spelling 1) pieces
  rw [Dialect.spelling_bare numbered, Dialect.spelling_bare numbered] at text
  rw [targetClause, targetClause, alike.failure, alike.predicates, text]

theorem Interchangeable.values (alike : mapping.Interchangeable first second)
    (dialect : Dialect) :
    (mapping.targetClause dialect first).map BoundStatement.values =
      (mapping.targetClause dialect second).map BoundStatement.values := by
  rw [targetClause, targetClause, alike.failure, alike.predicates]
  cases (mapping.targetDraft second).failure <;> rfl

end Interchangeable

theorem interchangeable_of_condition {target : Target} {c : Condition}
    (tail : ∀ options, selectTail options target = .text
      ((if options.limitOne then " LIMIT 1" else "") ++
        if options.forUpdate then " FOR UPDATE" else ""))
    (written : (mapping.targetDraft target).bare =
      (c.draft [.key "condition", .key "conditions", .index 0]).bare)
    (predicates : mapping.targetPredicates target = [c.normal]) :
    mapping.Interchangeable target (.criteria (.ofConditions [c])) where
  written := written
  predicates := predicates
  tail := by
    intro options
    rw [tail]
    cases counted : options.count <;> simp only [selectTail, counted] <;> rfl

theorem interchangeable_ids {key : Field} (found : mapping.requireKey = .ok key)
    (ids : List Value) :
    mapping.Interchangeable (.ids ids)
      (.criteria (.ofConditions [.member key.column ids false])) := by
  have keys := keys_of_require_key found
  apply interchangeable_of_condition (fun _ => rfl)
  · rw [targetDraft, found]
    cases ids with
    | nil => rfl
    | cons id ids =>
        rw [Condition.draft_member_cons]
        show (Draft.text _ ++ (Draft.positions _ _ ++ Draft.text ")")).bare = _
        rw [Draft.bare_append, Draft.bare_append, Draft.bare_append, Draft.bare_append,
          Draft.bare_positions, Draft.bare_positions]
        rfl
  · cases ids with
    | nil => rfl
    | cons id ids =>
        rw [targetPredicates, keys]
        rfl

theorem interchangeable_id {key : Field} (found : mapping.requireKey = .ok key) {id : Value}
    (given : id.isNull = false) :
    mapping.Interchangeable (.id id)
      (.criteria (.ofConditions [.compare .eq key.column id])) := by
  have keys := keys_of_require_key found
  apply interchangeable_of_condition (fun _ => rfl)
  · rw [targetDraft, found, Condition.draft_compare_of_value _ _ _ given]
    show (if id.isNull then _ else keyEquals key _).bare = _
    rw [given, keyEquals, String.append_assoc, String.append_assoc]
    rfl
  · rw [targetPredicates, keys, Condition.normal, given]
    rfl

end Mapping

/-- Commands on these targets bind the same values, and where placeholders are numbered they are
the same statements, or fail in the same way. -/
structure BuildAlike (schema : Schema) (first second : Target) : Prop where
  select : ∀ dialect flags, dialect ≠ .named →
    (Command.select first (.ofFlags flags)).build schema dialect =
      (Command.select second (.ofFlags flags)).build schema dialect
  delete : ∀ dialect logical, dialect ≠ .named →
    (Command.delete first logical).build schema dialect =
      (Command.delete second logical).build schema dialect
  selectValues : ∀ dialect flags,
    ((Command.select first (.ofFlags flags)).build schema dialect).map BoundStatement.values =
      ((Command.select second (.ofFlags flags)).build schema dialect).map BoundStatement.values
  deleteValues : ∀ dialect logical,
    ((Command.delete first logical).build schema dialect).map BoundStatement.values =
      ((Command.delete second logical).build schema dialect).map BoundStatement.values

theorem values_of_map_text {outcome : Except Error BoundStatement}
    (text : BoundStatement → String) :
    (outcome.map fun clause => ⟨text clause, clause.values⟩).map BoundStatement.values =
      outcome.map BoundStatement.values := by
  cases outcome <;> rfl

section Agreement

variable {schema : Schema} {mapping : Mapping}

theorem build_alike_of_interchangeable (mapped : schema.mapping = .ok mapping)
    {first second : Target} (alike : mapping.Interchangeable first second) :
    BuildAlike schema first second where
  select dialect flags numbered := by
    rw [Mapping.select_of_clause mapped, Mapping.select_of_clause mapped, alike.clause numbered]
    simp only [Mapping.selectText, alike.tail]
  delete dialect logical numbered := by
    rw [Mapping.delete_of_clause mapped, Mapping.delete_of_clause mapped, alike.clause numbered]
  selectValues dialect flags := by
    rw [Mapping.select_of_clause mapped, Mapping.select_of_clause mapped, values_of_map_text,
      values_of_map_text, alike.values]
  deleteValues dialect logical := by
    rw [Mapping.delete_of_clause mapped, Mapping.delete_of_clause mapped]
    cases mapping.deleteHead logical with
    | error e => rfl
    | ok head =>
        show (Except.map _ _).map _ = (Except.map _ _).map _
        rw [values_of_map_text, values_of_map_text, alike.values]

theorem build_alike_of_unmapped {e : Error} (unmapped : schema.mapping = .error e)
    (first second : Target) : BuildAlike schema first second := by
  have refused := Command.build_of_unmapped unmapped
  constructor <;> intros <;> rw [refused, refused]

theorem require_key_of_mem (mapped : schema.mapping = .ok mapping) {key : Field}
    (keyed : key ∈ schema.keys) : mapping.requireKey = .ok key := by
  have short := mapping.keys_length
  have same : mapping.keys = schema.keys := by rw [Schema.to_schema_of_mapping mapped]
  rw [← same] at keyed
  obtain ⟨only, single⟩ := List.length_eq_one_iff.mp
    (Nat.le_antisymm short (List.length_pos_of_mem keyed))
  rw [single, List.mem_singleton] at keyed
  rw [Mapping.requireKey, Mapping.key?, single, keyed]
  rfl

/-- What a logical delete selects and binds, the delete that removes rows selects and binds too. -/
theorem delete_marks_or_removes (mapped : schema.mapping = .ok mapping) {dialect : Dialect}
    {target : Target} {bound : BoundStatement}
    (built : (Command.delete target true).build schema dialect = .ok bound) :
    ∃ f marker body, schema.marked = [(f, marker)] ∧
      bound.sql = "UPDATE " ++ schema.table ++ " SET " ++ f.column ++ " = " ++ marker.deleted ++
        " WHERE " ++ body ∧
      (Command.delete target false).build schema dialect =
        .ok ⟨"DELETE FROM " ++ schema.table ++ " WHERE " ++ body, bound.values⟩ := by
  have schemaOf := Schema.to_schema_of_mapping mapped
  rw [Mapping.delete_of_clause mapped] at built ⊢
  cases required : mapping.requireMarked with
  | error e =>
      rw [Mapping.deleteHead, required] at built
      cases built
  | ok only =>
      rw [Mapping.deleteHead, required] at built
      have marked : schema.marked = [only] := by
        rw [← schemaOf]
        unfold Schema.requireMarked at required
        split at required
        · rename_i found
          cases required
          exact found
        · cases required
      cases clause : mapping.targetClause dialect target with
      | error e =>
          rw [clause] at built
          cases built
      | ok body =>
          rw [clause] at built
          cases built
          refine ⟨only.1, only.2, body.sql, marked, ?_, ?_⟩
          · rw [← schemaOf]
          · rw [← schemaOf]
            rfl

end Agreement

/-- Rows can be asked for by their keys or by criteria on the column of the key: the statements
are the same where placeholders are numbered, and the values are the same in all dialects. A
delete that marks rows as deleted has the conditions and the values of the one that removes
them. -/
theorem key_targets_agree_with_criteria (schema : Schema) :
    (∀ key ∈ schema.keys,
      (∀ ids, ∃ criteria,
        Criteria.ofSteps [.member (.field key.column) ids false false] = .ok criteria ∧
          BuildAlike schema (.ids ids) (.criteria criteria)) ∧
      ∀ id : Value, id.isNull = false → ∃ criteria,
        Criteria.ofSteps [.compare .eq (.field key.column) id true] = .ok criteria ∧
          BuildAlike schema (.id id) (.criteria criteria)) ∧
    ∀ target dialect bound,
      (Command.delete target true).build schema dialect = .ok bound →
        ∃ f marker body, schema.marked = [(f, marker)] ∧
          bound.sql = "UPDATE " ++ schema.table ++ " SET " ++ f.column ++ " = " ++
            marker.deleted ++ " WHERE " ++ body ∧
          (Command.delete target false).build schema dialect =
            .ok ⟨"DELETE FROM " ++ schema.table ++ " WHERE " ++ body, bound.values⟩ := by
  cases mapped : schema.mapping with
  | error e =>
      have same := build_alike_of_unmapped mapped
      refine ⟨?_, ?_⟩
      · intro key _
        refine ⟨fun ids => ⟨_, rfl, same _ _⟩, ?_⟩
        intro id given
        exact ⟨_, rfl, same _ _⟩
      · intro target dialect bound built
        rw [Command.build_of_unmapped mapped] at built
        cases built
  | ok mapping =>
      refine ⟨?_, fun target dialect bound built => delete_marks_or_removes mapped built⟩
      intro key keyed
      have found := require_key_of_mem mapped keyed
      refine ⟨fun ids => ⟨_, rfl, ?_⟩, ?_⟩
      · exact build_alike_of_interchangeable mapped (mapping.interchangeable_ids found ids)
      · intro id given
        have kept : Criteria.ofSteps [.compare .eq (.field key.column) id true] =
            .ok (.ofConditions [.compare .eq key.column id]) := by
          show Except.ok (Criteria.empty ++ if true && id.isNull then _ else _) = _
          rw [given]
          rfl
        exact ⟨_, kept,
          build_alike_of_interchangeable mapped (mapping.interchangeable_id found given)⟩

def accountKey : Field := ⟨"id", "id", .bigInt, some .assign, false, none, .never⟩

theorem accounts_by_key_or_criteria :
    accountKey ∈ accounts.keys ∧ Value.isNull (.bigInt 4) = false ∧
      (∃ criteria,
        Criteria.ofSteps [.member (.field "id") [.bigInt 4, .null] false false] = .ok criteria ∧
          (Command.select (.criteria criteria) (.ofFlags [.exists])).build accounts .postgres =
            .ok ⟨"SELECT COUNT(1) FROM account WHERE id IN ($1, $2) AND is_closed = 0 LIMIT 1",
              [.bigInt 4, .null]⟩) ∧
      (∃ criteria,
        Criteria.ofSteps [.compare .eq (.field "id") (.bigInt 4) true] = .ok criteria ∧
          (Command.delete (.criteria criteria) true).build accounts .sqlite =
            .ok ⟨"UPDATE account SET is_closed = 1 WHERE id = ?1", [.bigInt 4]⟩) ∧
      ∃ body,
        (Command.delete (.id (.bigInt 4)) true).build accounts .sqlite =
          .ok ⟨"UPDATE account SET is_closed = 1 WHERE id = ?1", [.bigInt 4]⟩ ∧
        (Command.delete (.id (.bigInt 4)) false).build accounts .sqlite =
          .ok ⟨"DELETE FROM account WHERE " ++ body, [.bigInt 4]⟩ := by
  obtain ⟨ofKey, ofDelete⟩ := key_targets_agree_with_criteria accounts
  have keyed : accountKey ∈ accounts.keys := by decide
  have given : Value.isNull (.bigInt 4) = false := rfl
  obtain ⟨among, listed, sameList⟩ := (ofKey accountKey keyed).1 [.bigInt 4, .null]
  obtain ⟨equal, single, sameKey⟩ := (ofKey accountKey keyed).2 (.bigInt 4) given
  have marking : (Command.delete (.id (.bigInt 4)) true).build accounts .sqlite =
      .ok ⟨"UPDATE account SET is_closed = 1 WHERE id = ?1", [.bigInt 4]⟩ := by
    decide +kernel
  obtain ⟨f, marker, body, -, -, removing⟩ := ofDelete _ _ _ marking
  refine ⟨keyed, given, ⟨among, listed, ?_⟩, ⟨equal, single, ?_⟩, body, marking, removing⟩
  · rw [← sameList.select .postgres [.exists] (by decide)]
    decide +kernel
  · rw [← sameKey.delete .sqlite true (by decide)]
    exact marking

end BoundSql
