import Mathlib
import BoundSql.Command.Sql
import BoundSql.Proofs.Writing.Writer

/-!
What statements of different dialects have in common. The text of a statement is made of literals
and placeholders in turn. The literals, the paths of the placeholders and their order are those
of a template, which is the same for all dialects; a dialect only decides how the placeholder of a
number and a path looks. The placeholders are numbered from one in the order of the text, over all
clauses, also those of writes that failed. Whether something fails, and how, does not depend on
the dialect.
-/

namespace BoundSql

/-- A literal, and then paths with the literals that follow their placeholders. -/
structure Template where
  first : String
  rest : List (Path × String)
deriving DecidableEq, Repr, Inhabited

namespace Template

/-- Placeholders, numbered from this number on, each with the literal behind it. -/
def weave (dialect : Dialect) : Nat → List (Path × String) → String
  | _, [] => ""
  | number, (path, literal) :: rest =>
      dialect.placeholder number path ++ literal ++ weave dialect (number + 1) rest

def sql (template : Template) (dialect : Dialect) : String :=
  template.first ++ weave dialect 1 template.rest

def params (template : Template) : List Path := template.rest.map (·.1)

def statement (template : Template) (dialect : Dialect) : Statement :=
  ⟨template.sql dialect, template.params⟩

/-- The template of pieces: literals in a row become one, and an empty one stands between two
parameters in a row. -/
def ofPieces : List Piece → Template
  | [] => ⟨"", []⟩
  | .text s :: pieces => ⟨s ++ (ofPieces pieces).first, (ofPieces pieces).rest⟩
  | .param path :: pieces => ⟨"", (path, (ofPieces pieces).first) :: (ofPieces pieces).rest⟩

theorem params_of_pieces (pieces : List Piece) :
    (ofPieces pieces).params = paramPaths pieces := by
  induction pieces with
  | nil => rfl
  | cons piece pieces ih =>
      cases piece with
      | text s => exact ih
      | param path => exact congrArg (path :: ·) ih

theorem join_texts (dialect : Dialect) (number : Nat) (pieces : List Piece) :
    String.join (dialect.texts number pieces) =
      (ofPieces pieces).first ++ weave dialect number (ofPieces pieces).rest := by
  induction pieces generalizing number with
  | nil => rfl
  | cons piece pieces ih =>
      cases piece with
      | text s => rw [Dialect.texts, String.join_cons, ih, ofPieces, String.append_assoc]
      | param path =>
          rw [Dialect.texts, String.join_cons, ih, ofPieces, weave, String.empty_append,
            String.append_assoc]

theorem statement_of_pieces (dialect : Dialect) (pieces : List Piece) :
    (ofPieces pieces).statement dialect = ⟨dialect.sql pieces, paramPaths pieces⟩ := by
  rw [statement, params_of_pieces, sql, ← join_texts, Dialect.sql]

end Template

/-- A way to make a statement that depends on the dialect only by the look of the placeholders. -/
structure DialectFree (make : Dialect → Except Error Statement) : Prop where
  text : (∃ e, ∀ dialect, make dialect = .error e) ∨
    ∃ template : Template, ∀ dialect, make dialect = .ok (template.statement dialect)
  values : ∀ root, ∃ values, ∀ dialect,
    (make dialect >>= fun statement => statement.bind root) = values

namespace DialectFree

theorem fail (e : Error) : DialectFree fun _ => .error e :=
  ⟨Or.inl ⟨e, fun _ => rfl⟩, fun _ => ⟨.error e, fun _ => rfl⟩⟩

theorem of_template (template : Template) :
    DialectFree fun dialect => .ok (template.statement dialect) :=
  ⟨Or.inr ⟨template, fun _ => rfl⟩,
    fun root => ⟨template.params.mapM (bindPath root), fun _ => rfl⟩⟩

theorem of_draft (draft : Draft) : DialectFree draft.statement := by
  unfold Draft.statement
  cases draft.failure with
  | some error => exact fail error
  | none =>
      simp only [← Template.statement_of_pieces]
      exact of_template _

theorem after {α : Type} (check : Except Error α) {make : α → Dialect → Except Error Statement}
    (free : ∀ a, DialectFree (make a)) : DialectFree fun dialect => check >>= (make · dialect) := by
  cases check with
  | error e => exact fail e
  | ok a => exact free a

end DialectFree

/-- The writes of a run end alike in all dialects, and what they put down is one template. -/
theorem run_shares_template (writes : List Write) :
    ∃ (outcomes : List (Except Error Unit)) (template : Template), ∀ dialect,
      Writer.performAll writes (.new dialect) =
        (outcomes, ⟨dialect, template.sql dialect, template.params⟩) ∧
      Write.transcript writes dialect = template.statement dialect := by
  refine ⟨writes.map fun write => write.draft.outcome, .ofPieces (Write.pieces writes), ?_⟩
  intro dialect
  have same := Template.statement_of_pieces dialect (Write.pieces writes)
  refine ⟨?_, same.symm⟩
  injection same with sameSql sameParams
  rw [Writer.perform_all_eq, Writer.extend_new, sameSql, sameParams]

namespace Command

theorem statement_dialect_free (command : Command) (schema : Schema) :
    DialectFree (command.statement schema) :=
  .after schema.mapping fun mapping => .of_draft (mapping.draft command)

theorem values_of_build (command : Command) (schema : Schema) (dialect : Dialect) :
    (command.build schema dialect).map (·.values) =
      command.statement schema dialect >>= fun statement => statement.bind command.root := by
  unfold build Statement.bound
  cases command.statement schema dialect with
  | error e => rfl
  | ok statement =>
      show Except.map _ (statement.bind command.root >>= _) = statement.bind command.root
      cases statement.bind command.root <;> rfl

theorem build_dialect_free (command : Command) (schema : Schema) :
    ∃ values, ∀ dialect, (command.build schema dialect).map (·.values) = values := by
  obtain ⟨values, same⟩ := (command.statement_dialect_free schema).values command.root
  refine ⟨values, ?_⟩
  intro dialect
  rw [values_of_build]
  exact same dialect

end Command

/-- A run of writes puts down a template, whichever the dialect, and so does every statement. -/
theorem templates_independent_of_dialect :
    (∀ writes, ∃ (outcomes : List (Except Error Unit)) (template : Template), ∀ dialect,
      Writer.performAll writes (.new dialect) =
        (outcomes, ⟨dialect, template.sql dialect, template.params⟩) ∧
      Write.transcript writes dialect = template.statement dialect) ∧
    (∀ c : Condition, DialectFree c.statement) ∧
    (∀ criteria : Criteria, DialectFree criteria.statement) ∧
    (∀ changes : ChangeSet, DialectFree changes.statement) ∧
    ∀ (command : Command) (schema : Schema), DialectFree (command.statement schema) ∧
      ∃ values, ∀ dialect, (command.build schema dialect).map (·.values) = values := by
  refine ⟨run_shares_template, ?_, ?_, ?_, ?_⟩
  · intro c
    exact .after c.checkColumns fun _ => .of_draft (c.draft [])
  · intro criteria
    exact .of_draft (criteria.draft [])
  · intro changes
    exact .of_draft (changes.draft [])
  · intro command schema
    exact ⟨command.statement_dialect_free schema, command.build_dialect_free schema⟩

example :
    (Write.transcript
      [.condition (.group .or [.compare .eq "name" (.text "Ada"), .compare .gt "age" .null]) [],
        .clause [.compare .lt "age" (.int 30)] []] .sqlite).sql =
      "(name = ?1 OR age < ?2" := by
  decide +kernel

end BoundSql
