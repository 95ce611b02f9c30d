import BoundSql.Error
import BoundSql.Path

/-!
SQL text in the making. A draft is a list of literal texts and parameters in the order in which
they are written; which sign stands for a parameter is decided last, by the dialect, when the
draft becomes a statement. A write that fails keeps what was written before it.
-/

namespace BoundSql

inductive Dialect where
  | named
  | postgres
  | sqlite
  | mysql
deriving DecidableEq, Repr, Inhabited

def Dialect.placeholder (dialect : Dialect) (number : Nat) (path : Path) : String :=
  match dialect with
  | .named => "#\x7b" ++ path.text ++ "\x7d"
  | .postgres => "$" ++ toString number
  | .sqlite => "?" ++ toString number
  | .mysql => "?"

inductive Piece where
  | text (s : String)
  | param (path : Path)
deriving DecidableEq, Repr, Inhabited

/-- The texts of the pieces, when the next parameter has this number. -/
def Dialect.texts (dialect : Dialect) : Nat → List Piece → List String
  | _, [] => []
  | number, .text s :: rest => s :: dialect.texts number rest
  | number, .param path :: rest =>
      dialect.placeholder number path :: dialect.texts (number + 1) rest

def Dialect.sql (dialect : Dialect) (pieces : List Piece) : String :=
  String.join (dialect.texts 1 pieces)

def Piece.path? : Piece → Option Path
  | .text _ => none
  | .param path => some path

def paramPaths (pieces : List Piece) : List Path := pieces.filterMap Piece.path?

theorem param_paths_append (first second : List Piece) :
    paramPaths (first ++ second) = paramPaths first ++ paramPaths second :=
  List.filterMap_append

/-- Numbering goes on where the pieces before left off. -/
theorem Dialect.texts_append (dialect : Dialect) (number : Nat) (first second : List Piece) :
    dialect.texts number (first ++ second) =
      dialect.texts number first ++ dialect.texts (number + (paramPaths first).length) second := by
  induction first generalizing number with
  | nil => rfl
  | cons piece rest ih =>
    cases piece with
    | text s =>
      simp only [List.cons_append, texts, ih, paramPaths, Piece.path?, List.filterMap_cons]
    | param path =>
      simp only [List.cons_append, texts, ih, paramPaths, Piece.path?, List.filterMap_cons,
        List.length_cons]
      rw [Nat.add_assoc, Nat.add_comm 1]

/-- The pieces written so far, and why writing stopped if it did. -/
structure Draft where
  pieces : List Piece
  failure : Option Error
deriving DecidableEq, Repr, Inhabited

namespace Draft

def empty : Draft := ⟨[], none⟩

def text (s : String) : Draft := ⟨[.text s], none⟩

def param (path : Path) : Draft := ⟨[.param path], none⟩

def fail (error : Error) : Draft := ⟨[], some error⟩

/-- One draft after the other; nothing is written after a failure. -/
def append (first second : Draft) : Draft :=
  match first.failure with
  | some _ => first
  | none => ⟨first.pieces ++ second.pieces, second.failure⟩

instance : Append Draft := ⟨append⟩

@[simp]
theorem append_empty (draft : Draft) : draft ++ empty = draft := by
  obtain ⟨pieces, failure⟩ := draft
  cases failure with
  | none => exact congrArg (Draft.mk · none) (List.append_nil pieces)
  | some error => rfl

theorem append_of_failure_eq_none {first : Draft} (complete : first.failure = none)
    (second : Draft) :
    first ++ second = ⟨first.pieces ++ second.pieces, second.failure⟩ := by
  show append first second = _
  simp only [append, complete]

theorem append_of_failure_ne_none {first : Draft} (failed : first.failure ≠ none)
    (second : Draft) : first ++ second = first := by
  show append first second = _
  unfold append
  split
  · rfl
  · contradiction

def joined (separator : String) : List Draft → Draft
  | [] => empty
  | [draft] => draft
  | draft :: rest => draft ++ (text separator ++ joined separator rest)

def positions (base : Path) (length : Nat) : Draft :=
  joined ", " ((List.range length).map fun i => param (base ++ [.index i]))

/-- What must not fail comes first: the draft is written only if the check succeeds. -/
def after {α : Type} (check : Except Error α) (draft : α → Draft) : Draft :=
  match check with
  | .ok a => draft a
  | .error e => fail e

end Draft

structure Statement where
  sql : String
  params : List Path
deriving DecidableEq, Repr, Inhabited

structure BoundStatement where
  sql : String
  values : List Value
deriving DecidableEq, Repr, Inhabited

def Draft.statement (draft : Draft) (dialect : Dialect) : Except Error Statement :=
  match draft.failure with
  | some error => .error error
  | none => .ok ⟨dialect.sql draft.pieces, paramPaths draft.pieces⟩

def bindPath (root : Resolver) (path : Path) : Except Error Value :=
  match root path with
  | some value => .ok value
  | none => .error (.unresolved path.text)

namespace Statement

def bind (statement : Statement) (root : Resolver) : Except Error (List Value) :=
  statement.params.mapM (bindPath root)

def bound (statement : Statement) (root : Resolver) : Except Error BoundStatement := do
  let values ← statement.bind root
  return ⟨statement.sql, values⟩

end Statement

end BoundSql
