import Mathlib
import BoundSql.Draft

/-!
Drafts that are complete. A draft put together from parts is complete exactly when every part
is, and then its pieces are those of the parts in order: first one part, then each further part
behind its separator. The text of the pieces is read off with the number of the next
placeholder, which every parameter before it has moved on by one.
-/

namespace BoundSql

namespace Draft

theorem failure_append (first second : Draft) :
    (first ++ second).failure = first.failure.or second.failure := by
  cases failed : first.failure with
  | none => rw [append_of_failure_eq_none failed, Option.none_or]
  | some error =>
      have notNone : first.failure ≠ none := by simp [failed]
      rw [append_of_failure_ne_none notNone, failed, Option.some_or]

theorem complete_append_iff (first second : Draft) :
    (first ++ second).failure = none ↔ first.failure = none ∧ second.failure = none := by
  rw [failure_append]
  cases first.failure <;> simp

theorem pieces_append {first : Draft} (complete : first.failure = none) (second : Draft) :
    (first ++ second).pieces = first.pieces ++ second.pieces := by
  rw [append_of_failure_eq_none complete]

theorem joined_cons_cons (separator : String) (draft next : Draft) (rest : List Draft) :
    joined separator (draft :: next :: rest) =
      draft ++ (text separator ++ joined separator (next :: rest)) := rfl

theorem failure_joined (separator : String) (drafts : List Draft) :
    (joined separator drafts).failure = drafts.findSome? failure := by
  induction drafts with
  | nil => rfl
  | cons draft rest ih =>
      cases rest with
      | nil => cases failed : draft.failure <;> simp [joined, failed]
      | cons next rest =>
          rw [joined_cons_cons, failure_append, failure_append, ih]
          cases failed : draft.failure <;> simp [failed, text]

theorem complete_joined_iff (separator : String) (drafts : List Draft) :
    (joined separator drafts).failure = none ↔ ∀ draft ∈ drafts, draft.failure = none := by
  rw [failure_joined, List.findSome?_eq_none_iff]

/-- The pieces of joined drafts, in the shape in which a list is read: one item, then a
separator and an item as often as there are more. -/
theorem pieces_joined (separator : String) (first : Draft) (rest : List Draft)
    (complete : (joined separator (first :: rest)).failure = none) :
    (joined separator (first :: rest)).pieces =
      first.pieces ++ rest.flatMap fun draft => .text separator :: draft.pieces := by
  induction rest generalizing first with
  | nil => simp [joined]
  | cons next rest ih =>
      rw [joined_cons_cons, complete_append_iff, complete_append_iff] at complete
      obtain ⟨firstComplete, textComplete, restComplete⟩ := complete
      rw [joined_cons_cons, pieces_append firstComplete, pieces_append textComplete,
        ih next restComplete, List.flatMap_cons]
      rfl

def positionPaths (base : Path) (length : Nat) : List Path :=
  (List.range length).map fun i => base ++ [.index i]

theorem length_position_paths (base : Path) (length : Nat) :
    (positionPaths base length).length = length := by
  simp [positionPaths]

theorem positions_eq_joined (base : Path) (length : Nat) :
    positions base length = joined ", " ((positionPaths base length).map param) := by
  rw [positions, positionPaths, List.map_map]
  rfl

theorem complete_params (paths : List Path) :
    ∀ draft ∈ paths.map param, draft.failure = none := by
  intro draft member
  obtain ⟨path, -, rfl⟩ := List.mem_map.mp member
  rfl

theorem complete_positions (base : Path) (length : Nat) :
    (positions base length).failure = none := by
  rw [positions_eq_joined, complete_joined_iff]
  exact complete_params _

theorem pieces_params (separator : String) (path : Path) (rest : List Path) :
    (joined separator ((path :: rest).map param)).pieces =
      .param path :: rest.flatMap fun other => [.text separator, .param other] := by
  have complete : (joined separator ((path :: rest).map param)).failure = none := by
    rw [complete_joined_iff]
    exact complete_params _
  rw [List.map_cons] at complete ⊢
  rw [pieces_joined separator _ _ complete, List.flatMap_map]
  rfl

theorem statement_eq_ok_iff (draft : Draft) (dialect : Dialect) (statement : Statement) :
    draft.statement dialect = .ok statement ↔
      draft.failure = none ∧
        statement = ⟨dialect.sql draft.pieces, paramPaths draft.pieces⟩ := by
  unfold Draft.statement
  cases failed : draft.failure with
  | none => simp [eq_comm]
  | some error => simp

end Draft

namespace Dialect

/-- The characters of the pieces, when the next parameter has this number. -/
def spelling (dialect : Dialect) (number : Nat) (pieces : List Piece) : List Char :=
  (dialect.texts number pieces).flatMap String.toList

def marks (dialect : Dialect) : Nat → List Path → List String
  | _, [] => []
  | number, path :: rest => dialect.placeholder number path :: dialect.marks (number + 1) rest

theorem to_list_sql (dialect : Dialect) (pieces : List Piece) :
    (dialect.sql pieces).toList = dialect.spelling 1 pieces := by
  rw [sql, String.toList_join, spelling]

@[simp] theorem spelling_nil (dialect : Dialect) (number : Nat) :
    dialect.spelling number [] = [] := rfl

@[simp] theorem spelling_text (dialect : Dialect) (number : Nat) (s : String)
    (rest : List Piece) :
    dialect.spelling number (.text s :: rest) = s.toList ++ dialect.spelling number rest := by
  simp only [spelling, texts, List.flatMap_cons]

@[simp] theorem spelling_param (dialect : Dialect) (number : Nat) (path : Path)
    (rest : List Piece) :
    dialect.spelling number (.param path :: rest) =
      (dialect.placeholder number path).toList ++ dialect.spelling (number + 1) rest := by
  simp only [spelling, texts, List.flatMap_cons]

theorem spelling_append (dialect : Dialect) (number : Nat) (first second : List Piece) :
    dialect.spelling number (first ++ second) =
      dialect.spelling number first ++
        dialect.spelling (number + (paramPaths first).length) second := by
  simp only [spelling, texts_append, List.flatMap_append]

theorem marks_append (dialect : Dialect) (number : Nat) (first second : List Path) :
    dialect.marks number (first ++ second) =
      dialect.marks number first ++ dialect.marks (number + first.length) second := by
  induction first generalizing number with
  | nil => rfl
  | cons path first ih =>
      rw [List.cons_append, marks, marks, ih, List.cons_append, List.length_cons,
        Nat.add_assoc number 1, Nat.add_comm 1]

theorem spelling_params (dialect : Dialect) (separator : String) (number : Nat)
    (paths : List Path) :
    dialect.spelling number (paths.flatMap fun path => [.text separator, .param path]) =
      (dialect.marks number paths).flatMap fun mark => separator.toList ++ mark.toList := by
  induction paths generalizing number with
  | nil => rfl
  | cons path paths ih =>
      rw [List.flatMap_cons, List.cons_append, List.cons_append, List.nil_append, spelling_text,
        spelling_param, ih, marks, List.flatMap_cons, List.append_assoc]

theorem length_marks (dialect : Dialect) (number : Nat) (paths : List Path) :
    (dialect.marks number paths).length = paths.length := by
  induction paths generalizing number with
  | nil => rfl
  | cons path paths ih => rw [marks, List.length_cons, ih, List.length_cons]

end Dialect

@[simp] theorem param_paths_nil : paramPaths [] = [] := rfl

@[simp] theorem param_paths_text (s : String) (rest : List Piece) :
    paramPaths (.text s :: rest) = paramPaths rest := rfl

@[simp] theorem param_paths_param (path : Path) (rest : List Piece) :
    paramPaths (.param path :: rest) = path :: paramPaths rest := rfl

theorem param_paths_flatMap {α : Type} (items : List α) (f : α → List Piece) :
    paramPaths (items.flatMap f) = items.flatMap fun item => paramPaths (f item) := by
  induction items with
  | nil => rfl
  | cons item items ih =>
      rw [List.flatMap_cons, param_paths_append, ih, List.flatMap_cons]

theorem param_paths_joined (separator : String) (drafts : List Draft)
    (complete : ∀ draft ∈ drafts, draft.failure = none) :
    paramPaths (Draft.joined separator drafts).pieces =
      drafts.flatMap fun draft => paramPaths draft.pieces := by
  cases drafts with
  | nil => rfl
  | cons first rest =>
      rw [Draft.pieces_joined separator first rest
        ((Draft.complete_joined_iff separator _).mpr complete), param_paths_append,
        param_paths_flatMap, List.flatMap_cons]
      rfl

theorem param_paths_positions (base : Path) (length : Nat) :
    paramPaths (Draft.positions base length).pieces = Draft.positionPaths base length := by
  rw [Draft.positions_eq_joined, param_paths_joined _ _ (Draft.complete_params _),
    List.flatMap_map]
  exact List.flatMap_singleton' _

end BoundSql
