import Mathlib
import BoundSql.Action
import BoundSql.Writing
import BoundSql.Proofs.Condition.Tree

/-!
Writing straight into the text of one dialect. A writer puts down every literal and every
placeholder at once; a placeholder has the number that follows from the ones before it. A write
that fails is not taken back: the writer keeps the part that was written. Each way of writing
puts down the pieces of the draft that it stands for, and ends as the draft does.
-/

namespace BoundSql

/-- SQL text in the making, in one dialect, and the paths of its placeholders so far. -/
structure Writer where
  dialect : Dialect
  sql : String
  params : List Path
deriving DecidableEq, Repr, Inhabited

def Draft.outcome (draft : Draft) : Except Error Unit :=
  match draft.failure with
  | some error => .error error
  | none => .ok ()

namespace Writer

def new (dialect : Dialect) : Writer := ⟨dialect, "", []⟩

def push (s : String) : Action Writer Unit := fun w => (.ok (), { w with sql := w.sql ++ s })

def param (path : Path) : Action Writer Unit := fun w =>
  (.ok (), { w with
    sql := w.sql ++ w.dialect.placeholder (w.params.length + 1) path
    params := w.params ++ [path] })

def separated (separator : Action Writer Unit) : List (Action Writer Unit) → Action Writer Unit
  | [] => pure ()
  | [write] => write
  | write :: rest => do
      write
      separator
      separated separator rest

def positions (base : Path) (length : Nat) : Action Writer Unit :=
  separated (push ", ") ((List.range length).map fun i => param (base ++ [.index i]))

def comparison (base : Path) (op : Comparison) (column : String) (value : Value) :
    Action Writer Unit :=
  if value.isNull then
    match op with
    | .eq => do
        push column
        push " IS NULL"
    | .ne => do
        push column
        push " IS NOT NULL"
    | _ => throw (.nullComparison column op.sql)
  else do
    push column
    push " "
    push op.sql
    push " "
    param (base ++ [.key "value"])

mutual

def condition (base : Path) : Condition → Action Writer Unit
  | .compare op column value => comparison base op column value
  | .nullTest column isNull => do
      push column
      push (if isNull then " IS NULL" else " IS NOT NULL")
  | .member _ [] negated => push (if negated then "1=1" else "1=0")
  | .member column values negated => do
      push column
      push (if negated then " NOT IN (" else " IN (")
      positions (base ++ [.key "values"]) values.length
      push ")"
  | .group _ [] => push "1=1"
  | .group logic children => do
      push "("
      separated (do
        push " "
        push logic.sql
        push " ") (conditions (base ++ [.key "children"]) 0 children)
      push ")"

/-- The writes of a list of conditions, the first one at the position `i` under `base`. -/
def conditions (base : Path) (i : Nat) : List Condition → List (Action Writer Unit)
  | [] => []
  | c :: cs => condition (base ++ [.index i]) c :: conditions base (i + 1) cs

end

def clause (base : Path) : List Condition → Action Writer Unit
  | [] => push "1=1"
  | cs => separated (push " AND ") (conditions (base ++ [.key "conditions"]) 0 cs)

def assignment (base : Path) (entry : String × Value) : Action Writer Unit := do
  push entry.1
  if entry.2.isNull then push " = NULL"
  else
    push " = "
    param (base ++ [.key "updates", .key entry.1])

def assignments (base : Path) (changes : ChangeSet) : Action Writer Unit :=
  match changes.entries with
  | [] => throw (.nothingToWrite "UpdateSpec")
  | entries => separated (push ", ") (entries.map (assignment base))

def groupBy : List String → Action Writer Unit
  | [] => pure ()
  | columns => do
      push " GROUP BY "
      push (", ".intercalate columns)

def orderBy (lead : String) : List OrderItem → Action Writer Unit
  | [] => pure ()
  | item :: rest => do
      push lead
      push item.column
      push (if item.ascending then " ASC" else " DESC")
      orderBy ", " rest

def perform : Write → Action Writer Unit
  | .text s => push s
  | .param path => param path
  | .condition c base => condition base c
  | .clause conditions base => clause base conditions
  | .assignments changes base => assignments base changes
  | .groupBy columns => groupBy columns
  | .orderBy orders => orderBy " ORDER BY " orders

/-- Performs all writes, also those after a write that failed, and tells how each of them ended. -/
def performAll (writes : List Write) : StateM Writer (List (Except Error Unit)) :=
  writes.mapM fun write => (perform write).run

def extend (w : Writer) (pieces : List Piece) : Writer :=
  ⟨w.dialect, w.sql ++ String.join (w.dialect.texts (w.params.length + 1) pieces),
    w.params ++ paramPaths pieces⟩

theorem extend_nil (w : Writer) : w.extend [] = w := by
  simp [extend, Dialect.texts]

theorem extend_append (w : Writer) (first second : List Piece) :
    (w.extend first).extend second = w.extend (first ++ second) := by
  have next : w.params.length + (paramPaths first).length + 1 =
      w.params.length + 1 + (paramPaths first).length := by omega
  simp only [extend, param_paths_append, Dialect.texts_append, List.length_append,
    String.join_append, List.append_assoc, String.append_assoc, next]

theorem extend_new (dialect : Dialect) (pieces : List Piece) :
    (new dialect).extend pieces = ⟨dialect, dialect.sql pieces, paramPaths pieces⟩ := by
  simp [extend, new, Dialect.sql]

theorem extend_text_text (w : Writer) (s t : String) (rest : List Piece) :
    w.extend (.text s :: .text t :: rest) = w.extend (.text (s ++ t) :: rest) := by
  simp [extend, Dialect.texts, String.append_assoc]

/-- Whatever was written before, the action writes the pieces of the draft and ends like it. -/
def Writes (action : Action Writer Unit) (draft : Draft) : Prop :=
  ∀ w : Writer, action.run w = (draft.outcome, w.extend draft.pieces)

theorem writes_nothing : Writes (pure ()) .empty := by
  intro w
  rw [Draft.empty, extend_nil]
  rfl

theorem writes_push (s : String) : Writes (push s) (.text s) := by
  intro w
  simp [push, extend, Draft.text, Draft.outcome, Dialect.texts, ExceptT.run]

theorem writes_param (path : Path) : Writes (param path) (.param path) := by
  intro w
  simp [param, extend, Draft.param, Draft.outcome, Dialect.texts, ExceptT.run]

theorem writes_throw (e : Error) : Writes (throw e) (.fail e) := by
  intro w
  rw [Draft.fail, extend_nil]
  rfl

theorem Writes.seq {first second : Action Writer Unit} {draft next : Draft}
    (before : Writes first draft) (after : Writes second next) :
    Writes (do first; second) (draft ++ next) := by
  intro w
  show ExceptT.bindCont (fun _ => second) (first.run w).1 (first.run w).2 = _
  rw [before w]
  cases failed : draft.failure with
  | some error =>
      have notNone : draft.failure ≠ none := by simp [failed]
      rw [Draft.append_of_failure_ne_none notNone, Draft.outcome, failed]
      rfl
  | none =>
      have continued := after (w.extend draft.pieces)
      rw [extend_append] at continued
      rw [Draft.append_of_failure_eq_none failed, Draft.outcome, failed]
      exact continued

theorem Writes.push_text {action : Action Writer Unit} {t : String} {rest : Draft} (s : String)
    (later : Writes action (.text t ++ rest)) :
    Writes (do push s; action) (.text (s ++ t) ++ rest) := by
  intro w
  have apart := (writes_push s).seq later w
  rw [apart]
  exact congrArg (Prod.mk _) (w.extend_text_text s t rest.pieces)

theorem Writes.push_last {action : Action Writer Unit} {t : String} (s : String)
    (later : Writes action (.text t)) : Writes (do push s; action) (.text (s ++ t)) := by
  rw [← Draft.append_empty (.text _)] at later ⊢
  exact later.push_text s

theorem Writes.separated {separator : Action Writer Unit} {s : String}
    (between : Writes separator (.text s)) {actions : List (Action Writer Unit)}
    {drafts : List Draft} (each : List.Forall₂ Writes actions drafts) :
    Writes (Writer.separated separator actions) (.joined s drafts) := by
  induction each with
  | nil => exact writes_nothing
  | cons head tail ih =>
      cases tail with
      | nil => exact head
      | cons next rest => exact head.seq (between.seq ih)

theorem Writes.each {α : Type} {action : α → Action Writer Unit} {draft : α → Draft}
    (each : ∀ a, Writes (action a) (draft a)) (items : List α) :
    List.Forall₂ Writes (items.map action) (items.map draft) := by
  rw [List.forall₂_map_left_iff, List.forall₂_map_right_iff, List.forall₂_same]
  exact fun a _ => each a

theorem writes_positions (base : Path) (length : Nat) :
    Writes (positions base length) (.positions base length) := by
  have item : ∀ i : Nat, Writes (param (base ++ [.index i])) (.param (base ++ [.index i])) :=
    fun i => writes_param _
  exact (writes_push ", ").separated (Writes.each item (List.range length))

theorem writes_comparison (base : Path) (op : Comparison) (column : String) (value : Value) :
    Writes (comparison base op column value) (Condition.draft base (.compare op column value)) := by
  unfold comparison
  cases null : value.isNull with
  | true =>
      rw [if_pos rfl, Value.eq_null_of_is_null null]
      cases op with
      | eq => exact .push_last column (writes_push _)
      | ne => exact .push_last column (writes_push _)
      | _ => exact writes_throw _
  | false =>
      rw [if_neg Bool.false_ne_true, Condition.draft_compare_of_value base op column null,
        String.append_assoc, String.append_assoc]
      exact .push_text column (.push_text " " (.push_text op.sql
        ((writes_push " ").seq (writes_param _))))

theorem writes_conditions (base : Path) (i : Nat) (cs : List Condition)
    (each : ∀ c ∈ cs, ∀ base, Writes (condition base c) (c.draft base)) :
    List.Forall₂ Writes (conditions base i cs) (Condition.drafts base i cs) := by
  induction cs generalizing i with
  | nil => exact .nil
  | cons c cs ih =>
      obtain ⟨head, tail⟩ := List.forall_mem_cons.mp each
      exact .cons (head _) (ih (i + 1) tail)

theorem writes_condition (base : Path) (c : Condition) :
    Writes (condition base c) (c.draft base) := by
  induction c using Condition.tree_induction generalizing base with
  | compare op column value =>
      rw [condition]
      exact writes_comparison base op column value
  | nullTest column isNull =>
      rw [condition, Condition.draft]
      exact .push_last column (writes_push _)
  | member column values negated =>
      cases values with
      | nil =>
          rw [condition, Condition.draft]
          exact writes_push _
      | cons value values =>
          rw [Condition.draft_member_cons]
          simp only [condition, List.length_cons]
          exact .push_text column
            ((writes_push _).seq ((writes_positions _ _).seq (writes_push ")")))
  | group logic children ih =>
      cases children with
      | nil =>
          rw [condition, Condition.draft]
          exact writes_push _
      | cons child children =>
          have separator : Writes (do push " "; push logic.sql; push " ")
              (.text (" " ++ logic.sql ++ " ")) := by
            rw [String.append_assoc]
            exact .push_last " " (.push_last logic.sql (writes_push " "))
          have members := writes_conditions (base ++ [.key "children"]) 0 (child :: children) ih
          rw [Condition.draft_group_cons]
          simp only [condition]
          exact (writes_push "(").seq ((separator.separated members).seq (writes_push ")"))

theorem writes_clause (base : Path) (cs : List Condition) :
    Writes (clause base cs) (Condition.clause base cs) := by
  cases cs with
  | nil => exact writes_push _
  | cons c cs =>
      exact .separated (writes_push _)
        (writes_conditions _ 0 (c :: cs) fun c _ base => writes_condition base c)

theorem writes_assignment (base : Path) (entry : String × Value) :
    Writes (assignment base entry) (ChangeSet.assignment base entry) := by
  unfold assignment ChangeSet.assignment
  cases entry.2.isNull with
  | true => exact .push_last entry.1 (writes_push _)
  | false => exact .push_text entry.1 ((writes_push _).seq (writes_param _))

theorem writes_assignments (base : Path) (changes : ChangeSet) :
    Writes (assignments base changes) (changes.draft base) := by
  obtain ⟨entries⟩ := changes
  cases entries with
  | nil => exact writes_throw _
  | cons entry entries =>
      have entries := Writes.each (writes_assignment base) (entry :: entries)
      exact .separated (writes_push ", ") entries

theorem writes_group_by (columns : List String) :
    Writes (groupBy columns) (Criteria.groupClause columns) := by
  cases columns with
  | nil => exact writes_nothing
  | cons column columns => exact .push_last _ (writes_push _)

theorem writes_order_items (lead : String) (item : OrderItem) (orders : List OrderItem) :
    Writes (orderBy lead (item :: orders))
      (.text (lead ++ ", ".intercalate ((item :: orders).map Criteria.OrderItem.sql))) := by
  induction orders generalizing lead item with
  | nil =>
      rw [List.map_singleton, String.intercalate_singleton, Criteria.OrderItem.sql]
      exact .push_last lead (.push_last item.column ((writes_push _).seq writes_nothing))
  | cons next orders ih =>
      rw [List.map_cons, List.map_cons, String.intercalate_cons_cons, Criteria.OrderItem.sql,
        String.append_assoc, String.append_assoc]
      exact .push_last lead (.push_last item.column (.push_last _ (ih ", " next)))

theorem writes_order_by (orders : List OrderItem) :
    Writes (orderBy " ORDER BY " orders) (Criteria.orderClause orders) := by
  cases orders with
  | nil => exact writes_nothing
  | cons item orders => exact writes_order_items _ item orders

theorem writes_perform (write : Write) : Writes (perform write) write.draft := by
  cases write with
  | text s => exact writes_push s
  | param path => exact writes_param path
  | condition c base => exact writes_condition base c
  | clause conditions base => exact writes_clause base conditions
  | assignments changes base => exact writes_assignments base changes
  | groupBy columns => exact writes_group_by columns
  | orderBy orders => exact writes_order_by orders

theorem perform_all_eq (writes : List Write) (w : Writer) :
    performAll writes w =
      (writes.map fun write => write.draft.outcome, w.extend (Write.pieces writes)) := by
  unfold performAll
  induction writes generalizing w with
  | nil => exact congrArg (Prod.mk []) w.extend_nil.symm
  | cons write writes ih =>
      have first := writes_perform write w
      have rest := ih (w.extend write.draft.pieces)
      rw [extend_append] at rest
      rw [List.mapM_cons]
      show (((perform write).run w).1 :: (performAll writes ((perform write).run w).2).1,
        (performAll writes ((perform write).run w).2).2) = _
      rw [first, performAll, rest]
      rfl

end Writer

end BoundSql
