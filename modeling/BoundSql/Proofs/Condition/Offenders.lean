import Mathlib
import BoundSql.Proofs.Condition.Tree

/-!
The first offender of a condition tree. A place says which child is taken at each group on the way
down, and places are in lexicographic order: a group comes before what it holds, and a child with
all that it holds comes before the next child. The first part of a kind is the one at the least
place, and going through the parts from left to right finds it. Two kinds of parts offend: tests of
columns whose names are no identifiers, and comparisons with null that have no form. Checking the
columns reports the first one of the first kind, and writing the condition stops at the first one
of the second.
-/

namespace BoundSql

namespace Condition

/-- The way from a condition down to a part of it: the child that is taken at each group. -/
abbrev Place := List Nat

def children : Condition → List Condition
  | .group _ children => children
  | .compare _ _ _ | .nullTest _ _ | .member _ _ _ => []

/-- The part of a condition at a place. -/
def part? (c : Condition) : Place → Option Condition
  | [] => some c
  | i :: place => c.children[i]?.bind fun child => child.part? place

def Has (c : Condition) (kind : Condition → Bool) : Prop :=
  ∃ place part, c.part? place = some part ∧ kind part = true

/-- The part of the kind that stands at the place, with none of the kind at any place before. -/
structure FirstAt (c : Condition) (kind : Condition → Bool) (place : Place) (part : Condition) :
    Prop where
  stands : c.part? place = some part
  isKind : kind part = true
  none_before : ∀ earlier < place, ∀ other, c.part? earlier = some other → kind other = false

/-- The first part of the kind, from left to right and from a group into its children. -/
def First (c : Condition) (kind : Condition → Bool) (part : Condition) : Prop :=
  ∃ place, c.FirstAt kind place part

mutual

/-- The parts of a condition, each group before what it holds. -/
def parts : Condition → List Condition
  | .compare op column value => [.compare op column value]
  | .nullTest column isNull => [.nullTest column isNull]
  | .member column values negated => [.member column values negated]
  | .group logic children => .group logic children :: partsOf children

def partsOf : List Condition → List Condition
  | [] => []
  | c :: cs => c.parts ++ partsOf cs

end

theorem parts_of_eq_flatMap (cs : List Condition) : partsOf cs = cs.flatMap parts := by
  induction cs with
  | nil => rfl
  | cons c cs ih => rw [partsOf, ih, List.flatMap_cons]

theorem parts_eq_cons (c : Condition) : c.parts = c :: partsOf c.children := by
  cases c <;> rfl

theorem part_cons_eq_some_iff (c part : Condition) (i : Nat) (place : Place) :
    c.part? (i :: place) = some part ↔
      ∃ child, c.children[i]? = some child ∧ child.part? place = some part :=
  Option.bind_eq_some_iff

/-- Induction that goes from the children of a condition to the condition. -/
theorem children_induction {motive : Condition → Prop}
    (step : ∀ c, (∀ child ∈ c.children, motive child) → motive c) (c : Condition) : motive c := by
  induction c using tree_induction with
  | compare op column value => exact step _ (by simp [children])
  | nullTest column isNull => exact step _ (by simp [children])
  | member column values negated => exact step _ (by simp [children])
  | group logic children ih => exact step _ ih

theorem mem_parts_iff (c part : Condition) :
    part ∈ c.parts ↔ ∃ place, c.part? place = some part := by
  induction c using children_induction with
  | step c ih =>
      rw [parts_eq_cons, List.mem_cons, parts_of_eq_flatMap, List.mem_flatMap]
      constructor
      · rintro (rfl | ⟨child, member, inside⟩)
        · exact ⟨[], rfl⟩
        · obtain ⟨place, stands⟩ := (ih child member).mp inside
          obtain ⟨i, present⟩ := List.mem_iff_getElem?.mp member
          exact ⟨i :: place, (part_cons_eq_some_iff ..).mpr ⟨child, present, stands⟩⟩
      · rintro ⟨place, stands⟩
        cases place with
        | nil => exact Or.inl (Option.some.inj stands).symm
        | cons i place =>
            obtain ⟨child, present, stands⟩ := (part_cons_eq_some_iff ..).mp stands
            have member := List.mem_of_getElem? present
            exact Or.inr ⟨child, member, (ih child member).mpr ⟨place, stands⟩⟩

theorem has_iff (c : Condition) (kind : Condition → Bool) :
    c.Has kind ↔ ∃ part ∈ c.parts, kind part = true := by
  simp only [Has, mem_parts_iff]
  constructor
  · rintro ⟨place, part, stands, isKind⟩
    exact ⟨part, ⟨place, stands⟩, isKind⟩
  · rintro ⟨part, ⟨place, stands⟩, isKind⟩
    exact ⟨place, part, stands, isKind⟩

theorem has_iff_children (c : Condition) (kind : Condition → Bool) :
    c.Has kind ↔ kind c = true ∨ ∃ child ∈ c.children, child.Has kind := by
  rw [has_iff, parts_eq_cons, List.exists_mem_cons_iff, parts_of_eq_flatMap]
  simp only [has_iff, List.mem_flatMap]
  constructor
  · rintro (here | ⟨part, ⟨child, member, inside⟩, isKind⟩)
    · exact Or.inl here
    · exact Or.inr ⟨child, member, part, inside, isKind⟩
  · rintro (here | ⟨child, member, part, inside, isKind⟩)
    · exact Or.inl here
    · exact Or.inr ⟨part, ⟨child, member, inside⟩, isKind⟩

instance (c : Condition) (kind : Condition → Bool) : Decidable (c.Has kind) :=
  decidable_of_iff _ (c.has_iff kind).symm

/-- The first part of a kind among the conditions of a list lies in the first one that has any. -/
theorem first_among {kind : Condition → Bool} {cs : List Condition} {part : Condition}
    (each : ∀ c ∈ cs, ∀ found, c.parts.find? kind = some found → c.First kind found)
    (found : (partsOf cs).find? kind = some part) :
    ∃ (i : Nat) (c : Condition) (place : Place), cs[i]? = some c ∧ c.FirstAt kind place part ∧
      ∀ j < i, ∀ other, cs[j]? = some other → ¬Has other kind := by
  induction cs with
  | nil => cases found
  | cons c cs ih =>
      rw [List.forall_mem_cons] at each
      rw [partsOf, List.find?_append] at found
      cases inHead : c.parts.find? kind with
      | some first =>
          rw [inHead, Option.some_or] at found
          cases found
          obtain ⟨place, first⟩ := each.1 part inHead
          exact ⟨0, c, place, rfl, first, nofun⟩
      | none =>
          rw [inHead, Option.none_or] at found
          obtain ⟨i, child, place, present, first, before⟩ := ih each.2 found
          refine ⟨i + 1, child, place, present, first, ?_⟩
          intro j less other standing
          cases j with
          | zero =>
              cases standing
              rw [has_iff]
              simpa using inHead
          | succ j => exact before j (Nat.lt_of_succ_lt_succ less) other standing

theorem first_of_find {kind : Condition → Bool} {c part : Condition}
    (found : c.parts.find? kind = some part) : c.First kind part := by
  induction c using children_induction generalizing part with
  | step c ih =>
      rw [parts_eq_cons, List.find?_cons] at found
      cases here : kind c with
      | true =>
          rw [here] at found
          cases found
          exact ⟨[], rfl, here, fun earlier less => absurd less (List.not_lt_nil _)⟩
      | false =>
          rw [here] at found
          obtain ⟨i, child, place, present, first, before⟩ :=
            first_among (fun child member _ => ih child member) found
          refine ⟨i :: place, (part_cons_eq_some_iff ..).mpr ⟨child, present, first.stands⟩,
            first.isKind, ?_⟩
          intro earlier less other standing
          cases earlier with
          | nil =>
              cases standing
              exact here
          | cons j earlier =>
              obtain ⟨sibling, sits, standing⟩ := (part_cons_eq_some_iff ..).mp standing
              rcases List.cons_lt_cons_iff.mp less with left | ⟨rfl, inside⟩
              · by_contra ofKind
                exact before j left sibling sits ⟨earlier, other, standing, by simpa using ofKind⟩
              · cases present.symm.trans sits
                exact first.none_before earlier inside other standing

theorem First.unique {kind : Condition → Bool} {c part other : Condition}
    (first : c.First kind part) (second : c.First kind other) : part = other := by
  obtain ⟨place, first⟩ := first
  obtain ⟨elsewhere, second⟩ := second
  rcases lt_trichotomy place elsewhere with before | same | after
  · have none := second.none_before place before part first.stands
    exact absurd (first.isKind.symm.trans none) Bool.noConfusion
  · have stands := first.stands
    rw [same, second.stands] at stands
    exact (Option.some.inj stands).symm
  · have none := first.none_before elsewhere after other second.stands
    exact absurd (second.isKind.symm.trans none) Bool.noConfusion

theorem First.has {kind : Condition → Bool} {c part : Condition} (first : c.First kind part) :
    c.Has kind := by
  obtain ⟨place, first⟩ := first
  exact ⟨place, part, first.stands, first.isKind⟩

/-- Going through the parts from left to right finds the first one of a kind. -/
theorem find_parts_eq_some_iff (c : Condition) (kind : Condition → Bool) (part : Condition) :
    c.parts.find? kind = some part ↔ c.First kind part := by
  constructor
  · exact first_of_find
  · intro first
    obtain ⟨found, member, isKind⟩ := (c.has_iff kind).mp first.has
    cases search : c.parts.find? kind with
    | none => exact absurd isKind (List.find?_eq_none.mp search found member)
    | some other => rw [first.unique (first_of_find search)]

theorem find_parts_eq_none_iff (c : Condition) (kind : Condition → Bool) :
    c.parts.find? kind = none ↔ ¬c.Has kind := by
  rw [has_iff, List.find?_eq_none]
  simp

def column? : Condition → Option String
  | .compare _ column _ | .nullTest column _ | .member column _ _ => some column
  | .group _ _ => none

def misnamed (c : Condition) : Bool := c.column?.any fun column => !isIdentifier column

def unanswerable : Condition → Bool
  | .compare .eq _ _ | .compare .ne _ _ => false
  | .compare _ _ value => value.isNull
  | .nullTest _ _ | .member _ _ _ | .group _ _ => false

def refusal? : Condition → Option Error
  | .compare op column _ => some (.nullComparison column op.sql)
  | .nullTest _ _ | .member _ _ _ | .group _ _ => none

theorem columns_eq_parts (c : Condition) : c.columns = c.parts.filterMap column? := by
  induction c using tree_induction with
  | compare op column value => rfl
  | nullTest column isNull => rfl
  | member column values negated => rfl
  | group logic children ih =>
      rw [columns, columns_of_eq_flatMap, parts, parts_of_eq_flatMap,
        List.filterMap_cons_none rfl, List.filterMap_flatMap]
      exact List.flatMap_congr ih

theorem failures_compare (op : Comparison) (column : String) (value : Value) :
    failures (.compare op column value) =
      if unanswerable (.compare op column value) then [.nullComparison column op.sql] else [] := by
  have same : (value.isNull && op.nullTest?.isNone) = unanswerable (.compare op column value) := by
    cases op <;> simp [unanswerable, Comparison.nullTest?]
  rw [failures, same]

theorem failures_eq_parts (c : Condition) :
    c.failures = (c.parts.filter unanswerable).filterMap refusal? := by
  induction c using tree_induction with
  | compare op column value =>
      rw [failures_compare, parts]
      cases offends : unanswerable (.compare op column value) with
      | true =>
          rw [List.filter_cons_of_pos offends]
          rfl
      | false =>
          rw [List.filter_cons_of_neg (Bool.eq_false_iff.mp offends)]
          rfl
  | nullTest column isNull => rfl
  | member column values negated => rfl
  | group logic children ih =>
      rw [failures, failures_of_eq_flatMap, parts, parts_of_eq_flatMap,
        List.filter_cons_of_neg Bool.false_ne_true, List.filter_flatMap, List.filterMap_flatMap]
      exact List.flatMap_congr ih

theorem column_of_misnamed {part : Condition} (offends : part.misnamed = true) :
    ∃ column, part.column? = some column := by
  obtain ⟨column, named, -⟩ := (Option.any_eq_true _ _).mp offends
  exact ⟨column, named⟩

theorem compare_of_unanswerable {part : Condition} (offends : unanswerable part = true) :
    ∃ op column, part = .compare op column .null := by
  cases part with
  | compare op column value =>
      have null : value.isNull = true := by
        cases op <;> simp [unanswerable] at offends <;> exact offends
      exact ⟨op, column, by rw [Value.eq_null_of_is_null null]⟩
  | nullTest column isNull => cases offends
  | member column values negated => cases offends
  | group logic children => cases offends

theorem head_failures (c : Condition) :
    c.failures.head? = (c.parts.find? unanswerable).bind refusal? := by
  rw [failures_eq_parts, ← List.head?_filter]
  cases offenders : c.parts.filter unanswerable with
  | nil => rfl
  | cons part rest =>
      have member : part ∈ c.parts.filter unanswerable := by
        rw [offenders]
        exact List.mem_cons_self
      obtain ⟨op, column, rfl⟩ := compare_of_unanswerable (List.mem_filter.mp member).2
      rfl

/-- The error names the column of the first test whose column is no identifier. -/
def BlamesColumn (c : Condition) (e : Error) : Prop :=
  ∃ test column, c.First misnamed test ∧ test.column? = some column ∧ e = .invalidColumn column

/-- The error names the column and the operator of the first comparison with null that has no
form. -/
def BlamesNull (c : Condition) (e : Error) : Prop :=
  ∃ op column, c.First unanswerable (.compare op column .null) ∧
    e = .nullComparison column op.sql

theorem BlamesColumn.bad_column {c : Condition} {e : Error} (blames : c.BlamesColumn e) :
    ∃ column, isIdentifier column = false ∧ e = .invalidColumn column := by
  obtain ⟨test, column, ⟨place, first⟩, named, rfl⟩ := blames
  have misnames := first.isKind
  rw [misnamed, named] at misnames
  exact ⟨column, by simpa using misnames, rfl⟩

theorem find_bad_column (c : Condition) :
    (c.columns.find? fun name => !isIdentifier name) = (c.parts.find? misnamed).bind column? := by
  rw [columns_eq_parts, List.find?_filterMap]
  rfl

theorem check_columns_eq_error_iff (c : Condition) (e : Error) :
    c.checkColumns = .error e ↔ c.BlamesColumn e := by
  unfold checkColumns BoundSql.checkColumns BlamesColumn
  rw [find_bad_column]
  cases search : c.parts.find? misnamed with
  | none =>
      have absent := (find_parts_eq_none_iff c misnamed).mp search
      constructor
      · nofun
      · rintro ⟨test, column, first, -⟩
        exact absurd first.has absent
  | some part =>
      have first := (find_parts_eq_some_iff c misnamed part).mp search
      obtain ⟨column, named⟩ := column_of_misnamed (List.find?_some search)
      rw [Option.bind_some, named]
      constructor
      · intro reported
        exact ⟨part, column, first, named, (Except.error.inj reported).symm⟩
      · rintro ⟨test, name, found, same, rfl⟩
        rw [found.unique first, named] at same
        rw [Option.some.inj same]

theorem check_columns_eq_ok_iff (c : Condition) : c.checkColumns = .ok () ↔ ¬c.Has misnamed := by
  unfold checkColumns BoundSql.checkColumns
  rw [find_bad_column, ← find_parts_eq_none_iff]
  cases search : c.parts.find? misnamed with
  | none => simp
  | some part =>
      obtain ⟨column, named⟩ := column_of_misnamed (List.find?_some search)
      rw [Option.bind_some, named]
      simp

theorem head_failures_eq_some_iff (c : Condition) (e : Error) :
    c.failures.head? = some e ↔ c.BlamesNull e := by
  rw [head_failures, Option.bind_eq_some_iff]
  constructor
  · rintro ⟨part, search, blamed⟩
    have first := (find_parts_eq_some_iff c unanswerable part).mp search
    obtain ⟨op, column, rfl⟩ := compare_of_unanswerable (List.find?_some search)
    exact ⟨op, column, first, (Option.some.inj blamed).symm⟩
  · rintro ⟨op, column, first, rfl⟩
    exact ⟨_, (find_parts_eq_some_iff ..).mpr first, rfl⟩

theorem failures_eq_nil_iff (c : Condition) : c.failures = [] ↔ ¬c.Has unanswerable := by
  rw [← find_parts_eq_none_iff, ← List.head?_eq_none_iff, head_failures]
  cases search : c.parts.find? unanswerable with
  | none => simp
  | some part =>
      obtain ⟨op, column, rfl⟩ := compare_of_unanswerable (List.find?_some search)
      simp [refusal?]

end Condition

end BoundSql
