import Mathlib
import BoundSql.Proofs.Clause.Grammar

/-!
The truth values of SQL. A test of a column may be unknown; AND takes the lower value of its sides
and OR the higher one, and a row is selected only by a condition that is known to hold. What the
tests of a row are is given from outside, so that whatever is said of a clause here is said for all
rows and for every way to compare values.
-/

namespace BoundSql

inductive Truth where
  | no
  | unknown
  | yes
deriving DecidableEq, Repr, Inhabited

namespace Truth

def rank : Truth → Nat
  | .no => 0
  | .unknown => 1
  | .yes => 2

theorem rank_injective : Function.Injective rank := by
  intro first second same
  cases first <;> cases second <;> first | rfl | cases same

instance : LinearOrder Truth := LinearOrder.lift' rank rank_injective

protected def and : Truth → Truth → Truth
  | .no, _ => .no
  | .unknown, .no => .no
  | .unknown, _ => .unknown
  | .yes, second => second

protected def or : Truth → Truth → Truth
  | .yes, _ => .yes
  | .unknown, .yes => .yes
  | .unknown, _ => .unknown
  | .no, second => second

theorem and_eq_min (first second : Truth) : first.and second = min first second := by
  cases first <;> cases second <;> decide

theorem or_eq_max (first second : Truth) : first.or second = max first second := by
  cases first <;> cases second <;> decide

theorem le_yes (value : Truth) : value ≤ .yes := by cases value <;> decide

def all (values : List Truth) : Truth := values.foldr Truth.and .yes

def any (values : List Truth) : Truth := values.foldr Truth.or .no

theorem all_of_yes {values : List Truth} (holds : ∀ value ∈ values, value = .yes) :
    all values = .yes := by
  induction values with
  | nil => rfl
  | cons value values ih =>
      rw [List.forall_mem_cons] at holds
      have rest : all values = .yes := ih holds.2
      rw [holds.1]
      exact rest

theorem any_of_yes {values : List Truth} (present : .yes ∈ values) : any values = .yes := by
  induction values with
  | nil => cases present
  | cons value values ih =>
      cases present with
      | head => rfl
      | tail _ later =>
          have rest : any values = .yes := ih later
          show value.or (any values) = .yes
          rw [rest]
          cases value <;> rfl

end Truth

namespace Logic

def join : Logic → Truth → Truth → Truth
  | .and => Truth.and
  | .or => Truth.or

def combine : Logic → List Truth → Truth
  | .and => Truth.all
  | .or => Truth.any

theorem combine_cons (logic : Logic) (value : Truth) (values : List Truth) :
    logic.combine (value :: values) = logic.join value (logic.combine values) := by
  cases logic <;> rfl

theorem combine_singleton (logic : Logic) (value : Truth) : logic.combine [value] = value := by
  cases logic <;> cases value <;> rfl

theorem join_mono (logic : Logic) {first second first' second' : Truth} (firsts : first ≤ first')
    (seconds : second ≤ second') : logic.join first second ≤ logic.join first' second' := by
  cases logic with
  | and =>
      rw [join, Truth.and_eq_min, Truth.and_eq_min]
      exact min_le_min firsts seconds
  | or =>
      rw [join, Truth.or_eq_max, Truth.or_eq_max]
      exact max_le_max firsts seconds

/-- A condition that holds leaves a conjunction as it is, and makes an alternative hold. -/
theorem le_join_yes (logic : Logic) (value : Truth) : value ≤ logic.join .yes value := by
  cases logic with
  | and => exact le_refl value
  | or => exact value.le_yes

end Logic

namespace Predicate

variable {π : Type} (truth : Predicate π → Truth)

mutual

/-- The value of a predicate in a row of which the tests have the values that `truth` tells. -/
def value : Predicate π → Truth
  | .compare column op sign => truth (.compare column op sign)
  | .nullTest column isNull => truth (.nullTest column isNull)
  | .member column negated first rest => truth (.member column negated first rest)
  | .constant holds => if holds then .yes else .no
  | .bracket inner => value inner
  | .group logic first second rest =>
      logic.combine (value first :: value second :: valuesOf rest)

def valuesOf : List (Predicate π) → List Truth
  | [] => []
  | p :: ps => value p :: valuesOf ps

end

theorem values_of_eq_map (ps : List (Predicate π)) : valuesOf truth ps = ps.map (value truth) := by
  induction ps with
  | nil => rfl
  | cons p ps ih => rw [valuesOf, ih, List.map_cons]

theorem value_enclose (logic : Logic) (first : Predicate π) (rest : List (Predicate π)) :
    value truth (enclose logic first rest) = logic.combine ((first :: rest).map (value truth)) := by
  cases rest with
  | nil => rw [enclose, value, List.map_singleton, Logic.combine_singleton]
  | cons second rest => rw [enclose, value, values_of_eq_map, List.map_cons, List.map_cons]

end Predicate

def Clause.value {π : Type} (truth : Predicate π → Truth) (clause : List (Predicate π)) : Truth :=
  Truth.all (clause.map (Predicate.value truth))

end BoundSql
