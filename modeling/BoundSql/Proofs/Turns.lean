import Mathlib
import BoundSql.Proofs.Journal

/-!
Lists that are stepped through in turns. Several callers go through a list each, and their steps
are interleaved in any order, on one host. What becomes of a list is told as if it were alone: it
has been stepped through up to some entry, or up to a failure, and the journal of its own steps
is the part of the whole journal that bears its name. A list to which all turns go is stepped
through as a whole.
-/

namespace BoundSql

variable {σ ε α β κ : Type}

/-- A list that is being stepped through: the entries that had their step, the answers, why the
list was given up if it was, and the entries that wait. -/
structure Progress (α β : Type) where
  done : List α
  answers : List β
  failure : Option Error
  waiting : List α

namespace Progress

def start (entries : List α) : Progress α β := ⟨[], [], none, entries⟩

def entries (progress : Progress α β) : List α := progress.done ++ progress.waiting

def result? (progress : Progress α β) : Option (Except Error (List β)) :=
  match progress.failure, progress.waiting with
  | some e, _ => some (.error e)
  | none, [] => some (.ok progress.answers)
  | none, _ :: _ => none

def record (done : List α) (answers : List β) (waiting : List α) :
    α × Except Error β → Progress α β
  | (reached, .ok b) => ⟨done ++ [reached], answers ++ [b], none, waiting⟩
  | (reached, .error e) => ⟨done ++ [reached], answers, some e, waiting⟩

def turn (step : α → StateM σ (α × Except Error β)) :
    Progress α β → StateM σ (Progress α β)
  | ⟨done, answers, none, entry :: waiting⟩ => do
      return record done answers waiting (← step entry)
  | ended => pure ended

end Progress

/-- Gives the turns to the lists that they name, in this order. -/
def interleave [DecidableEq κ] (step : α → StateM σ (α × Except Error β)) :
    List κ → (κ → Progress α β) → StateM σ (κ → Progress α β)
  | [], lists => pure lists
  | k :: turns, lists => do
      let reached ← (lists k).turn step
      interleave step turns (Function.update lists k reached)

section Alone

variable [DecidableEq κ] (step : α → StateM σ (α × Except Error β)) (k : κ)

theorem interleave_given_up {lists : κ → Progress α β} {e : Error}
    (failed : (lists k).failure = some e) (count : Nat) (s : σ) :
    interleave step (List.replicate count k) lists s = (lists, s) := by
  have ended : (lists k).turn step = pure (lists k) := by
    generalize lists k = progress at failed
    obtain ⟨done, answers, failure, waiting⟩ := progress
    cases failed
    rfl
  induction count with
  | zero => rfl
  | succ count ih =>
      rw [List.replicate_succ, interleave, ended, pure_bind, Function.update_eq_self]
      exact ih

/-- A list that has all turns is stepped through as a whole. -/
theorem interleave_alone {entries done : List α} {answers : List β} {lists : κ → Progress α β}
    (mine : lists k = ⟨done, answers, none, entries⟩) (s : σ) :
    ∃ (reached : κ → Progress α β) (after : List α) (result : Except Error (List β)) (final : σ),
      interleave step (List.replicate entries.length k) lists s = (reached, final) ∧
      advance step entries s = ((after, result), final) ∧
      (reached k).entries = done ++ after ∧
      (reached k).result? = some (result.map (answers ++ ·)) := by
  induction entries generalizing done answers lists s with
  | nil =>
      refine ⟨lists, [], .ok [], s, rfl, rfl, ?_, ?_⟩
      · rw [mine]
        rfl
      · rw [mine]
        exact congrArg (fun all => some (Except.ok all)) (List.append_nil answers).symm
  | cons entry entries ih =>
      rcases stepped : step entry s with ⟨⟨next, answer⟩, later⟩
      have turned : (lists k).turn step s =
          (Progress.record done answers entries (next, answer), later) := by
        rw [mine]
        show (Progress.record done answers entries (step entry s).1, (step entry s).2) = _
        rw [stepped]
      have begun : interleave step (List.replicate (entry :: entries).length k) lists s =
          interleave step (List.replicate entries.length k)
            (Function.update lists k (Progress.record done answers entries (next, answer)))
            later := by
        show interleave step _ (Function.update lists k ((lists k).turn step s).1)
          ((lists k).turn step s).2 = _
        rw [turned]
      cases answer with
      | error e =>
          have failed : (Function.update lists k
              (Progress.record done answers entries (next, .error e)) k).failure = some e := by
            rw [Function.update_self]
            rfl
          refine ⟨_, _, _, _, begun.trans (interleave_given_up step k failed _ _),
            advance_of_error stepped entries, ?_, ?_⟩
          · rw [Function.update_self]
            exact List.append_assoc done [next] entries
          · rw [Function.update_self]
            rfl
      | ok b =>
          obtain ⟨reached, after, result, final, ran, rest, became, told⟩ :=
            ih (Function.update_self k _ lists) later
          refine ⟨reached, _, _, final, begun.trans ran, advance_of_ok stepped rest, ?_, ?_⟩
          · rw [became, List.append_assoc]
            rfl
          · rw [told]
            cases result with
            | error e => rfl
            | ok bs =>
                exact congrArg (fun all => some (Except.ok all)) (List.append_assoc answers [b] bs)

end Alone

def entriesOf [DecidableEq κ] (k : κ) (log : List (κ × ε)) : List ε :=
  log.filterMap fun entry => if entry.1 = k then some entry.2 else none

section Tagged

variable [DecidableEq κ] (k : κ)

theorem entries_of_append (log more : List (κ × ε)) :
    entriesOf k (log ++ more) = entriesOf k log ++ entriesOf k more := List.filterMap_append

theorem entries_of_own (entries : List ε) :
    entriesOf k (entries.map fun entry => (k, entry)) = entries := by
  rw [entriesOf, List.filterMap_map]
  simp

theorem entries_of_other {k other : κ} (different : other ≠ k) (entries : List ε) :
    entriesOf k (entries.map fun entry => (other, entry)) = [] := by
  rw [entriesOf, List.filterMap_map]
  simp [different]

end Tagged

theorem Swept.append {contract : α → α × Except Error β → List ε → Prop}
    {entries nexts others reached : List α} {bs cs : List β} {added more : List ε}
    (first : Swept contract entries nexts bs added)
    (second : Swept contract others reached cs more) :
    Swept contract (entries ++ others) (nexts ++ reached) (bs ++ cs) (added ++ more) := by
  induction first with
  | nil => exact second
  | cons head tail ih =>
      rw [List.append_assoc]
      exact .cons head ih

section Stepped

variable {contract : α → α × Except Error β → List ε → Prop} {entries nexts : List α}
  {bs : List β} {added : List ε}

theorem Swept.length_eq (swept : Swept contract entries nexts bs added) :
    entries.length = nexts.length := by
  induction swept with
  | nil => rfl
  | cons head tail ih => rw [List.length_cons, List.length_cons, ih]

/-- Entries are related to what they become if a step keeps to the relation. -/
theorem Swept.related {related : α → α → Prop}
    (stepped : ∀ a answer added, contract a answer added → related a answer.1)
    (swept : Swept contract entries nexts bs added) : List.Forall₂ related entries nexts := by
  induction swept with
  | nil => exact .nil
  | cons head tail ih => exact .cons (stepped _ _ _ head) ih

end Stepped

/-- What has become of a list, and the journal of its steps: they succeeded for the entries
before those that wait, or up to one at which the list was given up. -/
inductive Underway (contract : α → α × Except Error β → List ε → Prop) :
    List α → Progress α β → List ε → Prop where
  | running {passed done waiting : List α} {answers : List β} {added : List ε}
      (swept : Swept contract passed done answers added) :
      Underway contract (passed ++ waiting) ⟨done, answers, none, waiting⟩ added
  | stopped {passed done waiting : List α} {entry stuck : α} {answers : List β} {e : Error}
      {added last : List ε} (swept : Swept contract passed done answers added)
      (failed : contract entry (stuck, .error e) last) :
      Underway contract (passed ++ entry :: waiting) ⟨done ++ [stuck], answers, some e, waiting⟩
        (added ++ last)

section Journaled

variable {contract : α → α × Except Error β → List ε → Prop}
  {kept : α → StateM (σ × List ε) (α × Except Error β)} {step : α → StateM σ (α × Except Error β)}

theorem underway_start (contract : α → α × Except Error β → List ε → Prop) (entries : List α) :
    Underway contract entries (.start entries) [] := .running .nil

theorem turn_journals (each : ∀ a, Journals (kept a) (step a) (contract a)) {entries : List α}
    {progress : Progress α β} {journal : List ε}
    (before : Underway contract entries progress journal) :
    Journals (progress.turn kept) (progress.turn step) fun reached added =>
      Underway contract entries reached (journal ++ added) := by
  cases before with
  | stopped swept failed =>
      apply Journals.finished
      rw [List.append_nil]
      exact .stopped swept failed
  | @running passed done waiting answers added swept =>
      cases waiting with
      | nil =>
          apply Journals.finished
          rw [List.append_nil journal]
          exact .running swept
      | cons entry waiting =>
          rw [Progress.turn, Progress.turn]
          apply ((each entry).bind _ fun answer => Journals.pure _).weaken
          intro reached added ran
          obtain ⟨⟨next, answer⟩, noted, more, both, holds, same, nothing⟩ := ran
          rw [nothing, List.append_nil] at both
          rw [same, both]
          cases answer with
          | error e => exact .stopped swept holds
          | ok b =>
              have further := swept.append (.cons holds .nil)
              rw [List.append_nil] at further
              rw [← List.singleton_append, ← List.append_assoc]
              exact .running further

/-- What becomes of each list is told by the part of the journal that bears its name. -/
theorem interleave_journals [DecidableEq κ]
    (each : ∀ a, Journals (kept a) (step a) (contract a)) (entries : κ → List α)
    (turns : List κ) {lists : κ → Progress α β} {journal : κ → List ε}
    (before : ∀ k, Underway contract (entries k) (lists k) (journal k)) :
    Journals (interleave kept turns lists) (interleave step turns lists) fun reached added =>
      ∃ log : List (κ × ε), added = log.map Prod.snd ∧
        ∀ k, Underway contract (entries k) (reached k) (journal k ++ entriesOf k log) := by
  induction turns generalizing lists journal with
  | nil =>
      apply Journals.finished
      refine ⟨[], rfl, ?_⟩
      intro k
      rw [entriesOf, List.filterMap_nil, List.append_nil]
      exact before k
  | cons turn turns ih =>
      intro s noted
      obtain ⟨first, same, holds⟩ := turn_journals each (before turn) s noted
      have between : ∀ k, Underway contract (entries k)
          (Function.update lists turn ((lists turn).turn step s).1 k)
          (journal k ++ entriesOf k (first.map fun entry => (turn, entry))) := by
        intro k
        by_cases here : k = turn
        · rw [here, Function.update_self, entries_of_own]
          exact holds
        · rw [Function.update_of_ne here, entries_of_other (Ne.symm here), List.append_nil]
          exact before k
      obtain ⟨more, sameRest, log, tagged, after⟩ :=
        ih between ((lists turn).turn step s).2 (noted ++ first)
      refine ⟨first ++ more, ?_, (first.map fun entry => (turn, entry)) ++ log, ?_, ?_⟩
      · show interleave kept turns
          (Function.update lists turn ((lists turn).turn kept (s, noted)).1)
          ((lists turn).turn kept (s, noted)).2 = _
        rw [same, sameRest, List.append_assoc]
        rfl
      · rw [List.map_append, List.map_map, ← tagged]
        exact congrArg (· ++ more) (List.map_id first).symm
      · intro k
        rw [entries_of_append, ← List.append_assoc]
        exact after k

theorem Underway.related {related : α → α → Prop} (unchanged : ∀ a, related a a)
    (stepped : ∀ a answer added, contract a answer added → related a answer.1)
    {entries : List α} {progress : Progress α β} {journal : List ε}
    (underway : Underway contract entries progress journal) :
    List.Forall₂ related entries progress.entries := by
  have after : ∀ waiting : List α, List.Forall₂ related waiting waiting :=
    fun waiting => List.forall₂_same.mpr fun a _ => unchanged a
  cases underway with
  | running swept => exact List.rel_append (swept.related stepped) (after _)
  | stopped swept failed =>
      rw [Progress.entries, List.append_assoc]
      exact List.rel_append (swept.related stepped) (.cons (stepped _ _ _ failed) (after _))

end Journaled

def Preserves (property : σ → Prop) (action : StateM σ β) : Prop :=
  ∀ s, property s → property (action s).2

section Preserving

variable {property : σ → Prop} {γ : Type}

theorem preserves_pure (answer : β) : Preserves property (pure answer : StateM σ β) :=
  fun _ holds => holds

theorem Preserves.bind {action : StateM σ β} {next : β → StateM σ γ}
    (first : Preserves property action) (second : ∀ b, Preserves property (next b)) :
    Preserves property (action >>= next) := fun s holds => second _ _ (first s holds)

theorem turn_preserves {step : α → StateM σ (α × Except Error β)}
    (each : ∀ a, Preserves property (step a)) (progress : Progress α β) :
    Preserves property (progress.turn step) := by
  unfold Progress.turn
  split
  · exact (each _).bind fun _ => preserves_pure _
  · exact preserves_pure _

theorem interleave_preserves [DecidableEq κ] {step : α → StateM σ (α × Except Error β)}
    (each : ∀ a, Preserves property (step a)) (turns : List κ) (lists : κ → Progress α β) :
    Preserves property (interleave step turns lists) := by
  induction turns generalizing lists with
  | nil => exact preserves_pure lists
  | cons turn turns ih => exact (turn_preserves each _).bind fun _ => ih _

end Preserving

end BoundSql
