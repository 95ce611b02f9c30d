import Mathlib
import BoundSql.Action

/-!
Actions with a journal. An action that notes its answers does to the host what the action itself
does, and adds entries to a journal that the host does not see. A contract says which entries an
answer comes with. Contracts of steps make contracts of what is composed of the steps, up to
lists of steps of which the first failure is the last, told with or without the hosts in between.
-/

namespace BoundSql

variable {σ ε α β γ : Type}

/-- The action, which then notes its answer at the end of the journal. -/
def noting (note : β → ε) (action : StateM σ β) : StateM (σ × List ε) β := fun host =>
  ((action host.1).1, ((action host.1).2, host.2 ++ [note (action host.1).1]))

/-- The first action is the second one with a journal, and the entries that it adds are related
to its answer by the contract. -/
def Journals (kept : StateM (σ × List ε) β) (action : StateM σ β)
    (contract : β → List ε → Prop) : Prop :=
  ∀ s journal, ∃ added,
    kept (s, journal) = ((action s).1, ((action s).2, journal ++ added)) ∧
      contract (action s).1 added

theorem noting_journals (note : β → ε) (action : StateM σ β) :
    Journals (noting note action) action fun answer added => added = [note answer] := by
  intro s journal
  exact ⟨_, rfl, rfl⟩

theorem noting_journals_given (note : β → ε) (action : StateM σ β) :
    Journals (noting note action) action fun answer added =>
      added = [note answer] ∧ ∃ s, (action s).1 = answer := by
  intro s journal
  exact ⟨_, rfl, rfl, s, rfl⟩

namespace Journals

theorem pure (answer : β) :
    Journals (Pure.pure answer : StateM (σ × List ε) β) (Pure.pure answer)
      fun given added => given = answer ∧ added = [] := by
  intro s journal
  refine ⟨[], ?_, rfl, rfl⟩
  rw [List.append_nil]
  rfl

theorem weaken {kept : StateM (σ × List ε) β} {action : StateM σ β}
    {contract weaker : β → List ε → Prop} (journals : Journals kept action contract)
    (implies : ∀ answer added, contract answer added → weaker answer added) :
    Journals kept action weaker := by
  intro s journal
  obtain ⟨added, same, holds⟩ := journals s journal
  exact ⟨added, same, implies _ _ holds⟩

theorem finished {answer : β} {contract : β → List ε → Prop} (holds : contract answer []) :
    Journals (Pure.pure answer : StateM (σ × List ε) β) (Pure.pure answer) contract := by
  apply (Journals.pure answer).weaken
  intro given added ended
  obtain ⟨same, nothing⟩ := ended
  rw [same, nothing]
  exact holds

theorem bind {kept : StateM (σ × List ε) β} {action : StateM σ β}
    {keptNext : β → StateM (σ × List ε) γ} {next : β → StateM σ γ}
    {contract : β → List ε → Prop} (first : Journals kept action contract)
    (further : β → γ → List ε → Prop)
    (second : ∀ b, Journals (keptNext b) (next b) (further b)) :
    Journals (kept >>= keptNext) (action >>= next) fun c added =>
      ∃ b before after, added = before ++ after ∧ contract b before ∧ further b c after := by
  intro s journal
  obtain ⟨before, same, holds⟩ := first s journal
  obtain ⟨after, sameNext, holdsNext⟩ :=
    second (action s).1 (action s).2 (journal ++ before)
  refine ⟨before ++ after, ?_, (action s).1, before, after, rfl, holds, holdsNext⟩
  show keptNext (kept (s, journal)).1 (kept (s, journal)).2 = _
  rw [same, sameNext, List.append_assoc]
  rfl

/-- What is done after an action that may fail is done only if it does not fail. -/
theorem bind_action {kept : Action (σ × List ε) β} {action : Action σ β}
    {keptNext : β → Action (σ × List ε) γ} {next : β → Action σ γ}
    {contract : Except Error β → List ε → Prop}
    {further : β → Except Error γ → List ε → Prop}
    (first : Journals kept.run action.run contract)
    (second : ∀ b, Journals (keptNext b).run (next b).run (further b)) :
    Journals (kept >>= keptNext).run (action >>= next).run fun c added =>
      (∃ e, c = .error e ∧ contract (.error e) added) ∨
        ∃ b before after, added = before ++ after ∧ contract (.ok b) before ∧
          further b c after := by
  -- The rest runs on an answer, and a failure goes through.
  have continued : ∀ answer : Except Error β,
      Journals (ExceptT.bindCont keptNext answer) (ExceptT.bindCont next answer) fun c added =>
        (∃ e, answer = .error e ∧ c = .error e ∧ added = []) ∨
          ∃ b, answer = .ok b ∧ further b c added := by
    intro answer
    cases answer with
    | error e => exact .finished (Or.inl ⟨e, rfl, rfl, rfl⟩)
    | ok b => exact (second b).weaken fun c added later => Or.inr ⟨b, rfl, later⟩
  apply (first.bind _ continued).weaken
  intro c added ran
  obtain ⟨answer, before, after, both, holds, failed | succeeded⟩ := ran
  · obtain ⟨e, isError, same, nothing⟩ := failed
    rw [nothing, List.append_nil] at both
    rw [isError, ← both] at holds
    exact Or.inl ⟨e, same, holds⟩
  · obtain ⟨b, isOk, later⟩ := succeeded
    rw [isOk] at holds
    exact Or.inr ⟨b, before, after, both, holds, later⟩

end Journals

theorem advance_of_error {step : α → StateM σ (α × Except Error β)} {entry next : α} {e : Error}
    {s later : σ} (stepped : step entry s = ((next, .error e), later)) (entries : List α) :
    advance step (entry :: entries) s = ((next :: entries, .error e), later) := by
  simp only [advance, bind, StateT.bind, stepped]
  rfl

theorem advance_of_ok {step : α → StateM σ (α × Except Error β)} {entry next : α} {b : β}
    {s later final : σ} {entries after : List α} {result : Except Error (List β)}
    (stepped : step entry s = ((next, .ok b), later))
    (rest : advance step entries later = ((after, result), final)) :
    advance step (entry :: entries) s = ((next :: after, result.map (b :: ·)), final) := by
  simp only [advance, bind, StateT.bind, stepped, rest]
  rfl

/-- A step on every entry of a list, none of which failed: the entries before and after, the
answers, and the journal of all the steps. -/
inductive Swept (contract : α → α × Except Error β → List ε → Prop) :
    List α → List α → List β → List ε → Prop where
  | nil : Swept contract [] [] [] []
  | cons {a next : α} {b : β} {added more : List ε} {rest nexts : List α} {bs : List β}
      (head : contract a (next, .ok b) added) (tail : Swept contract rest nexts bs more) :
      Swept contract (a :: rest) (next :: nexts) (b :: bs) (added ++ more)

/-- A step on the entries of a list up to the first failure. -/
inductive Advanced (contract : α → α × Except Error β → List ε → Prop) :
    List α → List α × Except Error (List β) → List ε → Prop where
  | complete {entries nexts : List α} {bs : List β} {added : List ε}
      (swept : Swept contract entries nexts bs added) :
      Advanced contract entries (nexts, .ok bs) added
  | stopped {before nexts after : List α} {a stuck : α} {bs : List β} {e : Error}
      {added last : List ε} (swept : Swept contract before nexts bs added)
      (failed : contract a (stuck, .error e) last) :
      Advanced contract (before ++ a :: after) (nexts ++ stuck :: after, .error e) (added ++ last)

/-- A step on every entry of a list, none of which failed, each on the host that the one before
left: the entries before and after, the answers, the host that is left, and the journal. -/
inductive Passed (step : α → StateM σ (α × Except Error β))
    (contract : α → α × Except Error β → List ε → Prop) :
    List α → σ → List α → List β → σ → List ε → Prop where
  | nil (s : σ) : Passed step contract [] s [] [] s []
  | cons {a next : α} {b : β} {s between final : σ} {added more : List ε} {rest nexts : List α}
      {bs : List β} (ran : step a s = ((next, .ok b), between))
      (head : contract a (next, .ok b) added)
      (tail : Passed step contract rest between nexts bs final more) :
      Passed step contract (a :: rest) s (next :: nexts) (b :: bs) final (added ++ more)

/-- A step on the entries of a list up to the first failure, after which no step is taken. -/
inductive Proceeds (step : α → StateM σ (α × Except Error β))
    (contract : α → α × Except Error β → List ε → Prop) :
    List α → σ → (List α × Except Error (List β)) × σ → List ε → Prop where
  | complete {entries nexts : List α} {bs : List β} {s final : σ} {added : List ε}
      (passed : Passed step contract entries s nexts bs final added) :
      Proceeds step contract entries s ((nexts, .ok bs), final) added
  | stopped {before nexts after : List α} {a stuck : α} {bs : List β} {e : Error}
      {s between final : σ} {added last : List ε}
      (passed : Passed step contract before s nexts bs between added)
      (ran : step a between = ((stuck, .error e), final))
      (failed : contract a (stuck, .error e) last) :
      Proceeds step contract (before ++ a :: after) s ((nexts ++ stuck :: after, .error e), final)
        (added ++ last)

section Lists

variable {kept : α → StateM (σ × List ε) (α × Except Error β)}
  {step : α → StateM σ (α × Except Error β)} {contract : α → α × Except Error β → List ε → Prop}

theorem Proceeds.cons {a next : α} {b : β} {s between final : σ} {added more : List ε}
    {rest after : List α} {result : Except Error (List β)}
    (ran : step a s = ((next, .ok b), between)) (head : contract a (next, .ok b) added)
    (tail : Proceeds step contract rest between ((after, result), final) more) :
    Proceeds step contract (a :: rest) s ((next :: after, result.map (b :: ·)), final)
      (added ++ more) := by
  cases tail with
  | complete passed => exact .complete (.cons ran head passed)
  | stopped passed failedRun failed =>
      rw [← List.append_assoc]
      exact .stopped (.cons ran head passed) failedRun failed

theorem advance_proceeds (each : ∀ a, Journals (kept a) (step a) (contract a)) (entries : List α)
    (s : σ) (journal : List ε) :
    ∃ added, advance kept entries (s, journal) =
        ((advance step entries s).1, ((advance step entries s).2, journal ++ added)) ∧
      Proceeds step contract entries s (advance step entries s) added := by
  induction entries generalizing s journal with
  | nil => exact ⟨[], by rw [List.append_nil]; rfl, .complete (.nil s)⟩
  | cons a rest ih =>
      obtain ⟨added, same, holds⟩ := each a s journal
      rcases stepped : step a s with ⟨⟨next, result⟩, between⟩
      rw [stepped] at same holds
      cases result with
      | error e =>
          rw [advance_of_error stepped, advance_of_error same]
          exact ⟨added, rfl, .stopped (.nil s) stepped holds⟩
      | ok b =>
          obtain ⟨more, sameRest, proceeds⟩ := ih between (journal ++ added)
          rcases ran : advance step rest between with ⟨⟨after, result⟩, final⟩
          rw [ran] at sameRest proceeds
          rw [advance_of_ok stepped ran, advance_of_ok same sameRest, List.append_assoc]
          exact ⟨added ++ more, rfl, .cons stepped holds proceeds⟩

theorem Passed.swept {entries nexts : List α} {bs : List β} {s final : σ} {added : List ε}
    (passed : Passed step contract entries s nexts bs final added) :
    Swept contract entries nexts bs added := by
  induction passed with
  | nil => exact .nil
  | cons ran head tail ih => exact .cons head ih

theorem advance_journals (each : ∀ a, Journals (kept a) (step a) (contract a))
    (entries : List α) :
    Journals (advance kept entries) (advance step entries) (Advanced contract entries) := by
  intro s journal
  obtain ⟨added, same, proceeds⟩ := advance_proceeds each entries s journal
  refine ⟨added, same, ?_⟩
  generalize advance step entries s = reached at proceeds
  cases proceeds with
  | complete passed => exact .complete passed.swept
  | stopped passed ran failed => exact .stopped passed.swept failed

end Lists

section Notes

variable {δ : Type} {note : δ → ε} {contract : α → α × Except Error β → List δ → Prop}

theorem Swept.of_notes {entries nexts : List α} {bs : List β} {added : List ε}
    (swept : Swept (fun a answer added => ∃ noted, added = noted.map note ∧ contract a answer noted)
      entries nexts bs added) :
    ∃ noted, added = noted.map note ∧ Swept contract entries nexts bs noted := by
  induction swept with
  | nil => exact ⟨[], rfl, .nil⟩
  | cons head tail ih =>
      obtain ⟨first, firstNoted, holds⟩ := head
      obtain ⟨rest, restNoted, swept⟩ := ih
      rw [firstNoted, restNoted, ← List.map_append]
      exact ⟨first ++ rest, rfl, .cons holds swept⟩

theorem Advanced.of_notes {entries : List α} {answer : List α × Except Error (List β)}
    {added : List ε}
    (advanced :
      Advanced (fun a answer added => ∃ noted, added = noted.map note ∧ contract a answer noted)
        entries answer added) :
    ∃ noted, added = noted.map note ∧ Advanced contract entries answer noted := by
  cases advanced with
  | complete swept =>
      obtain ⟨noted, same, swept⟩ := swept.of_notes
      exact ⟨noted, same, .complete swept⟩
  | stopped swept failed =>
      obtain ⟨first, firstNoted, swept⟩ := swept.of_notes
      obtain ⟨last, lastNoted, failed⟩ := failed
      rw [firstNoted, lastNoted, ← List.map_append]
      exact ⟨first ++ last, rfl, .stopped swept failed⟩

end Notes

end BoundSql
