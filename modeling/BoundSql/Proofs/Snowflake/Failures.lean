import Mathlib
import BoundSql.Proofs.Snowflake.Places

/-!
Requests that fail. A clock is refused exactly if its first reading lies back too far, or lies back
a little and is still behind after one sleep. A request that fails has read the clock and may have
slept, but it has drawn nothing and leaves the generator as it was. So a run can be replayed from
its readings without the requests that failed and without what they read, and every other request
is answered as before.
-/

namespace BoundSql.Snowflake

variable {σ κ : Type}

def Event.start? : Event → Option Start
  | .shown _ => none
  | .slept _ => none
  | .drawn start => some start

def startsOf (events : List Event) : List Start := events.filterMap Event.start?

theorem starts_of_append (first second : List Event) :
    startsOf (first ++ second) = startsOf first ++ startsOf second :=
  List.filterMap_append

/-- What the clock showed to calls and what was drawn for them, as a clock that shows it again. -/
def material (calls : List (Call κ)) : List Int × List Start :=
  (calls.flatMap fun call => readingsOf call.events,
    calls.flatMap fun call => startsOf call.events)

section Replay

variable {readings : List Int} {starts : List Start}

theorem Looks.draws_nothing {last : Int} {result : Except Error Int} {events : List Event}
    (looks : Looks last result events) : startsOf events = [] := by
  cases looks <;> rfl

theorem Waits.draws_nothing {last : Int} {found : Option Int} {events : List Event}
    (waits : Waits last found events) : startsOf events = [] := by
  have passing (passed : List Int) : startsOf (passed.map .shown) = [] := by
    rw [startsOf, List.filterMap_map]
    exact List.filterMap_eq_nil_iff.mpr fun _ _ => rfl
  cases waits with
  | later early past =>
      rw [starts_of_append, passing]
      rfl
  | stopped early => exact passing _

theorem Looks.replayed {last : Int} {result : Except Error Int} {events : List Event}
    (looks : Looks last result events) (running : result ≠ .error .clockStopped) :
    Clock.replay.readFrom last (readingsOf events ++ readings, starts) =
      (result, (readings, starts)) := by
  cases looks with
  | prompt notBehind => exact read_from_of_prompt rfl notBehind
  | caughtUp behind near notBehind =>
      rw [read_from_of_near rfl behind near rfl rfl, if_pos notBehind]
      rfl
  | @tooFar first far =>
      have behind : first < last := by
        rw [tolerance] at far
        omega
      exact read_from_of_far rfl behind far
  | stillBehind behind near still =>
      rw [read_from_of_near rfl behind near rfl rfl, if_neg (Int.not_le.mpr still)]
      rfl
  | stopped => exact absurd rfl running
  | stoppedAsleep behind near => exact absurd rfl running

theorem read_after_replayed {last now : Int} {passed : List Int}
    (early : ∀ reading ∈ passed, reading ≤ last) (past : last < now) :
    Clock.replay.readAfter last (passed ++ now :: readings, starts) =
      (some now, (readings, starts)) := by
  induction passed with
  | nil =>
      rw [List.nil_append, read_after_of_some rfl, if_pos past]
  | cons reading passed ih =>
      rw [List.forall_mem_cons] at early
      rw [List.cons_append, read_after_of_some rfl, if_neg (Int.not_lt.mpr early.1)]
      exact ih early.2

theorem Waits.replayed {last now : Int} {events : List Event}
    (waits : Waits last (some now) events) :
    Clock.replay.readAfter last (readingsOf events ++ readings, starts) =
      (some now, (readings, starts)) := by
  obtain ⟨past, passed, early, same⟩ := waits.readings
  rw [same, List.append_assoc]
  exact read_after_replayed early past

/-- A clock that shows and draws the same leads to the same course. -/
theorem Course.replayed {state : State} {outcome : Except Error State} {events : List Event}
    (course : Course state outcome events) (running : outcome ≠ .error .clockStopped) :
    Clock.replay.advance state (readingsOf events ++ readings, startsOf events ++ starts) =
      (outcome, (readings, starts)) := by
  cases course with
  | place looks free =>
      rw [looks.draws_nothing]
      exact advance_of_free (looks.replayed (by simp)) free
  | exhausted looks full waits =>
      rw [readings_of_append, starts_of_append, looks.draws_nothing, waits.draws_nothing,
        List.append_assoc]
      exact advance_of_full (looks.replayed (by simp)) full waits.replayed
  | fresh start looks past =>
      rw [readings_of_append, starts_of_append, looks.draws_nothing, List.append_assoc]
      exact advance_of_later (looks.replayed (by simp)) past
  | @refused front e looks =>
      have lookRunning : (.error e : Except Error Int) ≠ .error .clockStopped := by
        rintro same
        cases same
        exact running rfl
      rw [looks.draws_nothing]
      exact advance_of_error (looks.replayed lookRunning)
  | stopped looks full waits => exact absurd rfl running

theorem next_replayed {state : State} {outcome : Except Error State} {events : List Event}
    (node : NodeId) (course : Course state outcome events)
    (running : outcome ≠ .error .clockStopped) :
    next Clock.replay node (state, (readingsOf events ++ readings, startsOf events ++ starts)) =
      (outcome.map fun following => following.id node,
        (state.after outcome, (readings, starts))) := by
  have moved : Clock.replay.advance state
      (readingsOf events ++ readings, startsOf events ++ starts) =
        (outcome, (readings, starts)) := course.replayed running
  cases outcome <;> simp only [next, moved] <;> rfl

end Replay

/-- Calls that are made again, without some of those that failed, are answered as before. -/
theorem serve_replayed {clock : Clock σ} (node : NodeId) (callers : List κ) (state : State) (s : σ)
    (keep : Call κ → Bool)
    (failing : ∀ call ∈ history clock node callers (state, s), keep call = false →
      ∃ e, call.result = .error e)
    (running : ∀ call ∈ history clock node callers (state, s), keep call = true →
      call.result ≠ .error .clockStopped) :
    serve Clock.replay node
        (((history clock node callers (state, s)).filter keep).map Call.caller)
        (state, material ((history clock node callers (state, s)).filter keep)) =
      ((history clock node callers (state, s)).filter keep).map Call.answer := by
  induction callers generalizing state s with
  | nil => rfl
  | cons caller rest ih =>
      obtain ⟨outcome, later, events, course, -, -, noted⟩ := next_noted clock node state s
      rw [history, noted] at failing running ⊢
      dsimp only at failing running ⊢
      rw [List.forall_mem_cons] at failing running
      have following := ih (state.after outcome) later failing.2 running.2
      cases kept : keep ⟨caller, state, events, outcome.map fun following => following.id node,
        (clock.read later).map Prod.fst⟩ with
      | false =>
          -- The call failed, so the rest begins in the state in which the call was made.
          obtain ⟨e, failed⟩ := failing.1 kept
          cases outcome with
          | ok reached => cases failed
          | error other =>
              rw [List.filter_cons_of_neg (by simp [kept])]
              exact following
      | true =>
          have ran : outcome ≠ .error .clockStopped := by
            rintro rfl
            exact running.1 kept rfl
          rw [List.filter_cons_of_pos kept, List.map_cons, List.map_cons, serve_cons]
          rw [material, List.flatMap_cons, List.flatMap_cons, next_replayed node course ran]
          exact congrArg _ following

/-- A request fails on the clocks that are refused, with the drift of the last reading, and on no
other clock that goes on: else it gives no id only where the clock stops on it, and then the clock
has nothing left to show. A refused request has asked its host for one or two readings and for one
sleep between the two, of twice the drift, and has drawn nothing; a request that fails leaves the
generator as it was. The calls of a run are answered alike when some of those that failed are left
out together with their readings. -/
theorem failed_requests_leave_no_trace (clock : Clock σ) (node : NodeId) :
    (∀ (state : State) (s : σ),
      (∀ drift, (next clock node (state, s)).1 = .error (.clockRollback drift) ↔
        ∃ events, clock.Refuses state.last s drift events) ∧
      (∀ drift events, clock.Refuses state.last s drift events →
        (∃ later, next clock.noted node (state, (s, [])) =
          (.error (.clockRollback drift), (state, (later, events)))) ∧
        (∀ duration, .slept duration ∈ events → duration ≤ 10) ∧
        ∀ start, .drawn start ∉ events) ∧
      (clock.read (next clock node (state, s)).2.2 ≠ none →
        ((∃ e, (next clock node (state, s)).1 = .error e) ↔
          ∃ drift events, clock.Refuses state.last s drift events)) ∧
      ((next clock node (state, s)).1 = .error .clockStopped ↔ clock.Starves state s) ∧
      ∀ e, (next clock node (state, s)).1 = .error e →
        (next clock node (state, s)).2.1 = state ∧
          ((∃ drift, e = .clockRollback drift) ∨
            e = .clockStopped ∧ clock.read (next clock node (state, s)).2.2 = none)) ∧
    ∀ (callers : List κ) (state : State) (s : σ) (keep : Call κ → Bool),
      (history clock node callers (state, s)).map Call.answer =
          serve clock node callers (state, s) ∧
        ((∀ call ∈ history clock node callers (state, s), keep call = false →
            ∃ e, call.result = .error e) →
          (∀ call ∈ history clock node callers (state, s), keep call = true →
            call.result ≠ .error .clockStopped) →
          serve Clock.replay node
              (((history clock node callers (state, s)).filter keep).map Call.caller)
              (state, material ((history clock node callers (state, s)).filter keep)) =
            ((history clock node callers (state, s)).filter keep).map Call.answer) := by
  constructor
  · intro state s
    have refused : ∀ drift, (next clock node (state, s)).1 = .error (.clockRollback drift) ↔
        ∃ events, clock.Refuses state.last s drift events := by
      intro drift
      constructor
      · intro failed
        obtain ⟨other, events, same, refuses⟩ | ⟨stopped, -⟩ := failure_cases failed
        · cases same
          exact ⟨events, refuses⟩
        · cases stopped
      · rintro ⟨events, refuses⟩
        obtain ⟨later, answered, -⟩ := refuses.next node
        rw [answered]
    have failing : ∀ e, (next clock node (state, s)).1 = .error e →
        (next clock node (state, s)).2.1 = state ∧
          ((∃ drift, e = .clockRollback drift) ∨
            e = .clockStopped ∧ clock.read (next clock node (state, s)).2.2 = none) := by
      intro e failed
      refine ⟨next_eq_error failed, ?_⟩
      obtain ⟨drift, events, same, -⟩ | ⟨stopped, starves⟩ := failure_cases failed
      · exact Or.inl ⟨drift, same⟩
      · obtain ⟨dry, left, nothing⟩ := starves.next node
        rw [left]
        exact Or.inr ⟨stopped, nothing⟩
    refine ⟨refused, ?_, ?_, ?_, failing⟩
    · intro drift events refuses
      obtain ⟨later, -, noted⟩ := refuses.next node
      exact ⟨⟨later, noted⟩, refuses.modest⟩
    · intro goesOn
      constructor
      · rintro ⟨e, failed⟩
        obtain ⟨-, ⟨drift, rfl⟩ | ⟨-, nothing⟩⟩ := failing e failed
        · exact ⟨drift, (refused drift).mp failed⟩
        · exact absurd nothing goesOn
      · rintro ⟨drift, refuses⟩
        exact ⟨_, (refused drift).mpr refuses⟩
    · constructor
      · intro stopped
        obtain ⟨drift, events, same, -⟩ | ⟨-, starves⟩ := failure_cases stopped
        · cases same
        · exact starves
      · intro starves
        obtain ⟨dry, answered, -⟩ := starves.next node
        rw [answered]
  · intro callers state s keep
    exact ⟨history_answers clock node callers (state, s),
      serve_replayed node callers state s keep⟩

/-- The run on the unsteady clock has two refusals, one of them after a sleep. A clock that goes
no further when the places are used up refuses nothing and stops. -/
theorem unsteady_run_without_refusals :
    Clock.replay.Refuses (epoch + 1) ([epoch - 1, epoch, epoch + 2], [.two]) 1
        [.shown (epoch - 1), .slept 4, .shown epoch] ∧
      Clock.replay.read
          (next Clock.replay 7 (⟨epoch + 1, 3⟩, ([epoch - 1, epoch, epoch + 2], [.two]))).2.2 ≠
        none ∧
      (∃ e, (next Clock.replay 7
        (⟨epoch + 1, 3⟩, ([epoch - 1, epoch, epoch + 2], [.two]))).1 = .error e) ∧
      Clock.replay.Starves ⟨epoch + 1, 4095⟩ ([epoch + 1, epoch - 3], [.two]) ∧
      (next Clock.replay 7 (⟨epoch + 1, 4095⟩, ([epoch + 1, epoch - 3], [.two]))).1 =
        .error .clockStopped ∧
      (unsteadyCalls 7).map Call.answer =
        [("a", .ok 4222977), ("b", .ok 4222978), ("b", .error (.clockRollback 50)),
          ("a", .ok 4222979), ("b", .error (.clockRollback 1)), ("a", .ok 8417282)] ∧
      (∀ call ∈ unsteadyCalls 7, call.result.isOk = false → ∃ e, call.result = .error e) ∧
      (∀ call ∈ unsteadyCalls 7, call.result.isOk = true →
        call.result ≠ .error .clockStopped) ∧
      serve Clock.replay 7 ["a", "b", "a", "a"] (State.initial,
          ([epoch + 1, epoch + 1, epoch - 2, epoch + 1, epoch + 2], [.one, .two])) =
        [("a", .ok 4222977), ("b", .ok 4222978), ("a", .ok 4222979), ("a", .ok 8417282)] := by
  have refuses : Clock.replay.Refuses (epoch + 1) ([epoch - 1, epoch, epoch + 2], [.two]) 1
      [.shown (epoch - 1), .slept 4, .shown epoch] := by
    have near : epoch + 1 - (epoch - 1) ≤ 5 := by decide
    have still : epoch < epoch + 1 := by decide
    exact .stillBehind rfl (by decide) near rfl still
  have starves : Clock.replay.Starves ⟨epoch + 1, 4095⟩ ([epoch + 1, epoch - 3], [.two]) := by
    have early : epoch - 3 ≤ epoch + 1 := by decide
    exact .waiting (read_from_of_prompt rfl (Int.le_refl _)) rfl (.early rfl early (.dry rfl))
  have goesOn : Clock.replay.read
      (next Clock.replay 7 (⟨epoch + 1, 3⟩, ([epoch - 1, epoch, epoch + 2], [.two]))).2.2 ≠
        none := by decide
  have failing : ∀ call ∈ unsteadyCalls 7, call.result.isOk = false →
      ∃ e, call.result = .error e := by
    intro call member failed
    cases answered : call.result with
    | error e => exact ⟨e, rfl⟩
    | ok id =>
        rw [answered] at failed
        cases failed
  have running : ∀ call ∈ unsteadyCalls 7, call.result.isOk = true →
      call.result ≠ .error .clockStopped := by
    intro call member answered stopped
    rw [stopped] at answered
    cases answered
  obtain ⟨requests, runs⟩ := failed_requests_leave_no_trace (κ := String) Clock.replay 7
  obtain ⟨-, -, failsIff, -, -⟩ := requests ⟨epoch + 1, 3⟩ ([epoch - 1, epoch, epoch + 2], [.two])
  obtain ⟨-, -, -, stopsIff, -⟩ := requests ⟨epoch + 1, 4095⟩ ([epoch + 1, epoch - 3], [.two])
  have replayed := (runs _ State.initial unsteady fun call => call.result.isOk).2 failing running
  exact ⟨refuses, goesOn, (failsIff goesOn).mpr ⟨_, _, refuses⟩, starves, stopsIff.mpr starves, rfl,
    failing, running, replayed⟩

end BoundSql.Snowflake
