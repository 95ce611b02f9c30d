import Mathlib
import BoundSql.Proofs.Snowflake.Course
import BoundSql.Proofs.Snowflake.Ordering

/-!
Clocks on which a request gives no id. A request is refused exactly if the first reading lies back
too far, or lies back a little and the clock is still behind after one sleep. Any other request
that gives no id has come to the end of the clock: there is no reading for it at first, or after
its sleep, or while it waits because the places of the last timestamp are used up and nothing
later has been shown. Such a clock has nothing left to show when the request is over.
-/

namespace BoundSql.Snowflake

variable {σ : Type}

/-- A clock on which a request is refused: how far its last reading lies back, and what the request
asked of its host until then. -/
inductive Clock.Refuses (clock : Clock σ) (last : Int) (s : σ) : Int → List Event → Prop where
  | tooFar {first : Int} {woken : σ} (shown : clock.read s = some (first, woken))
      (far : 5 < last - first) : Refuses clock last s (last - first) [.shown first]
  | stillBehind {first again : Int} {woken awake : σ}
      (shown : clock.read s = some (first, woken)) (behind : 0 < last - first)
      (near : last - first ≤ 5)
      (shownAgain :
        clock.read (clock.sleep (2 * (last - first).toNat) woken) = some (again, awake))
      (still : again < last) :
      Refuses clock last s (last - again)
        [.shown first, .slept (2 * (last - first).toNat), .shown again]

/-- The clock has no reading left before it shows a time after `last`. -/
inductive Clock.Stalls (clock : Clock σ) (last : Int) : σ → Prop where
  | dry {s : σ} (stopped : clock.read s = none) : Stalls clock last s
  | early {s later : σ} {now : Int} (shown : clock.read s = some (now, later)) (early : now ≤ last)
      (rest : Stalls clock last later) : Stalls clock last s

/-- A clock that has no reading left where a request needs one. -/
inductive Clock.Starves (clock : Clock σ) (state : State) (s : σ) : Prop where
  | unread (stopped : clock.read s = none)
  | asleep {first : Int} {woken : σ} (shown : clock.read s = some (first, woken))
      (behind : 0 < state.last - first) (near : state.last - first ≤ 5)
      (stopped : clock.read (clock.sleep (2 * (state.last - first).toNat) woken) = none)
  | waiting {reached : σ} (looked : clock.readFrom state.last s = (.ok state.last, reached))
      (full : state.sequence.val = 4095) (stalls : clock.Stalls state.last reached)

theorem next_eq_none_iff (sequence : Sequence) :
    sequence.next? = none ↔ sequence.val = 4095 := by
  have bound := sequence.isLt
  unfold Sequence.next?
  split <;> simp <;> omega

section Refusals

variable {clock : Clock σ} {s : σ} {last drift : Int} {events : List Event}

/-- The journal of a refusal: no sleep is longer than ten milliseconds, and nothing is drawn. -/
theorem Clock.Refuses.modest (refuses : clock.Refuses last s drift events) :
    (∀ duration, .slept duration ∈ events → duration ≤ 10) ∧ ∀ start, .drawn start ∉ events := by
  cases refuses with
  | tooFar shown far => simp
  | @stillBehind first again woken awake shown behind near shownAgain still =>
      have short : 2 * (last - first).toNat ≤ 10 := by omega
      simpa using short

theorem Clock.Refuses.read_from (refuses : clock.Refuses last s drift events) :
    ∃ later, clock.readFrom last s = (.error (.clockRollback drift), later) ∧
      ∀ journal, clock.noted.readFrom last (s, journal) =
        (.error (.clockRollback drift), (later, journal ++ events)) := by
  cases refuses with
  | @tooFar first woken shown far =>
      have behind : first < last := by omega
      refine ⟨woken, read_from_of_far shown behind far, ?_⟩
      intro journal
      exact read_from_of_far (noted_read_of_some shown) behind far
  | @stillBehind first again woken awake shown ahead near shownAgain still =>
      have behind : first < last := by omega
      have notReached : ¬last ≤ again := Int.not_le.mpr still
      refine ⟨awake, ?_, ?_⟩
      · rw [read_from_of_near shown behind near rfl shownAgain, if_neg notReached]
      · intro journal
        rw [read_from_of_near (noted_read_of_some shown) behind near (noted_sleep_after ..)
          (noted_read_of_some shownAgain), if_neg notReached, List.append_assoc]
        rfl

theorem Clock.Refuses.next {state : State} (node : NodeId)
    (refuses : clock.Refuses state.last s drift events) :
    ∃ later, next clock node (state, s) = (.error (.clockRollback drift), (state, later)) ∧
      next clock.noted node (state, (s, [])) =
        (.error (.clockRollback drift), (state, (later, events))) := by
  obtain ⟨later, refused, noted⟩ := refuses.read_from
  refine ⟨later, ?_, ?_⟩
  · simp only [Snowflake.next, advance_of_error refused]
  · simp only [Snowflake.next, advance_of_error (noted []), List.nil_append]

end Refusals

section Stops

variable {clock : Clock σ} {state : State} {s : σ} {e : Error}

theorem Clock.Stalls.read_after {last : Int} (stalls : clock.Stalls last s) :
    ∃ dry, clock.readAfter last s = (none, dry) ∧ clock.read dry = none := by
  induction stalls with
  | dry stopped => exact ⟨_, read_after_of_none stopped, stopped⟩
  | early shown early rest ih =>
      obtain ⟨dry, waited, stopped⟩ := ih
      refine ⟨dry, ?_, stopped⟩
      rw [read_after_of_some shown, if_neg (Int.not_lt.mpr early), waited]

theorem stalls_of_read_after {last : Int} (waited : (clock.readAfter last s).1 = none) :
    clock.Stalls last s := by
  fun_induction Clock.readAfter clock last s with
  | case1 s stopped => exact .dry stopped
  | case2 s now later shown past => cases waited
  | case3 s now later shown notPast ih =>
      exact .early shown (Int.not_lt.mp notPast) (ih waited)

/-- A clock that starves a call has nothing left to show after it. -/
theorem Clock.Starves.advance (starves : clock.Starves state s) :
    ∃ dry, clock.advance state s = (.error .clockStopped, dry) ∧ clock.read dry = none := by
  cases starves with
  | unread stopped => exact ⟨s, advance_of_error (read_from_of_none stopped), stopped⟩
  | asleep shown ahead near stopped =>
      have behind : _ < state.last := Int.sub_pos.mp ahead
      exact ⟨_, advance_of_error (read_from_of_stopped_asleep shown behind near rfl stopped),
        stopped⟩
  | waiting looked full stalls =>
      obtain ⟨dry, waited, stopped⟩ := stalls.read_after
      exact ⟨dry, advance_of_stuck looked ((next_eq_none_iff _).mpr full) waited, stopped⟩

theorem read_from_failed (failed : (clock.readFrom state.last s).1 = .error e) :
    (∃ drift events, e = .clockRollback drift ∧ clock.Refuses state.last s drift events) ∨
      e = .clockStopped ∧ clock.Starves state s := by
  cases clock.showing state.last s with
  | unread stopped =>
      rw [read_from_of_none stopped] at failed
      cases failed
      exact Or.inr ⟨rfl, .unread stopped⟩
  | prompt shown notBehind =>
      rw [read_from_of_prompt shown notBehind] at failed
      cases failed
  | tooFar shown behind far =>
      rw [read_from_of_far shown behind far] at failed
      cases failed
      exact Or.inl ⟨_, _, rfl, .tooFar shown far⟩
  | asleep shown behind near stopped =>
      rw [read_from_of_stopped_asleep shown behind near rfl stopped] at failed
      cases failed
      exact Or.inr ⟨rfl, .asleep shown (Int.sub_pos.mpr behind) near stopped⟩
  | again shown behind near shownAgain =>
      rw [read_from_of_near shown behind near rfl shownAgain] at failed
      split at failed
      · cases failed
      · rename_i notReached
        cases failed
        exact Or.inl ⟨_, _, rfl, .stillBehind shown (Int.sub_pos.mpr behind) near shownAgain
          (Int.not_le.mp notReached)⟩

theorem advance_failed (failed : (clock.advance state s).1 = .error e) :
    (∃ drift events, e = .clockRollback drift ∧ clock.Refuses state.last s drift events) ∨
      e = .clockStopped ∧ clock.Starves state s := by
  have start : clock.Reaches s s := .refl
  obtain ⟨-, ofReading⟩ := read_from_spec state.last start
  rcases looked : clock.readFrom state.last s with ⟨result, later⟩
  rw [looked] at ofReading
  cases result with
  | error other =>
      rw [advance_of_error looked] at failed
      cases failed
      exact read_from_failed (congrArg Prod.fst looked)
  | ok now =>
      by_cases past : state.last < now
      · rw [advance_of_later looked past] at failed
        cases failed
      have same : now = state.last := by
        have notBehind := (ofReading now rfl).1
        omega
      subst same
      cases next : state.sequence.next? with
      | some sequence =>
          rw [advance_of_free looked next] at failed
          cases failed
      | none =>
          rcases waited : clock.readAfter state.last later with ⟨found, moved⟩
          cases found with
          | some now =>
              rw [advance_of_full looked next waited] at failed
              cases failed
          | none =>
              rw [advance_of_stuck looked next waited] at failed
              cases failed
              exact Or.inr ⟨rfl, .waiting looked ((next_eq_none_iff _).mp next)
                (stalls_of_read_after (congrArg Prod.fst waited))⟩

theorem dry_of_stopped {later : σ} (moved : clock.advance state s = (.error .clockStopped, later)) :
    clock.read later = none := by
  obtain ⟨drift, events, same, -⟩ | ⟨-, starves⟩ := advance_failed (congrArg Prod.fst moved)
  · cases same
  · obtain ⟨dry, stopped, nothing⟩ := starves.advance
    rw [moved] at stopped
    cases stopped
    exact nothing

theorem failure_cases {node : NodeId} (failed : (next clock node (state, s)).1 = .error e) :
    (∃ drift events, e = .clockRollback drift ∧ clock.Refuses state.last s drift events) ∨
      e = .clockStopped ∧ clock.Starves state s := by
  rcases next_cases clock node (state, s) with ⟨other, later, moved, result⟩ | ⟨_, _, -, result⟩
  · rw [result] at failed
    cases failed
    exact advance_failed (congrArg Prod.fst moved)
  · rw [result] at failed
    cases failed

theorem Clock.Starves.next (node : NodeId) (starves : clock.Starves state s) :
    ∃ dry, next clock node (state, s) = (.error .clockStopped, (state, dry)) ∧
      clock.read dry = none := by
  obtain ⟨dry, stopped, nothing⟩ := starves.advance
  refine ⟨dry, ?_, nothing⟩
  simp only [Snowflake.next, stopped]

end Stops

end BoundSql.Snowflake
