import Mathlib
import BoundSql.Proofs.Journal
import BoundSql.Snowflake.Generator

/-!
What one call of a generator asks of its host. A clock can note its readings, the time that is
slept and the starts that are drawn in a journal, which changes nothing about what it shows. The
courses that a call may take are listed by their journals: with each course comes what the call
gives, so that nothing is asked beyond what the course says.
-/

namespace BoundSql.Snowflake

inductive Event where
  | shown (now : Int)
  | slept (duration : Nat)
  | drawn (start : Start)
deriving DecidableEq, Repr

def Event.reading? : Event → Option Int
  | .shown now => some now
  | .slept _ => none
  | .drawn _ => none

def readingsOf (events : List Event) : List Int := events.filterMap Event.reading?

theorem readings_of_append (first second : List Event) :
    readingsOf (first ++ second) = readingsOf first ++ readingsOf second :=
  List.filterMap_append

theorem readings_of_shown (readings : List Int) :
    readingsOf (readings.map .shown) = readings := by
  rw [readingsOf, List.filterMap_map]
  exact List.filterMap_some

variable {σ : Type}

/-- The clock, which then notes what it was asked at the end of a journal. -/
def Clock.noted (clock : Clock σ) : Clock (σ × List Event) where
  read host := (clock.read host.1).map fun shown => (shown.1, (shown.2, host.2 ++ [.shown shown.1]))
  supply host := clock.supply host.1
  supply_read := by
    intro host now later shown
    obtain ⟨⟨reading, after⟩, read, same⟩ := Option.map_eq_some_iff.mp shown
    cases same
    exact clock.supply_read host.1 reading after read
  sleep duration host := (clock.sleep duration host.1, host.2 ++ [.slept duration])
  start host :=
    ((clock.start host.1).1, ((clock.start host.1).2, host.2 ++ [.drawn (clock.start host.1).1]))

section Noted

variable {clock : Clock σ} {s later : σ} {journal : List Event}

theorem noted_read_of_some {now : Int} (shown : clock.read s = some (now, later)) :
    clock.noted.read (s, journal) = some (now, (later, journal ++ [.shown now])) := by
  simp only [Clock.noted, shown, Option.map_some]

theorem noted_read_of_none (stopped : clock.read s = none) :
    clock.noted.read (s, journal) = none := by
  simp only [Clock.noted, stopped, Option.map_none]

theorem noted_sleep_after (clock : Clock σ) (duration : Nat) (s : σ) (journal : List Event)
    (event : Event) :
    clock.noted.sleep duration (s, journal ++ [event]) =
      (clock.sleep duration s, journal ++ [event, .slept duration]) := by
  simp only [Clock.noted, List.append_assoc, List.singleton_append]

end Noted

/-- Waiting for a time after `last`: every reading that is not later is passed over, and the
first one that is later ends it. -/
inductive Waits (last : Int) : Option Int → List Event → Prop where
  | later {passed : List Int} {now : Int} (early : ∀ reading ∈ passed, reading ≤ last)
      (past : last < now) : Waits last (some now) (passed.map .shown ++ [.shown now])
  | stopped {passed : List Int} (early : ∀ reading ∈ passed, reading ≤ last) :
      Waits last none (passed.map .shown)

/-- Looking for a reading that does not lie before `last`, with one sleep if the first reading
lies before it by no more than the tolerance. -/
inductive Looks (last : Int) : Except Error Int → List Event → Prop where
  | prompt {now : Int} (notBehind : last ≤ now) : Looks last (.ok now) [.shown now]
  | caughtUp {first now : Int} (behind : first < last) (near : last - first ≤ tolerance)
      (notBehind : last ≤ now) :
      Looks last (.ok now) [.shown first, .slept (2 * (last - first).toNat), .shown now]
  | tooFar {first : Int} (far : tolerance < last - first) :
      Looks last (.error (.clockRollback (last - first))) [.shown first]
  | stillBehind {first again : Int} (behind : first < last) (near : last - first ≤ tolerance)
      (still : again < last) :
      Looks last (.error (.clockRollback (last - again)))
        [.shown first, .slept (2 * (last - first).toNat), .shown again]
  | stopped : Looks last (.error .clockStopped) []
  | stoppedAsleep {first : Int} (behind : first < last) (near : last - first ≤ tolerance) :
      Looks last (.error .clockStopped) [.shown first, .slept (2 * (last - first).toNat)]

inductive Course (state : State) : Except Error State → List Event → Prop where
  | place {front : List Event} {sequence : Sequence}
      (looks : Looks state.last (.ok state.last) front)
      (free : state.sequence.next? = some sequence) :
      Course state (.ok ⟨state.last, sequence⟩) front
  | exhausted {front spin : List Event} {now : Int}
      (looks : Looks state.last (.ok state.last) front)
      (full : state.sequence.next? = none) (waits : Waits state.last (some now) spin) :
      Course state (.ok ⟨now, .first⟩) (front ++ spin)
  | fresh {front : List Event} {now : Int} (start : Start)
      (looks : Looks state.last (.ok now) front) (past : state.last < now) :
      Course state (.ok ⟨now, start.sequence⟩) (front ++ [.drawn start])
  | refused {front : List Event} {e : Error} (looks : Looks state.last (.error e) front) :
      Course state (.error e) front
  | stopped {front spin : List Event} (looks : Looks state.last (.ok state.last) front)
      (full : state.sequence.next? = none) (waits : Waits state.last none spin) :
      Course state (.error .clockStopped) (front ++ spin)

theorem Waits.pass {last first : Int} {found : Option Int} {events : List Event}
    (early : first ≤ last) (waits : Waits last found events) :
    Waits last found (.shown first :: events) := by
  cases waits with
  | later allEarly past =>
      exact .later (List.forall_mem_cons.mpr ⟨early, allEarly⟩) past
  | stopped allEarly => exact .stopped (List.forall_mem_cons.mpr ⟨early, allEarly⟩)

/-- A reading that was looked for does not lie before `last`; the one before it does. -/
theorem Looks.readings {last now : Int} {events : List Event}
    (looks : Looks last (.ok now) events) :
    last ≤ now ∧ ∃ behind : List Int, (∀ reading ∈ behind, reading < last) ∧
      readingsOf events = behind ++ [now] := by
  cases looks with
  | prompt notBehind => exact ⟨notBehind, [], nofun, rfl⟩
  | @caughtUp first now behind near notBehind =>
      exact ⟨notBehind, [first], List.forall_mem_singleton.mpr behind, rfl⟩

theorem Looks.readings_of_error {last : Int} {e : Error} {events : List Event}
    (looks : Looks last (.error e) events) : ∀ reading ∈ readingsOf events, reading < last := by
  cases looks with
  | @tooFar first far =>
      have behind : first < last := by
        rw [tolerance] at far
        omega
      exact List.forall_mem_singleton.mpr behind
  | stillBehind behind near still =>
      exact List.forall_mem_cons.mpr ⟨behind, List.forall_mem_singleton.mpr still⟩
  | stopped => exact nofun
  | stoppedAsleep behind near => exact List.forall_mem_singleton.mpr behind

section Courses

variable {clock : Clock σ} {s later : σ} {journal : List Event}

theorem read_after_of_none {last : Int} (stopped : clock.read s = none) :
    clock.readAfter last s = (none, s) := by
  rw [Clock.readAfter]
  split
  · rfl
  · rename_i shown
    rw [stopped] at shown
    cases shown

theorem read_after_of_some {last now : Int} (shown : clock.read s = some (now, later)) :
    clock.readAfter last s =
      if last < now then (some now, later) else clock.readAfter last later := by
  rw [Clock.readAfter]
  split
  · rename_i stopped
    rw [shown] at stopped
    cases stopped
  · rename_i other
    rw [shown] at other
    cases other
    rfl

theorem read_from_of_none {last : Int} (stopped : clock.read s = none) :
    clock.readFrom last s = (.error .clockStopped, s) := by
  simp only [Clock.readFrom, stopped]

theorem read_from_of_prompt {last first : Int} (shown : clock.read s = some (first, later))
    (notBehind : last ≤ first) : clock.readFrom last s = (.ok first, later) := by
  simp only [Clock.readFrom, shown, if_pos notBehind]

theorem read_from_of_far {last first : Int} (shown : clock.read s = some (first, later))
    (behind : first < last) (far : tolerance < last - first) :
    clock.readFrom last s = (.error (.clockRollback (last - first)), later) := by
  simp only [Clock.readFrom, shown, if_neg (Int.not_le.mpr behind), if_pos far]

theorem read_from_of_stopped_asleep {last first : Int} {asleep : σ}
    (shown : clock.read s = some (first, later)) (behind : first < last)
    (near : last - first ≤ tolerance)
    (slept : clock.sleep (2 * (last - first).toNat) later = asleep)
    (stopped : clock.read asleep = none) :
    clock.readFrom last s = (.error .clockStopped, asleep) := by
  simp only [Clock.readFrom, shown, if_neg (Int.not_le.mpr behind), if_neg (Int.not_lt.mpr near),
    slept, stopped]

theorem read_from_of_near {last first again : Int} {asleep awake : σ}
    (shown : clock.read s = some (first, later)) (behind : first < last)
    (near : last - first ≤ tolerance)
    (slept : clock.sleep (2 * (last - first).toNat) later = asleep)
    (shownAgain : clock.read asleep = some (again, awake)) :
    clock.readFrom last s =
      if last ≤ again then (.ok again, awake)
      else (.error (.clockRollback (last - again)), awake) := by
  simp only [Clock.readFrom, shown, if_neg (Int.not_le.mpr behind), if_neg (Int.not_lt.mpr near),
    slept, shownAgain]

variable {state : State}

theorem advance_of_error {e : Error} (looked : clock.readFrom state.last s = (.error e, later)) :
    clock.advance state s = (.error e, later) := by
  simp only [Clock.advance, looked]

theorem advance_of_free {sequence : Sequence}
    (looked : clock.readFrom state.last s = (.ok state.last, later))
    (free : state.sequence.next? = some sequence) :
    clock.advance state s = (.ok ⟨state.last, sequence⟩, later) := by
  simp only [Clock.advance, looked, if_pos, free]

theorem advance_of_full {now : Int} {moved : σ}
    (looked : clock.readFrom state.last s = (.ok state.last, later))
    (full : state.sequence.next? = none)
    (waited : clock.readAfter state.last later = (some now, moved)) :
    clock.advance state s = (.ok ⟨now, .first⟩, moved) := by
  simp only [Clock.advance, looked, if_pos, full, waited]

theorem advance_of_stuck {stuck : σ}
    (looked : clock.readFrom state.last s = (.ok state.last, later))
    (full : state.sequence.next? = none)
    (waited : clock.readAfter state.last later = (none, stuck)) :
    clock.advance state s = (.error .clockStopped, stuck) := by
  simp only [Clock.advance, looked, if_pos, full, waited]

theorem advance_of_later {now : Int} (looked : clock.readFrom state.last s = (.ok now, later))
    (past : state.last < now) :
    clock.advance state s =
      (.ok ⟨now, (clock.start later).1.sequence⟩, (clock.start later).2) := by
  simp only [Clock.advance, looked, if_neg (Int.ne_of_gt past)]

theorem journaled {β : Type} {kept : StateM (σ × List Event) β} {action : StateM σ β}
    {contract : β → List Event → Prop} {answer : β} {added : List Event}
    (plain : action s = (answer, later))
    (noted : kept (s, journal) = (answer, (later, journal ++ added)))
    (holds : contract answer added) :
    ∃ added, kept (s, journal) = ((action s).1, ((action s).2, journal ++ added)) ∧
      contract (action s).1 added := by
  rw [plain]
  exact ⟨added, noted, holds⟩

theorem read_after_journals (clock : Clock σ) (last : Int) :
    Journals (clock.noted.readAfter last) (clock.readAfter last) (Waits last) := by
  intro s
  fun_induction Clock.readAfter clock last s with
  | case1 s stopped =>
      intro journal
      refine ⟨[], ?_, @Waits.stopped last [] (List.forall_mem_nil _)⟩
      rw [read_after_of_none (noted_read_of_none stopped), List.append_nil]
  | case2 s now later shown past =>
      intro journal
      refine ⟨[.shown now], ?_, @Waits.later last [] now (List.forall_mem_nil _) past⟩
      rw [read_after_of_some (noted_read_of_some shown), if_pos past]
  | case3 s now later shown notPast ih =>
      intro journal
      obtain ⟨added, same, waits⟩ := ih (journal ++ [.shown now])
      refine ⟨.shown now :: added, ?_, waits.pass (by omega)⟩
      rw [read_after_of_some (noted_read_of_some shown), if_neg notPast, same,
        List.append_assoc, List.singleton_append]

/-- What a clock has to show to a call that looks for a reading: one reading, or a second one
after a sleep. -/
inductive Clock.Showing (clock : Clock σ) (last : Int) (s : σ) : Prop where
  | unread (stopped : clock.read s = none)
  | prompt {first : Int} {woken : σ} (shown : clock.read s = some (first, woken))
      (notBehind : last ≤ first)
  | tooFar {first : Int} {woken : σ} (shown : clock.read s = some (first, woken))
      (behind : first < last) (far : tolerance < last - first)
  | asleep {first : Int} {woken : σ} (shown : clock.read s = some (first, woken))
      (behind : first < last) (near : last - first ≤ tolerance)
      (stopped : clock.read (clock.sleep (2 * (last - first).toNat) woken) = none)
  | again {first again : Int} {woken awake : σ} (shown : clock.read s = some (first, woken))
      (behind : first < last) (near : last - first ≤ tolerance)
      (shownAgain :
        clock.read (clock.sleep (2 * (last - first).toNat) woken) = some (again, awake))

theorem Clock.showing (clock : Clock σ) (last : Int) (s : σ) : clock.Showing last s := by
  cases atFirst : clock.read s with
  | none => exact .unread atFirst
  | some shown =>
      obtain ⟨first, woken⟩ := shown
      by_cases notBehind : last ≤ first
      · exact .prompt atFirst notBehind
      have behind : first < last := Int.not_le.mp notBehind
      by_cases far : tolerance < last - first
      · exact .tooFar atFirst behind far
      have near : last - first ≤ tolerance := Int.not_lt.mp far
      cases atSecond : clock.read (clock.sleep (2 * (last - first).toNat) woken) with
      | none => exact .asleep atFirst behind near atSecond
      | some shown => exact .again atFirst behind near atSecond

theorem read_from_journals (clock : Clock σ) (last : Int) :
    Journals (clock.noted.readFrom last) (clock.readFrom last) (Looks last) := by
  intro s journal
  cases clock.showing last s with
  | unread stopped =>
      have noted : clock.noted.readFrom last (s, journal) =
          (.error .clockStopped, (s, journal ++ [])) := by
        rw [List.append_nil]
        exact read_from_of_none (noted_read_of_none stopped)
      exact journaled (read_from_of_none stopped) noted .stopped
  | prompt shown notBehind =>
      exact journaled (read_from_of_prompt shown notBehind)
        (read_from_of_prompt (noted_read_of_some shown) notBehind) (.prompt notBehind)
  | tooFar shown behind far =>
      exact journaled (read_from_of_far shown behind far)
        (read_from_of_far (noted_read_of_some shown) behind far) (.tooFar far)
  | asleep shown behind near stopped =>
      exact journaled (read_from_of_stopped_asleep shown behind near rfl stopped)
        (read_from_of_stopped_asleep (noted_read_of_some shown) behind near
          (noted_sleep_after ..) (noted_read_of_none stopped))
        (.stoppedAsleep behind near)
  | again shown behind near shownAgain =>
      have plain := read_from_of_near shown behind near rfl shownAgain
      have noted := read_from_of_near (noted_read_of_some shown) behind near
        (noted_sleep_after clock _ _ journal _) (noted_read_of_some shownAgain)
      rw [List.append_assoc] at noted
      split at plain
      · rename_i caughtUp
        rw [if_pos caughtUp] at noted
        exact journaled plain noted (.caughtUp behind near caughtUp)
      · rename_i caughtUp
        rw [if_neg caughtUp] at noted
        exact journaled plain noted (.stillBehind behind near (Int.not_le.mp caughtUp))

/-- A call takes one of the courses, and asks its host for what the course says. -/
theorem advance_journals (clock : Clock σ) (state : State) :
    Journals (clock.noted.advance state) (clock.advance state) (Course state) := by
  intro s journal
  obtain ⟨front, notedFront, looks⟩ := read_from_journals clock state.last s journal
  rcases looked : clock.readFrom state.last s with ⟨result, reached⟩
  rw [looked] at notedFront looks
  dsimp only at notedFront looks
  cases result with
  | error e =>
      exact journaled (advance_of_error looked) (advance_of_error notedFront) (.refused looks)
  | ok now =>
      by_cases past : state.last < now
      · have noted := advance_of_later notedFront past
        have drawn : clock.noted.start (reached, journal ++ front) =
            ((clock.start reached).1, ((clock.start reached).2,
              journal ++ (front ++ [.drawn (clock.start reached).1]))) := by
          rw [← List.append_assoc]
          rfl
        rw [drawn] at noted
        exact journaled (advance_of_later looked past) noted (.fresh _ looks past)
      have same : now = state.last := by
        have notBehind := looks.readings.1
        omega
      subst same
      cases next : state.sequence.next? with
      | some sequence =>
          exact journaled (advance_of_free looked next) (advance_of_free notedFront next)
            (.place looks next)
      | none =>
          obtain ⟨spin, notedSpin, waits⟩ :=
            read_after_journals clock state.last reached (journal ++ front)
          rcases waited : clock.readAfter state.last reached with ⟨found, moved⟩
          rw [waited, List.append_assoc] at notedSpin
          rw [waited] at waits
          cases found with
          | none =>
              exact journaled (advance_of_stuck looked next waited)
                (advance_of_stuck notedFront next notedSpin) (.stopped looks next waits)
          | some now =>
              exact journaled (advance_of_full looked next waited)
                (advance_of_full notedFront next notedSpin) (.exhausted looks next waits)

end Courses

end BoundSql.Snowflake
