import Mathlib
import BoundSql.Proofs.Snowflake.Bijection
import BoundSql.Proofs.Snowflake.Refusals

/-!
The places within a millisecond. The history of a run tells for every call in which state it found
the generator and what the clock showed to it. The state is that of the id that was issued last,
and the timestamp of an id is the last reading of its own call. The ids of one millisecond are
issued one after the other, at places that follow one another without a gap: from the first place
if the millisecond was waited for, otherwise from one of the two starts.
-/

namespace BoundSql.Snowflake

variable {σ κ : Type}

/-- One call: the state in which it found the generator, what it asked of its host, what it gave,
and the reading that the clock would show next. -/
structure Call (κ : Type) where
  caller : κ
  state : State
  events : List Event
  result : Except Error Int64
  ahead : Option Int

def history (clock : Clock σ) (node : NodeId) : List κ → State × σ → List (Call κ)
  | [], _ => []
  | caller :: rest, (state, s) =>
      let (result, (reached, (later, events))) := next clock.noted node (state, (s, []))
      ⟨caller, state, events, result, (clock.read later).map Prod.fst⟩ ::
        history clock node rest (reached, later)

namespace Call

def answer (call : Call κ) : κ × Except Error Int64 := (call.caller, call.result)

def readings (call : Call κ) : List Int := readingsOf call.events

/-- The reading that the call accepts: the first one that does not lie before the last
timestamp. -/
def accepted? (call : Call κ) : Option Int :=
  call.readings.find? fun reading => call.state.last ≤ reading

/-- The readings that the call makes after the accepted one, waiting for a later millisecond. -/
def spin (call : Call κ) : List Int :=
  (call.readings.dropWhile fun reading => reading < call.state.last).tail

def Exhausts (call : Call κ) : Prop :=
  call.accepted? = some call.state.last ∧ call.state.sequence.val = 4095

/-- The clock has shown no later time to a call that waits, and has none left to show. -/
def Starved (call : Call κ) : Prop :=
  (∀ reading ∈ call.spin, reading ≤ call.state.last) ∧ call.ahead = none

/-- What a call does with its readings. An id has the time that was read last. The clock is read
again after the accepted reading exactly if the places are used up; then all readings are passed
over that are not later than the last timestamp, and the first later one ends the wait with an
id. Only a clock that has come to its end ends it without one. -/
structure Disciplined (call : Call κ) : Prop where
  current : ∀ id, call.result = .ok id →
    call.readings.getLast? = some (decompose id).timestamp
  direct : ¬call.Exhausts → call.spin = []
  waits : call.Exhausts → ¬call.Starved →
    ∃ passed now id, call.result = .ok id ∧ call.spin = passed ++ [now] ∧
      (∀ reading ∈ passed, reading ≤ call.state.last) ∧ call.state.last < now
  stops : call.Exhausts → call.Starved → call.result = .error .clockStopped

end Call

def issuesOf (calls : List (Call κ)) : List (Call κ × Int64) :=
  calls.filterMap fun call => call.result.toOption.map fun id => (call, id)

def stateOf (id : Int64) : State := ⟨(decompose id).timestamp, (decompose id).sequence⟩

def lastState (state : State) (calls : List (Call κ)) : State :=
  match (issuesOf calls).getLast? with
  | some issue => stateOf issue.2
  | none => state

def block (timestamp : Int) (issues : List (Call κ × Int64)) : List (Call κ × Int64) :=
  issues.filter fun issue => (decompose issue.2).timestamp = timestamp

def places (issues : List (Call κ × Int64)) : List Nat :=
  issues.map fun issue => (decompose issue.2).sequence.val

/-- The place of an id with which a millisecond begins: the first one if the clock was waited
for, otherwise one of the starts. -/
def Enters (issue : Call κ × Int64) : Prop :=
  if issue.1.spin = [] then
    (decompose issue.2).sequence.val = 1 ∨ (decompose issue.2).sequence.val = 2
  else (decompose issue.2).sequence.val = 0

/-- The ids of a millisecond are issued one after the other, and their places follow one another
without a gap, up to the last one at most. -/
structure Unbroken (issues : List (Call κ × Int64)) (timestamp : Int) : Prop where
  together : block timestamp issues <:+: issues
  numbered : ∀ issue rest, block timestamp issues = issue :: rest →
    Enters issue ∧
      places (issue :: rest) =
        List.range' (decompose issue.2).sequence.val (issue :: rest).length ∧
      (decompose issue.2).sequence.val + (issue :: rest).length ≤ 4096
  most : (block timestamp issues).length ≤ 4096

inductive Continues (state : State) (issue : Call κ × Int64) : Prop where
  | place (same : (decompose issue.2).timestamp = state.last)
      (following : (decompose issue.2).sequence.val = state.sequence.val + 1)
  | enters (later : state.last < (decompose issue.2).timestamp) (first : Enters issue)

inductive Consecutive : State → List (Call κ × Int64) → Prop where
  | nil {state : State} : Consecutive state []
  | cons {state : State} {issue : Call κ × Int64} {issues : List (Call κ × Int64)}
      (continues : Continues state issue) (rest : Consecutive (stateOf issue.2) issues) :
      Consecutive state (issue :: issues)

def State.after (state : State) : Except Error State → State
  | .ok following => following
  | .error _ => state

def InRange (events : List Event) : Prop :=
  ∀ now ∈ readingsOf events, 0 ≤ now ∧ now < epoch + 2 ^ 41

/-- Calls that took one of the courses, one after the other, each in the state that the one
before it left and with readings in range. A call on which the clock stopped left it dry. -/
inductive Recorded (node : NodeId) : State → List (Call κ) → Prop where
  | nil {state : State} : Recorded node state []
  | cons {state : State} {outcome : Except Error State} {events : List Event}
      {ahead : Option Int} {calls : List (Call κ)} (caller : κ)
      (course : Course state outcome events) (dry : outcome = .error .clockStopped → ahead = none)
      (inRange : InRange events)
      (rest : Recorded node (state.after outcome) calls) :
      Recorded node state
        (⟨caller, state, events, outcome.map fun following => following.id node, ahead⟩ :: calls)

/-- A call of the noting clock gives what a call of the clock gives, and takes a course. -/
theorem next_noted (clock : Clock σ) (node : NodeId) (state : State) (s : σ) :
    ∃ outcome later events, Course state outcome events ∧
      (outcome = .error .clockStopped → clock.read later = none) ∧
      next clock node (state, s) =
        (outcome.map fun following => following.id node, (state.after outcome, later)) ∧
      next clock.noted node (state, (s, [])) =
        (outcome.map fun following => following.id node,
          (state.after outcome, (later, events))) := by
  obtain ⟨events, noted, course⟩ := advance_journals clock state s []
  rcases moved : clock.advance state s with ⟨outcome, later⟩
  rw [moved, List.nil_append] at noted
  rw [moved] at course
  refine ⟨outcome, later, events, course, ?_, ?_, ?_⟩
  · rintro rfl
    exact dry_of_stopped moved
  · cases outcome <;> simp only [next, moved] <;> rfl
  · cases outcome <;> simp only [next, noted] <;> rfl

theorem history_answers (clock : Clock σ) (node : NodeId) (callers : List κ)
    (host : State × σ) :
    (history clock node callers host).map Call.answer = serve clock node callers host := by
  induction callers generalizing host with
  | nil => rfl
  | cons caller rest ih =>
      obtain ⟨state, s⟩ := host
      obtain ⟨outcome, later, events, -, -, plain, noted⟩ := next_noted clock node state s
      rw [history, noted, serve_cons, plain, List.map_cons, ih]
      rfl

theorem history_recorded {clock : Clock σ} (node : NodeId) (callers : List κ) (state : State)
    (s : σ) (readings : ∀ call ∈ history clock node callers (state, s), InRange call.events) :
    Recorded node state (history clock node callers (state, s)) := by
  induction callers generalizing state s with
  | nil => exact .nil
  | cons caller rest ih =>
      obtain ⟨outcome, later, events, course, dry, -, noted⟩ := next_noted clock node state s
      rw [history, noted] at readings ⊢
      obtain ⟨inRange, restInRange⟩ := List.forall_mem_cons.mp readings
      have nothingAhead : outcome = .error .clockStopped →
          (clock.read later).map Prod.fst = none := by
        intro stopped
        rw [dry stopped, Option.map_none]
      exact .cons caller course nothingAhead inRange
        (ih (state.after outcome) later restInRange)

theorem val_of_next {sequence following : Sequence} (free : sequence.next? = some following) :
    following.val = sequence.val + 1 := by
  unfold Sequence.next? at free
  split at free
  · cases free
    rfl
  · cases free

theorem Waits.readings {last now : Int} {events : List Event}
    (waits : Waits last (some now) events) :
    last < now ∧ ∃ passed : List Int, (∀ reading ∈ passed, reading ≤ last) ∧
      readingsOf events = passed ++ [now] := by
  cases waits with
  | @later passed now early past =>
      refine ⟨past, passed, early, ?_⟩
      rw [readings_of_append, readings_of_shown]
      rfl

theorem Waits.readings_of_stopped {last : Int} {events : List Event}
    (waits : Waits last none events) : ∀ reading ∈ readingsOf events, reading ≤ last := by
  cases waits with
  | stopped early =>
      rw [readings_of_shown]
      exact early

/-- A call that succeeds ends with the reading that its id bears. -/
theorem Course.current {state following : State} {events : List Event}
    (course : Course state (.ok following) events) :
    (readingsOf events).getLast? = some following.last := by
  cases course with
  | place looks free =>
      obtain ⟨-, behind, -, same⟩ := looks.readings
      rw [same, List.getLast?_concat]
  | exhausted looks full waits =>
      obtain ⟨-, passed, -, same⟩ := waits.readings
      rw [readings_of_append, same, ← List.append_assoc, List.getLast?_concat]
  | fresh start looks past =>
      obtain ⟨-, behind, -, same⟩ := looks.readings
      have unread : readingsOf [.drawn start] = [] := rfl
      rw [readings_of_append, same, unread, List.append_nil, List.getLast?_concat]

theorem Course.decompose_id {state following : State} {events : List Event} (node : NodeId)
    (course : Course state (.ok following) events)
    (inRange : InRange events) :
    decompose (following.id node) = ⟨following.last, node, following.sequence⟩ := by
  obtain ⟨low, high⟩ := inRange _ (List.mem_of_getLast? course.current)
  refine decompose_compose (fits_of_in_range ⟨?_, high⟩ node)
  omega

namespace Call

variable {call : Call κ} {front rest : List Event}

theorem accepted_of_looks {now : Int} (looks : Looks call.state.last (.ok now) front)
    (events : call.events = front ++ rest) :
    call.accepted? = some now ∧ call.spin = readingsOf rest := by
  obtain ⟨notBehind, behind, before, front⟩ := looks.readings
  have readings : call.readings = behind ++ now :: readingsOf rest := by
    rw [Call.readings, events, readings_of_append, front, List.append_assoc]
    rfl
  constructor
  · have skipped : behind.find? (fun reading => call.state.last ≤ reading) = none := by
      apply List.find?_eq_none.mpr
      intro reading member
      simpa using before reading member
    rw [accepted?, readings, List.find?_append, skipped, Option.none_or,
      List.find?_cons_of_pos (by simpa using notBehind)]
  · rw [spin, readings, List.dropWhile_append_of_pos (by simpa using before),
      List.dropWhile_cons_of_neg (by simpa using notBehind), List.tail_cons]

theorem nothing_accepted {e : Error} (looks : Looks call.state.last (.error e) call.events) :
    call.accepted? = none ∧ call.spin = [] := by
  have before : ∀ reading ∈ call.readings, reading < call.state.last := looks.readings_of_error
  constructor
  · apply List.find?_eq_none.mpr
    intro reading member
    simpa using before reading member
  · have skipped : call.readings.dropWhile (fun reading => reading < call.state.last) = [] := by
      apply List.dropWhile_eq_nil_iff.mpr
      simpa using before
    rw [spin, skipped, List.tail_nil]

theorem disciplined_of_direct
    (current : ∀ id, call.result = .ok id →
      call.readings.getLast? = some (decompose id).timestamp)
    (free : ¬call.Exhausts) (none : call.spin = []) : call.Disciplined where
  current := current
  direct _ := none
  waits full := absurd full free
  stops full := absurd full free

theorem disciplined_of_found {passed : List Int} {now : Int} {id : Int64}
    (current : ∀ id, call.result = .ok id →
      call.readings.getLast? = some (decompose id).timestamp)
    (issued : call.result = .ok id) (exhausts : call.Exhausts)
    (spin : call.spin = passed ++ [now])
    (early : ∀ reading ∈ passed, reading ≤ call.state.last) (past : call.state.last < now) :
    call.Disciplined where
  current := current
  direct free := absurd exhausts free
  waits _ _ := ⟨passed, now, id, issued, spin, early, past⟩
  stops _ starved := by
    have notPast := starved.1 now (by rw [spin]; exact List.mem_concat_self)
    exact absurd past (Int.not_lt.mpr notPast)

end Call

section Courses

variable {node : NodeId} {state following : State} {outcome : Except Error State}
  {events : List Event}

theorem disciplined_of_course (caller : κ) {ahead : Option Int}
    (course : Course state outcome events) (dry : outcome = .error .clockStopped → ahead = none)
    (inRange : InRange events) :
    Call.Disciplined
      ⟨caller, state, events, outcome.map fun following => following.id node, ahead⟩ := by
  let call : Call κ :=
    ⟨caller, state, events, outcome.map fun following => following.id node, ahead⟩
  have current : ∀ id, call.result = .ok id →
      call.readings.getLast? = some (decompose id).timestamp := by
    intro id issued
    cases outcome with
    | error e => cases issued
    | ok following =>
        cases issued
        rw [course.decompose_id node inRange]
        exact course.current
  -- On two of the courses the places are used up, and the clock is read on only there.
  cases course with
  | place looks free =>
      obtain ⟨-, none⟩ := call.accepted_of_looks looks (List.append_nil events).symm
      refine Call.disciplined_of_direct current ?_ none
      rintro ⟨-, full⟩
      rw [(next_eq_none_iff state.sequence).mpr full] at free
      cases free
  | exhausted looks full waits =>
      obtain ⟨accepted, spin⟩ := call.accepted_of_looks looks rfl
      obtain ⟨past, passed, early, readings⟩ := waits.readings
      rw [readings] at spin
      exact Call.disciplined_of_found current rfl
        ⟨accepted, (next_eq_none_iff state.sequence).mp full⟩ spin early past
  | fresh start looks past =>
      obtain ⟨accepted, none⟩ := call.accepted_of_looks looks rfl
      refine Call.disciplined_of_direct current ?_ none
      rintro ⟨same, -⟩
      rw [accepted] at same
      exact Int.ne_of_gt past (Option.some.inj same)
  | refused looks =>
      obtain ⟨accepted, none⟩ := call.nothing_accepted looks
      refine Call.disciplined_of_direct current ?_ none
      rintro ⟨same, -⟩
      rw [accepted] at same
      cases same
  | stopped looks full waits =>
      obtain ⟨accepted, spin⟩ := call.accepted_of_looks looks rfl
      have early : ∀ reading ∈ call.spin, reading ≤ state.last := by
        rw [spin]
        exact waits.readings_of_stopped
      have exhausts : call.Exhausts := ⟨accepted, (next_eq_none_iff state.sequence).mp full⟩
      exact ⟨current, fun free => absurd exhausts free,
        fun _ running => absurd ⟨early, dry rfl⟩ running, fun _ _ => rfl⟩

theorem continues_of_course (caller : κ) (ahead : Option Int)
    (course : Course state (.ok following) events) (inRange : InRange events) :
    Continues state
      (⟨caller, state, events, .ok (following.id node), ahead⟩, following.id node) := by
  have parts := course.decompose_id node inRange
  have time : (decompose (following.id node)).timestamp = following.last := by rw [parts]
  have place : (decompose (following.id node)).sequence = following.sequence := by rw [parts]
  let call : Call κ := ⟨caller, state, events, .ok (following.id node), ahead⟩
  cases course with
  | place looks free =>
      refine .place time ?_
      rw [place]
      exact val_of_next free
  | exhausted looks full waits =>
      obtain ⟨-, spin⟩ := call.accepted_of_looks looks rfl
      obtain ⟨past, passed, -, readings⟩ := waits.readings
      refine .enters (by rw [time]; exact past) ?_
      have waited : call.spin ≠ [] := by
        rw [spin, readings]
        exact List.concat_ne_nil _ _
      rw [Enters, if_neg waited, place]
      rfl
  | fresh start looks past =>
      obtain ⟨-, none⟩ := call.accepted_of_looks looks rfl
      refine .enters (by rw [time]; exact past) ?_
      have direct : call.spin = [] := none
      rw [Enters, if_pos direct, place]
      cases start
      · exact Or.inl rfl
      · exact Or.inr rfl

end Courses

theorem Recorded.consecutive {node : NodeId} {state : State} {calls : List (Call κ)}
    (recorded : Recorded node state calls) : Consecutive state (issuesOf calls) := by
  induction recorded with
  | nil => exact .nil
  | @cons state outcome events ahead calls caller course dry inRange rest ih =>
      cases outcome with
      | error e => exact ih
      | ok following =>
          refine .cons (continues_of_course caller ahead course inRange) ?_
          have same : stateOf (following.id node) = following := by
            rw [stateOf, course.decompose_id node inRange]
          rw [same]
          exact ih

theorem Recorded.disciplined {node : NodeId} {state : State} {calls : List (Call κ)}
    (recorded : Recorded node state calls) : ∀ call ∈ calls, call.Disciplined := by
  induction recorded with
  | nil => exact nofun
  | cons caller course dry inRange rest ih =>
      exact List.forall_mem_cons.mpr ⟨disciplined_of_course caller course dry inRange, ih⟩

theorem Recorded.not_before {node : NodeId} {state : State} {calls : List (Call κ)}
    (recorded : Recorded node state calls) :
    ∀ issue ∈ issuesOf calls, 0 ≤ (decompose issue.2).timestamp := by
  induction recorded with
  | nil => exact nofun
  | @cons state outcome events ahead calls caller course dry inRange rest ih =>
      cases outcome with
      | error e => exact ih
      | ok following =>
          refine List.forall_mem_cons.mpr ⟨?_, ih⟩
          rw [course.decompose_id node inRange]
          exact (inRange _ (List.mem_of_getLast? course.current)).1

theorem last_state_cons_error {state : State} {call : Call κ} {e : Error}
    (calls : List (Call κ)) (failed : call.result = .error e) :
    lastState state (call :: calls) = lastState state calls := by
  have none : issuesOf (call :: calls) = issuesOf calls := by
    rw [issuesOf, List.filterMap_cons, failed]
    rfl
  rw [lastState, none]
  rfl

theorem last_state_cons_ok {state : State} {call : Call κ} {id : Int64}
    (calls : List (Call κ)) (issued : call.result = .ok id) :
    lastState state (call :: calls) = lastState (stateOf id) calls := by
  have one : issuesOf (call :: calls) = (call, id) :: issuesOf calls := by
    rw [issuesOf, List.filterMap_cons, issued]
    rfl
  rw [lastState, one, List.getLast?_cons, lastState]
  cases (issuesOf calls).getLast? <;> rfl

/-- Every call finds the state of the id that was issued last. -/
theorem Recorded.state_of_last {node : NodeId} {state : State} {call : Call κ}
    {earlier later : List (Call κ)} (recorded : Recorded node state (earlier ++ call :: later)) :
    call.state = lastState state earlier := by
  induction earlier generalizing state with
  | nil =>
      cases recorded
      rfl
  | cons first earlier ih =>
      cases recorded with
      | @cons state outcome events ahead calls caller course dry inRange rest =>
          have found := ih rest
          cases outcome with
          | error e =>
              rw [last_state_cons_error earlier rfl]
              exact found
          | ok following =>
              rw [last_state_cons_ok earlier rfl, stateOf, course.decompose_id node inRange]
              exact found

section Blocks

variable {state : State} {issue : Call κ × Int64} {issues : List (Call κ × Int64)}
  {timestamp : Int}

theorem block_cons_same (same : (decompose issue.2).timestamp = timestamp) :
    block timestamp (issue :: issues) = issue :: block timestamp issues :=
  List.filter_cons_of_pos (by simpa using same)

theorem block_cons_other (other : (decompose issue.2).timestamp ≠ timestamp) :
    block timestamp (issue :: issues) = block timestamp issues :=
  List.filter_cons_of_neg (by simpa using other)

theorem Continues.not_before (continues : Continues state issue) :
    state.last ≤ (decompose issue.2).timestamp := by
  cases continues with
  | place same following => exact Int.le_of_eq same.symm
  | enters later first => exact Int.le_of_lt later

theorem Consecutive.block_of_past (consecutive : Consecutive state issues)
    (past : timestamp < state.last) : block timestamp issues = [] := by
  induction consecutive with
  | nil => rfl
  | cons continues rest ih =>
      have after := Int.lt_of_lt_of_le past continues.not_before
      rw [block_cons_other (Int.ne_of_gt after)]
      exact ih after

/-- The millisecond of the state goes on at the next place, and then it is over. -/
theorem Consecutive.block_of_current (consecutive : Consecutive state issues)
    (current : state.last = timestamp) :
    block timestamp issues <+: issues ∧
      places (block timestamp issues) =
        List.range' (state.sequence.val + 1) (block timestamp issues).length ∧
      state.sequence.val + (block timestamp issues).length < 4096 := by
  induction consecutive with
  | nil => exact ⟨List.nil_prefix, rfl, Fin.isLt _⟩
  | @cons state issue issues continues rest ih =>
      cases continues with
      | place same following =>
          have here : (decompose issue.2).timestamp = timestamp := same.trans current
          obtain ⟨first, numbered, bound⟩ := ih here
          have place : (stateOf issue.2).sequence.val = state.sequence.val + 1 := following
          rw [place] at numbered bound
          rw [block_cons_same here]
          refine ⟨List.cons_prefix_cons.mpr ⟨rfl, first⟩, ?_, ?_⟩
          · rw [places, List.map_cons, following, List.length_cons, List.range'_succ, ← numbered]
            rfl
          · rw [List.length_cons]
            omega
      | enters later first =>
          have past : timestamp < (decompose issue.2).timestamp := current ▸ later
          rw [block_cons_other (Int.ne_of_gt past), rest.block_of_past past]
          exact ⟨List.nil_prefix, rfl, Fin.isLt _⟩

theorem unbroken_of_empty (empty : block timestamp issues = []) : Unbroken issues timestamp := by
  refine ⟨?_, ?_, ?_⟩
  · rw [empty]
    exact List.nil_infix
  · rw [empty]
    exact nofun
  · rw [empty]
    exact Nat.zero_le _

theorem Unbroken.cons_other (unbroken : Unbroken issues timestamp)
    (other : (decompose issue.2).timestamp ≠ timestamp) :
    Unbroken (issue :: issues) timestamp := by
  obtain ⟨together, numbered, most⟩ := unbroken
  have same : block timestamp (issue :: issues) = block timestamp issues := block_cons_other other
  refine ⟨?_, ?_, ?_⟩
  · rw [same]
    exact together.trans (List.suffix_cons issue issues).isInfix
  · rw [same]
    exact numbered
  · rw [same]
    exact most

/-- A later millisecond begins with an id that enters it, and goes on from there. -/
theorem Consecutive.unbroken_of_future (consecutive : Consecutive state issues)
    (future : state.last < timestamp) : Unbroken issues timestamp := by
  induction consecutive with
  | nil => exact unbroken_of_empty rfl
  | @cons state issue issues continues rest ih =>
      rcases Int.lt_trichotomy (decompose issue.2).timestamp timestamp with before | here | after
      · exact (ih before).cons_other (Int.ne_of_lt before)
      · obtain ⟨first, numbered, bound⟩ := rest.block_of_current here
        have same : block timestamp (issue :: issues) = issue :: block timestamp issues :=
          block_cons_same here
        have enters : Enters issue := by
          cases continues with
          | place same following => omega
          | enters later first => exact first
        refine ⟨?_, ?_, ?_⟩
        · rw [same]
          exact List.IsPrefix.isInfix (List.cons_prefix_cons.mpr ⟨rfl, first⟩)
        · intro head tail split
          rw [same] at split
          cases split
          refine ⟨enters, ?_, ?_⟩
          · rw [places, List.map_cons, List.length_cons, List.range'_succ]
            exact congrArg _ numbered
          · rw [List.length_cons]
            exact bound
        · rw [same, List.length_cons]
          omega
      · exact (unbroken_of_empty (rest.block_of_past after)).cons_other (Int.ne_of_gt after)

end Blocks

/-- Every call of a run finds the state of the id that was issued before it, gives its id the
time that it read last, and reads on after its accepted reading exactly when the places are used
up, as far as the first later reading or to the end of the clock. The ids of each millisecond are
issued one after the other without a gap. -/
theorem places_run_without_gap (clock : Clock σ) (node : NodeId) (callers : List κ) (s : σ)
    (readings : ∀ call ∈ history clock node callers (State.initial, s), InRange call.events) :
    (history clock node callers (State.initial, s)).map Call.answer =
        serve clock node callers (State.initial, s) ∧
      (∀ earlier call later,
        history clock node callers (State.initial, s) = earlier ++ call :: later →
          call.state = lastState State.initial earlier ∧ call.Disciplined) ∧
      ∀ timestamp,
        Unbroken (issuesOf (history clock node callers (State.initial, s))) timestamp := by
  have recorded := history_recorded node callers State.initial s readings
  refine ⟨history_answers clock node callers (State.initial, s), ?_, ?_⟩
  · intro earlier call later split
    rw [split] at recorded
    have member : call ∈ earlier ++ call :: later := List.mem_append_right _ List.mem_cons_self
    exact ⟨recorded.state_of_last, recorded.disciplined call member⟩
  · intro timestamp
    by_cases future : State.initial.last < timestamp
    · exact recorded.consecutive.unbroken_of_future future
    · -- No reading shows the time of the initial state, so no id bears it.
      apply unbroken_of_empty
      apply List.filter_eq_nil_iff.mpr
      intro issue member same
      have notBefore := recorded.not_before issue member
      have last : State.initial.last = -1 := rfl
      have here := of_decide_eq_true same
      omega

def unsteadyCalls (node : NodeId) : List (Call String) :=
  history Clock.replay node ["a", "b", "b", "a", "b", "a"] (State.initial, unsteady)

theorem places_of_unsteady_clock :
    (∀ call ∈ unsteadyCalls 7, InRange call.events) ∧
      (unsteadyCalls 7).map Call.readings =
        [[epoch + 1], [epoch + 1], [epoch - 49], [epoch - 2, epoch + 1], [epoch - 1, epoch],
          [epoch + 2]] ∧
      places (block (epoch + 1) (issuesOf (unsteadyCalls 7))) = [1, 2, 3] ∧
      Unbroken (issuesOf (unsteadyCalls 7)) (epoch + 1) := by
  have inRange : ∀ call ∈ unsteadyCalls 7, InRange call.events := by
    unfold InRange
    decide
  refine ⟨inRange, rfl, rfl, ?_⟩
  exact (places_run_without_gap Clock.replay 7 _ unsteady inRange).2.2 (epoch + 1)

/-- The places are used up: readings that are not later are passed over, and the millisecond of
the first later one begins at its first place. -/
example : (history Clock.replay 7 ["a", "b"] (⟨epoch + 1, 4095⟩,
      ([epoch + 1, epoch - 3, epoch + 1, epoch + 4, epoch + 4], []))).map
        (fun call => (call.spin, call.result.toOption.map decompose)) =
    [([epoch - 3, epoch + 1, epoch + 4], some ⟨epoch + 4, 7, 0⟩),
      ([], some ⟨epoch + 4, 7, 1⟩)] := by
  cbv

/-- A wait that the clock does not end. -/
example : (history Clock.replay 7 ["a"] (⟨epoch + 1, 4095⟩, ([epoch + 1, epoch - 3], []))).map
      (fun call => (call.spin, call.result, call.ahead)) =
    [([epoch - 3], .error .clockStopped, none)] := by
  cbv

end BoundSql.Snowflake
