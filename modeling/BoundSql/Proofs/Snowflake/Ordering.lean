import Mathlib
import BoundSql.Snowflake.Generator
import BoundSql.Proofs.Snowflake.Layout

/-!
The order of ids. A call that succeeds moves the generator to a later millisecond or to a later
place, whatever the clock shows, and a call that fails does not move it. So the ids of one
generator only grow, whoever calls it and however the calls are interleaved.
-/

namespace BoundSql.Snowflake

variable {σ κ : Type}

/-- The states to which reading the clock, sleeping and drawing a start bring a host. -/
inductive Clock.Reaches (clock : Clock σ) (root : σ) : σ → Prop where
  | refl : clock.Reaches root root
  | read {s later : σ} {now : Int} (reached : clock.Reaches root s)
      (shown : clock.read s = some (now, later)) : clock.Reaches root later
  | sleep {s : σ} (duration : Nat) (reached : clock.Reaches root s) :
      clock.Reaches root (clock.sleep duration s)
  | start {s : σ} (reached : clock.Reaches root s) : clock.Reaches root (clock.start s).2

def Clock.Shows (clock : Clock σ) (root : σ) (now : Int) : Prop :=
  ∃ s later, clock.Reaches root s ∧ clock.read s = some (now, later)

/-- The clock never shows a time before 1970 or one that takes more than 41 bits. -/
def Clock.InRange (clock : Clock σ) (root : σ) : Prop :=
  ∀ now, clock.Shows root now → 0 ≤ now ∧ now < epoch + 2 ^ 41

/-- One state after another: at the next place of the same millisecond, at the first place of a
later one when the places are used up, or at a random start. -/
inductive State.Follows (state : State) : State → Prop where
  | place {sequence : Sequence} (free : state.sequence.next? = some sequence) :
      state.Follows ⟨state.last, sequence⟩
  | exhausted {now : Int} (full : state.sequence.next? = none) (later : state.last < now) :
      state.Follows ⟨now, .first⟩
  | fresh {now : Int} (start : Start) (later : state.last < now) :
      state.Follows ⟨now, start.sequence⟩

def State.InRange (state : State) : Prop :=
  -1 ≤ state.last ∧ state.last < epoch + 2 ^ 41

theorem in_range_initial : State.initial.InRange := by
  simp only [State.InRange, State.initial, epoch]
  omega

theorem sequence_lt_of_next {sequence following : Sequence}
    (next : sequence.next? = some following) : sequence < following := by
  unfold Sequence.next? at next
  split at next
  · cases next
    exact Nat.lt_succ_self sequence.val
  · cases next

theorem fits_of_in_range {state : State} (inRange : state.InRange) (node : NodeId) :
    Parts.Fits ⟨state.last, node, state.sequence⟩ := by
  obtain ⟨low, high⟩ := inRange
  simp only [Parts.Fits, epoch] at high ⊢
  omega

theorem id_lt_id_of_follows {state following : State} (stateRange : state.InRange)
    (followingRange : following.InRange) (follows : state.Follows following) (node : NodeId) :
    state.id node < following.id node := by
  have stateFits := fits_of_in_range stateRange node
  have followingFits := fits_of_in_range followingRange node
  refine compose_lt_compose stateFits followingFits rfl ?_
  cases follows with
  | place free => exact Or.inr ⟨rfl, sequence_lt_of_next free⟩
  | exhausted full later => exact Or.inl later
  | fresh start later => exact Or.inl later

section Reading

variable {clock : Clock σ} {root s : σ}

theorem read_after_spec (last : Int) (reached : clock.Reaches root s) :
    clock.Reaches root (clock.readAfter last s).2 ∧
      ∀ now, (clock.readAfter last s).1 = some now → last < now ∧ clock.Shows root now := by
  fun_induction Clock.readAfter clock last s with
  | case1 s stopped => exact ⟨reached, nofun⟩
  | case2 s now later shown past =>
      refine ⟨reached.read shown, ?_⟩
      intro found same
      cases same
      exact ⟨past, s, later, reached, shown⟩
  | case3 s now later shown past ih => exact ih (reached.read shown)

theorem read_from_spec (last : Int) (reached : clock.Reaches root s) :
    clock.Reaches root (clock.readFrom last s).2 ∧
      ∀ now, (clock.readFrom last s).1 = .ok now → last ≤ now ∧ clock.Shows root now := by
  unfold Clock.readFrom
  split
  · exact ⟨reached, nofun⟩
  · rename_i first woken shown
    have afterRead := reached.read shown
    split
    · rename_i notBehind
      refine ⟨afterRead, ?_⟩
      intro now same
      cases same
      exact ⟨notBehind, s, woken, reached, shown⟩
    · split
      · exact ⟨afterRead, nofun⟩
      · -- The clock is behind by little, so there is a second reading after the wait.
        have slept := afterRead.sleep (2 * (last - first).toNat)
        dsimp only
        split
        · exact ⟨slept, nofun⟩
        · rename_i again later shownAgain
          have afterSecond := slept.read shownAgain
          split
          · rename_i notBehind
            refine ⟨afterSecond, ?_⟩
            intro now same
            cases same
            exact ⟨notBehind, _, later, slept, shownAgain⟩
          · exact ⟨afterSecond, nofun⟩

theorem advance_spec (state : State) (reached : clock.Reaches root s) :
    clock.Reaches root (clock.advance state s).2 ∧
      ∀ following, (clock.advance state s).1 = .ok following →
        state.Follows following ∧
          (following.last = state.last ∨ clock.Shows root following.last) := by
  obtain ⟨reachedFrom, ofReading⟩ := read_from_spec state.last reached
  unfold Clock.advance
  split
  · rename_i e behind read
    rw [read] at reachedFrom
    exact ⟨reachedFrom, nofun⟩
  · rename_i now current read
    rw [read] at reachedFrom ofReading
    obtain ⟨notBehind, shown⟩ := ofReading now rfl
    obtain ⟨reachedAfter, ofSpinning⟩ := read_after_spec state.last reachedFrom
    split
    · rename_i same
      split
      · rename_i sequence free
        refine ⟨reachedFrom, ?_⟩
        intro following moved
        cases moved
        rw [same]
        exact ⟨.place free, Or.inl rfl⟩
      · rename_i full
        -- The places of the millisecond are used up: the clock is read until it moves on.
        split
        · rename_i stopped spun
          rw [spun] at reachedAfter
          exact ⟨reachedAfter, nofun⟩
        · rename_i later after spun
          rw [spun] at reachedAfter ofSpinning
          obtain ⟨past, shownLater⟩ := ofSpinning later rfl
          refine ⟨reachedAfter, ?_⟩
          intro following moved
          cases moved
          exact ⟨.exhausted full past, Or.inr shownLater⟩
    · rename_i other
      have past : state.last < now := by omega
      refine ⟨reachedFrom.start, ?_⟩
      intro following moved
      cases moved
      exact ⟨.fresh _ past, Or.inr shown⟩

end Reading

section Serving

variable {clock : Clock σ} {node : NodeId} {root : σ} {host : State × σ}

theorem next_cases (clock : Clock σ) (node : NodeId) (host : State × σ) :
    (∃ e later, clock.advance host.1 host.2 = (.error e, later) ∧
      next clock node host = (.error e, (host.1, later))) ∨
    (∃ following later, clock.advance host.1 host.2 = (.ok following, later) ∧
      next clock node host = (.ok (following.id node), (following, later))) := by
  rcases moved : clock.advance host.1 host.2 with ⟨result, later⟩
  cases result with
  | error e =>
      refine Or.inl ⟨e, later, rfl, ?_⟩
      simp only [next, moved]
  | ok following =>
      refine Or.inr ⟨following, later, rfl, ?_⟩
      simp only [next, moved]

theorem reaches_next (node : NodeId) (reached : clock.Reaches root host.2) :
    clock.Reaches root (next clock node host).2.2 := by
  obtain ⟨advanced, -⟩ := advance_spec host.1 reached
  rcases next_cases clock node host with ⟨e, later, moved, result⟩ | ⟨_, later, moved, result⟩
  all_goals
    rw [moved] at advanced
    rw [result]
    exact advanced

theorem next_eq_error {e : Error} (failed : (next clock node host).1 = .error e) :
    (next clock node host).2.1 = host.1 := by
  rcases next_cases clock node host with ⟨_, later, -, result⟩ | ⟨following, later, -, result⟩
  · rw [result]
  · rw [result] at failed
    cases failed

theorem next_eq_ok {id : Int64} (reached : clock.Reaches root host.2)
    (succeeded : (next clock node host).1 = .ok id) :
    id = (next clock node host).2.1.id node ∧ host.1.Follows (next clock node host).2.1 ∧
      ((next clock node host).2.1.last = host.1.last ∨
        clock.Shows root (next clock node host).2.1.last) := by
  rcases next_cases clock node host with
    ⟨e, later, -, result⟩ | ⟨following, later, moved, result⟩
  · rw [result] at succeeded
    cases succeeded
  · rw [result] at succeeded ⊢
    cases succeeded
    obtain ⟨-, ofSuccess⟩ := advance_spec host.1 reached
    rw [moved] at ofSuccess
    exact ⟨rfl, ofSuccess following rfl⟩

theorem in_range_next (node : NodeId) (readings : clock.InRange root)
    (reached : clock.Reaches root host.2) (inRange : host.1.InRange) :
    (next clock node host).2.1.InRange := by
  cases outcome : (next clock node host).1 with
  | error e =>
      rw [next_eq_error outcome]
      exact inRange
  | ok id =>
      obtain ⟨-, -, same | shown⟩ := next_eq_ok reached outcome
      · unfold State.InRange
        rw [same]
        exact inRange
      · obtain ⟨low, high⟩ := readings _ shown
        exact ⟨by omega, high⟩

/-- Serves the callers one after the other. What a call does is not interleaved with another
call, so every order in which concurrent callers are served is such a list. -/
def serve (clock : Clock σ) (node : NodeId) :
    List κ → State × σ → List (κ × Except Error Int64)
  | [], _ => []
  | caller :: rest, host =>
      let (result, host) := next clock node host
      (caller, result) :: serve clock node rest host

def issued (served : List (κ × Except Error Int64)) : List Int64 :=
  served.filterMap fun call => call.2.toOption

theorem serve_cons (caller : κ) (rest : List κ) :
    serve clock node (caller :: rest) host =
      (caller, (next clock node host).1) :: serve clock node rest (next clock node host).2 := rfl

theorem issued_cons_error {caller : κ} {e : Error} {served : List (κ × Except Error Int64)} :
    issued ((caller, .error e) :: served) = issued served := rfl

theorem issued_cons_ok {caller : κ} {id : Int64} {served : List (κ × Except Error Int64)} :
    issued ((caller, .ok id) :: served) = id :: issued served := rfl

/-- From any state on, the ids grow, and all of them are greater than the id of that state. -/
theorem issued_chain (node : NodeId) (readings : clock.InRange root) (callers : List κ)
    (reached : clock.Reaches root host.2) (inRange : host.1.InRange) :
    (host.1.id node :: issued (serve clock node callers host)).Pairwise (· < ·) := by
  induction callers generalizing host with
  | nil => exact List.pairwise_singleton _ _
  | cons caller rest ih =>
      have nextReached := reaches_next node reached
      have nextRange := in_range_next node readings reached inRange
      have later := ih nextReached nextRange
      rw [serve_cons]
      cases outcome : (next clock node host).1 with
      | error e =>
          rw [issued_cons_error, ← next_eq_error outcome]
          exact later
      | ok id =>
          obtain ⟨idNext, follows, -⟩ := next_eq_ok reached outcome
          have grows := id_lt_id_of_follows inRange nextRange follows node
          rw [← idNext] at grows later
          rw [issued_cons_ok]
          refine List.Pairwise.cons ?_ later
          intro other isLater
          rcases List.mem_cons.mp isLater with rfl | isAfter
          · exact grows
          · exact Int64.lt_trans grows (List.rel_of_pairwise_cons later isAfter)

end Serving

/-- The ids of a generator strictly increase in the order of service, whatever its clock shows
and however often it fails in between. -/
theorem served_ids_increase (clock : Clock σ) (node : NodeId) (callers : List κ) (s : σ)
    (readings : clock.InRange s) :
    (issued (serve clock node callers (State.initial, s))).Pairwise (· < ·) ∧
      (issued (serve clock node callers (State.initial, s))).Nodup := by
  have reached : clock.Reaches s (State.initial, s).2 := .refl
  have chain := issued_chain node readings callers reached in_range_initial
  have increasing := (List.pairwise_cons.mp chain).2
  refine ⟨increasing, ?_⟩
  exact increasing.imp fun lt equal => by
    rw [equal] at lt
    exact Int64.lt_irrefl lt

/-- A clock that shows given readings one after the other, with given starts. -/
def Clock.replay : Clock (List Int × List Start) where
  read
    | ([], _) => none
    | (now :: readings, starts) => some (now, (readings, starts))
  supply s := s.1.length
  supply_read := by
    rintro ⟨_ | ⟨now, readings⟩, starts⟩ reading later shown
    · cases shown
    · cases shown
      exact Nat.lt_succ_self readings.length
  sleep _ s := s
  start
    | (readings, []) => (.one, (readings, []))
    | (readings, start :: starts) => (start, (readings, starts))

theorem suffix_of_reaches_replay {root s : List Int × List Start}
    (reached : Clock.replay.Reaches root s) : s.1 <:+ root.1 := by
  induction reached with
  | refl => exact List.suffix_refl root.1
  | @read s later now reached shown ih =>
      obtain ⟨_ | ⟨first, readings⟩, starts⟩ := s
      · cases shown
      · cases shown
        exact (List.suffix_cons now readings).trans ih
  | sleep duration reached ih => exact ih
  | @start s reached ih =>
      obtain ⟨readings, _ | ⟨start, starts⟩⟩ := s <;> exact ih

theorem in_range_replay {readings : List Int} (starts : List Start)
    (inRange : ∀ now ∈ readings, 0 ≤ now ∧ now < epoch + 2 ^ 41) :
    Clock.replay.InRange (readings, starts) := by
  rintro now ⟨⟨_ | ⟨first, rest⟩, drawn⟩, later, reached, shown⟩
  · cases shown
  · cases shown
    exact inRange now ((suffix_of_reaches_replay reached).subset List.mem_cons_self)

/-- A clock that goes back three times: too far, a little, and a little for too long. -/
def unsteady : List Int × List Start :=
  ([epoch + 1, epoch + 1, epoch - 49, epoch - 2, epoch + 1, epoch - 1, epoch, epoch + 2],
    [.one, .two])

theorem unsteady_ids_increase :
    Clock.replay.InRange unsteady ∧
      issued (serve Clock.replay 7 ["a", "b", "b", "a", "b", "a"] (State.initial, unsteady)) =
        [4222977, 4222978, 4222979, 8417282] ∧
      (issued (serve Clock.replay 7 ["a", "b", "b", "a", "b", "a"]
        (State.initial, unsteady))).Pairwise (· < ·) := by
  have inRange : Clock.replay.InRange unsteady := in_range_replay _ (by decide)
  exact ⟨inRange, rfl, (served_ids_increase Clock.replay 7 _ unsteady inRange).1⟩

end BoundSql.Snowflake
