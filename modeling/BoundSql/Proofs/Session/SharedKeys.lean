import Mathlib
import BoundSql.Proofs.Session.Keying
import BoundSql.Proofs.Snowflake.Ordering
import BoundSql.Proofs.Turns

/-!
Keys for several lists from one generator. The lists are given their keys at the same time, and
the steps of the lists are interleaved in any order. A step draws one id for an entity without
a key and none for an entity that has one. The generator issues its ids in growing order to
whoever asks, so the keys grow along every list, and no two lists ever get the same key, not
even when a list is given up because the clock has gone back.
-/

namespace BoundSql

variable {σ ε α κ : Type}

/-- Entities of this type are numbered by the generator of ids: that is the strategy of their
key, whose column has the type of the ids, and what is stored as the key is read back. -/
structure EntityType.Numbered (type : EntityType α) (mapping : Mapping) (key : Field) :
    Prop where
  mapped : type.schema.mapping = .ok mapping
  isKey : mapping.key? = some key
  strategy : key.key = some .snowflake
  bigInt : key.type = .bigInt
  stores : ∀ entity id, ∃ stored, type.store entity key.name (.bigInt id) = .ok stored ∧
    type.value? stored key.name = some (.bigInt id)

def Drawn.id? : Drawn → Option Int64
  | ⟨_, .ok (.bigInt id)⟩ => some id
  | _ => none

def drawnIds (drawn : List Drawn) : List Int64 := drawn.filterMap Drawn.id?

theorem drawn_ids_append (drawn more : List Drawn) :
    drawnIds (drawn ++ more) = drawnIds drawn ++ drawnIds more := List.filterMap_append

/-- The key of an entity that had none before, if it has one now. -/
def EntityType.newKey (type : EntityType α) (key : Field) (before after : α) : Option Value :=
  if type.isNull before key.name then
    (type.value? after key.name).filter fun value => !value.isNull
  else none

def EntityType.newKeys (type : EntityType α) (key : Field) (before after : List α) :
    List Value :=
  (before.zip after).filterMap fun entity => type.newKey key entity.1 entity.2

/-- What numbering a list returned, if it has returned: how many entities got a key, or why it
was given up. -/
def Progress.returned (progress : Progress α (Option Value)) : Option (Except Error Nat) :=
  progress.result?.map fun result => result.map fun assigned => assigned.countP Option.isSome

namespace KeySources

/-- A list that is given its keys without interruption. -/
theorem assign_all_alone [DecidableEq κ] (sources : KeySources σ) (type : EntityType α)
    (lists : κ → List α) (k : κ) (s : σ) :
    ∃ (reached : κ → Progress α (Option Value)) (returned : Except Error Nat) (final : σ),
      interleave (sources.assign type) (List.replicate (lists k).length k)
        (fun k => .start (lists k)) s = (reached, final) ∧
      sources.assignAll type (lists k) s = (((reached k).entries, returned), final) ∧
      (reached k).returned = some returned := by
  let started : κ → Progress α (Option Value) := fun k => .start (lists k)
  have mine : started k = ⟨[], [], none, lists k⟩ := rfl
  obtain ⟨reached, after, result, final, ran, advanced, became, told⟩ :=
    interleave_alone (sources.assign type) k mine s
  refine ⟨reached, result.map fun assigned => assigned.countP Option.isSome, final, ran, ?_, ?_⟩
  · rw [became]
    simp only [assignAll, bind, StateT.bind, advanced]
    rfl
  · rw [Progress.returned, told]
    cases result <;> rfl

inductive Numbering (type : EntityType α) (key : Field) :
    α → α × Except Error (Option Value) → List Drawn → Prop where
  | given {entity : α} (present : type.isNull entity key.name = false) :
      Numbering type key entity (entity, .ok none) []
  | failed {entity : α} (e : Error) (null : type.isNull entity key.name = true) :
      Numbering type key entity (entity, .error e) [⟨.id, .error e⟩]
  | numbered {entity keyed : α} (id : Int64) (null : type.isNull entity key.name = true)
      (stored : type.value? keyed key.name = some (.bigInt id)) :
      Numbering type key entity (keyed, .ok (some (.bigInt id))) [⟨.id, .ok (.bigInt id)⟩]

section Entity

variable {type : EntityType α} {mapping : Mapping} {key : Field} {entity : α}

def answered (type : EntityType α) (key : Field) (entity : α) :
    Except Error Int64 → α × Except Error (Option Value)
  | .error e => (entity, .error e)
  | .ok id =>
      match type.store entity key.name (.bigInt id) with
      | .error e => (entity, .error e)
      | .ok keyed => (keyed, .ok (some (.bigInt id)))

theorem assign_given (numbers : type.Numbered mapping key) (sources : KeySources σ)
    (present : type.isNull entity key.name = false) :
    sources.assign type entity = pure (entity, .ok none) := by
  simp only [assign, numbers.mapped, numbers.isKey, present]
  rfl

theorem assign_null (numbers : type.Numbered mapping key) (sources : KeySources σ)
    (null : type.isNull entity key.name = true) :
    sources.assign type entity = (do return answered type key entity (← sources.nextId.run)) := by
  have strategy : key.strategy = .snowflake := by
    rw [Field.strategy, numbers.strategy]
    rfl
  have produced : sources.generate mapping.entity key =
      (do return .bigInt (← sources.nextId)) := by
    simp only [generate, strategy, requireType, numbers.bigInt, if_true]
  funext s
  rcases drawn : sources.nextId.run s with ⟨answer, later⟩
  have generated : (sources.generate mapping.entity key).run s =
      (answer.map .bigInt, later) := by
    rw [produced, ExceptT.run_bind]
    simp only [bind, StateT.bind, drawn]
    cases answer <;> rfl
  simp only [assign, numbers.mapped, numbers.isKey, null, Bool.not_true, Bool.false_eq_true,
    if_false, bind, StateT.bind, drawn, generated]
  cases answer with
  | error e => rfl
  | ok id =>
      simp only [answered, Except.map, Value.isNull, Bool.false_eq_true]
      cases type.store entity key.name (.bigInt id) <;> rfl

theorem numbering_journals (numbers : type.Numbered mapping key) (sources : KeySources σ)
    (entity : α) :
    Journals ((sources.journaled id).assign type entity) (sources.assign type entity)
      (Numbering type key entity) := by
  cases null : type.isNull entity key.name with
  | false =>
      rw [assign_given numbers _ null, assign_given numbers _ null]
      exact .finished (.given null)
  | true =>
      rw [assign_null numbers _ null, assign_null numbers _ null]
      have drawn := noting_journals (fun answer => id (⟨.id, answer.map .bigInt⟩ : Drawn))
        sources.nextId
      apply (drawn.bind _ fun answer => Journals.pure _).weaken
      intro became added ran
      obtain ⟨answer, before, after, both, noted, same, nothing⟩ := ran
      rw [same, both, noted, nothing]
      cases answer with
      | error e => exact .failed e null
      | ok id =>
          obtain ⟨keyed, storing, stored⟩ := numbers.stores entity id
          simp only [answered, storing]
          exact .numbered id null stored

end Entity

section OneList

variable {type : EntityType α} {key : Field} {passed done : List α}
  {answers : List (Option Value)} {drawn : List Drawn}

theorem new_keys_append (type : EntityType α) (key : Field) (lengths : passed.length = done.length)
    (before after : List α) :
    type.newKeys key (passed ++ before) (done ++ after) =
      type.newKeys key passed done ++ type.newKeys key before after := by
  rw [EntityType.newKeys, List.zip_append lengths, List.filterMap_append]
  rfl

theorem new_key_self (type : EntityType α) (key : Field) (entity : α) :
    type.newKey key entity entity = none := by
  unfold EntityType.newKey EntityType.isNull Row.isNull
  show (if (type.value? entity key.name).all Value.isNull then _ else _) = _
  cases type.value? entity key.name with
  | none => rfl
  | some value => cases null : value.isNull <;> simp [null]

theorem new_keys_self (type : EntityType α) (key : Field) (entities : List α) :
    type.newKeys key entities entities = [] := by
  rw [EntityType.newKeys, List.zip, List.zipWith_self, List.filterMap_map,
    List.filterMap_eq_nil_iff]
  exact fun entity _ => new_key_self type key entity

theorem swept_new_keys (swept : Swept (Numbering type key) passed done answers drawn) :
    type.newKeys key passed done = (drawnIds drawn).map .bigInt := by
  induction swept with
  | nil => rfl
  | @cons entity next answer added more rest nexts answers head tail ih =>
      have first : type.newKeys key [entity] [next] = (drawnIds added).map .bigInt := by
        cases head with
        | given present => exact new_keys_self type key [entity]
        | numbered id null stored =>
            have became : type.newKey key entity next = some (.bigInt id) := by
              rw [EntityType.newKey, if_pos null, stored]
              rfl
            simp [EntityType.newKeys, became, drawnIds, Drawn.id?]
      have lengths : [entity].length = [next].length := rfl
      have both := new_keys_append type key lengths rest nexts
      rw [first, ih, ← List.map_append, ← drawn_ids_append] at both
      exact both

/-- One request is made for every entity without a key. -/
theorem swept_requests (swept : Swept (Numbering type key) passed done answers drawn) :
    drawn.length = passed.countP fun entity => type.isNull entity key.name := by
  induction swept with
  | nil => rfl
  | cons head tail ih =>
      rw [List.length_append, ih, List.countP_cons, Nat.add_comm]
      cases head with
      | given present => simp [present]
      | numbered id null stored => simp [null]

theorem swept_answers (swept : Swept (Numbering type key) passed done answers drawn) :
    answers.countP Option.isSome = passed.countP fun entity => type.isNull entity key.name := by
  induction swept with
  | nil => rfl
  | cons head tail ih =>
      rw [List.countP_cons, ih, List.countP_cons]
      cases head with
      | given present => simp [present]
      | numbered id null stored => simp [null]

theorem swept_keyed (swept : Swept (Numbering type key) passed done answers drawn) :
    ∀ entity ∈ done, type.isNull entity key.name = false := by
  induction swept with
  | nil => exact nofun
  | cons head tail ih =>
      rw [List.forall_mem_cons]
      refine ⟨?_, ih⟩
      cases head with
      | given present => exact present
      | numbered id null stored =>
          show (type.value? _ key.name).all Value.isNull = false
          rw [stored]
          rfl

/-- What became of a list, told by what was drawn for it. -/
structure NumberedList (type : EntityType α) (key : Field) (entities : List α)
    (reached : Progress α (Option Value)) (drawn : List Drawn) : Prop where
  /-- Entities with a key are left as they are. -/
  kept : List.Forall₂ (fun entity became => type.isNull entity key.name = false → became = entity)
    entities reached.entries
  /-- Nothing is drawn but one id for every entity without a key that had its step. -/
  requests : drawn.length =
    (entities.take reached.done.length).countP fun entity => type.isNull entity key.name
  /-- The new keys are the ids that were drawn, in the order of the list. -/
  written : type.newKeys key entities reached.entries = (drawnIds drawn).map .bigInt
  /-- If all went well, all entities have keys, and those that had none are counted. -/
  complete : ∀ count, reached.returned = some (.ok count) →
    (∀ entity ∈ reached.entries, type.isNull entity key.name = false) ∧
      count = entities.countP fun entity => type.isNull entity key.name

theorem numbered_list_of_underway {entities : List α} {reached : Progress α (Option Value)}
    (underway : Underway (Numbering type key) entities reached drawn) :
    NumberedList type key entities reached drawn := by
  have kept : List.Forall₂
      (fun entity became => type.isNull entity key.name = false → became = entity) entities
      reached.entries := by
    apply underway.related fun entity _ => rfl
    intro entity answer added numbering present
    cases numbering with
    | given _ => rfl
    | failed e null => rfl
    | numbered id null stored => exact absurd (present.symm.trans null) Bool.false_ne_true
  cases underway with
  | @running passed done waiting answers drawn swept =>
      have lengths := swept.length_eq
      refine ⟨kept, ?_, ?_, ?_⟩
      · rw [swept_requests swept, ← lengths, List.take_left]
      · rw [Progress.entries, new_keys_append type key lengths, swept_new_keys swept,
          new_keys_self, List.append_nil]
      · intro count returned
        cases waiting with
        | cons entity waiting => cases returned
        | nil =>
            cases returned
            rw [Progress.entries, List.append_nil, List.append_nil]
            exact ⟨swept_keyed swept, swept_answers swept⟩
  | @stopped passed done waiting entity stuck answers e drawn last swept failed =>
      have lengths := swept.length_eq
      cases failed with
      | failed _ null =>
          refine ⟨kept, ?_, ?_, ?_⟩
          · rw [List.length_append, List.length_append, ← lengths, List.take_length_add_append,
              List.countP_append, swept_requests swept]
            simp [null]
          · rw [Progress.entries, List.append_assoc, new_keys_append type key lengths,
              swept_new_keys swept, List.singleton_append, new_keys_self, List.append_nil,
              drawn_ids_append]
            exact congrArg (List.map Value.bigInt) (List.append_nil _).symm
          · intro count returned
            cases returned

end OneList

/-- The generator has issued ids in growing order, none greater than the id of its state. -/
structure Issuing (clock : Snowflake.Clock σ) (node : NodeId) (root : σ)
    (host : (Snowflake.State × σ) × List Drawn) : Prop where
  reached : clock.Reaches root host.1.2
  inRange : host.1.1.InRange
  increasing : (drawnIds host.2).Pairwise (· < ·)
  issued : ∀ id ∈ drawnIds host.2, id ≤ host.1.1.id node

section Generator

variable {clock : Snowflake.Clock σ} {node : NodeId} {root : σ}

/-- A request appends its id, which is greater than those before, or nothing. -/
theorem next_preserves_issuing (node : NodeId) (readings : clock.InRange root) :
    Preserves (Issuing clock node root)
      (noting (fun answer => id (⟨.id, answer.map .bigInt⟩ : Drawn))
        (Snowflake.next clock node)) := by
  rintro ⟨host, journal⟩ ⟨reached, inRange, increasing, issued⟩
  dsimp only at reached inRange increasing issued
  have nextReached := Snowflake.reaches_next node reached
  have nextRange := Snowflake.in_range_next node readings reached inRange
  cases outcome : (Snowflake.next clock node host).1 with
  | error e =>
      have same := Snowflake.next_eq_error outcome
      have drawn : drawnIds (journal ++ [⟨.id, .error e⟩]) = drawnIds journal := by
        rw [drawn_ids_append]
        exact List.append_nil _
      simp only [noting, outcome, Except.map, id]
      refine ⟨nextReached, nextRange, ?_, ?_⟩
      · rwa [drawn]
      · rwa [drawn, same]
  | ok id =>
      obtain ⟨isNext, follows, -⟩ := Snowflake.next_eq_ok reached outcome
      have grows := Snowflake.id_lt_id_of_follows inRange nextRange follows node
      rw [← isNext] at grows
      have drawn : drawnIds (journal ++ [⟨.id, .ok (.bigInt id)⟩]) = drawnIds journal ++ [id] :=
        drawn_ids_append journal _
      have before : ∀ other ∈ drawnIds journal, other < id := fun other member =>
        Int64.lt_of_le_of_lt (issued other member) grows
      simp only [noting, outcome, Except.map]
      refine ⟨nextReached, nextRange, ?_, ?_⟩
      · show (drawnIds (journal ++ [⟨.id, .ok (.bigInt id)⟩])).Pairwise (· < ·)
        rw [drawn, List.pairwise_append]
        refine ⟨increasing, List.pairwise_singleton _ _, ?_⟩
        intro other member last isLast
        rw [List.mem_singleton.mp isLast]
        exact before other member
      · show ∀ other ∈ drawnIds (journal ++ [⟨.id, .ok (.bigInt id)⟩]), _ ≤ _
        rw [drawn, ← isNext, List.forall_mem_append, List.forall_mem_singleton]
        exact ⟨fun other member => Int64.le_of_lt (before other member), Int64.le_refl id⟩

theorem assign_preserves_issuing {type : EntityType α} {mapping : Mapping} {key : Field}
    {sources : KeySources (Snowflake.State × σ)} (numbers : type.Numbered mapping key)
    (shared : sources.nextId = Snowflake.next clock node) (readings : clock.InRange root)
    (entity : α) :
    Preserves (Issuing clock node root) ((sources.journaled id).assign type entity) := by
  cases null : type.isNull entity key.name with
  | false =>
      rw [assign_given numbers _ null]
      exact preserves_pure _
  | true =>
      have drawn := next_preserves_issuing node readings
      rw [← shared] at drawn
      rw [assign_null numbers _ null]
      exact drawn.bind fun _ => preserves_pure _

end Generator

section Lists

variable [DecidableEq κ]

theorem entries_of_sublist (k : κ) (log : List (κ × ε)) :
    (entriesOf k log).Sublist (log.map Prod.snd) := by
  induction log with
  | nil => exact .slnil
  | cons entry log ih =>
      obtain ⟨other, entry⟩ := entry
      by_cases here : other = k
      · simpa [entriesOf, here] using ih
      · have skipped : entriesOf k ((other, entry) :: log) = entriesOf k log := by
          simp [entriesOf, here]
        rw [skipped]
        exact ih.cons entry

theorem mem_entries_of {k : κ} {log : List (κ × ε)} {entry : ε} :
    entry ∈ entriesOf k log ↔ (k, entry) ∈ log := by
  rw [entriesOf, List.mem_filterMap]
  constructor
  · rintro ⟨⟨other, same⟩, member, found⟩
    obtain ⟨rfl, isEntry⟩ := Option.ite_none_right_eq_some.mp found
    rwa [← Option.some.inj isEntry]
  · exact fun member => ⟨_, member, if_pos rfl⟩

theorem drawn_ids_disjoint {log : List (κ × Drawn)}
    (increasing : (drawnIds (log.map Prod.snd)).Pairwise (· < ·)) {k other : κ}
    (different : k ≠ other) :
    (drawnIds (entriesOf k log)).Disjoint (drawnIds (entriesOf other log)) := by
  rw [drawnIds, List.pairwise_filterMap, List.pairwise_map] at increasing
  -- Two entries with ids in growing order have no id in common, in either order.
  let apart (entry later : κ × Drawn) : Prop :=
    ∀ id, entry.2.id? = some id → later.2.id? ≠ some id
  have symmetric : Std.Symm apart := ⟨fun _ _ holds id later entry => holds id entry later⟩
  have disjoint : log.Pairwise apart := by
    apply increasing.imp
    intro entry later less id isId same
    exact Int64.lt_irrefl (less id isId id same)
  intro id mine theirs
  obtain ⟨entry, drawn, isId⟩ := List.mem_filterMap.mp mine
  obtain ⟨entry', drawn', isId'⟩ := List.mem_filterMap.mp theirs
  have tagged := mem_entries_of.mp drawn
  have tagged' := mem_entries_of.mp drawn'
  have distinct : (k, entry) ≠ (other, entry') := fun same => different (Prod.mk.inj same).1
  exact disjoint.forall tagged tagged' distinct id isId isId'

end Lists

end KeySources

/-- The keys that are newly written grow along every list, and no two lists get the same key,
however the lists take their turns and whatever the clock shows. An entity with a key is left as
it is and draws nothing. A list whose numbering succeeds ends with a key for every entity, and
the entities that had none are counted. The numbering of a list that has all turns is
`assignAll`. -/
theorem shared_keys_increase [DecidableEq κ] {type : EntityType α} {mapping : Mapping}
    {key : Field} {sources : KeySources (Snowflake.State × σ)} {clock : Snowflake.Clock σ}
    {node : NodeId} (numbers : type.Numbered mapping key)
    (shared : sources.nextId = Snowflake.next clock node) (lists : κ → List α) (turns : List κ)
    (s : σ) (readings : clock.InRange s) :
    ∃ (reached : κ → Progress α (Option Value)) (host : Snowflake.State × σ)
      (log : List (κ × Drawn)),
      interleave (sources.assign type) turns (fun k => .start (lists k)) (.initial, s) =
        (reached, host) ∧
      interleave ((sources.journaled id).assign type) turns (fun k => .start (lists k))
        ((.initial, s), []) = (reached, (host, log.map Prod.snd)) ∧
      (drawnIds (log.map Prod.snd)).Pairwise (· < ·) ∧
      (∀ k, KeySources.NumberedList type key (lists k) (reached k) (entriesOf k log)) ∧
      (∀ k, ∃ ids : List Int64, type.newKeys key (lists k) (reached k).entries = ids.map .bigInt ∧
        ids.Pairwise (· < ·)) ∧
      (∀ k other, k ≠ other →
        (type.newKeys key (lists k) (reached k).entries).Disjoint
          (type.newKeys key (lists other) (reached other).entries)) ∧
      (∀ entity, type.isNull entity key.name = false →
        (sources.journaled id).assign type entity = pure (entity, .ok none)) ∧
      ∀ k start, ∃ (alone : κ → Progress α (Option Value)) (returned : Except Error Nat)
        (final : Snowflake.State × σ),
        interleave (sources.assign type) (List.replicate (lists k).length k)
          (fun k => .start (lists k)) start = (alone, final) ∧
        sources.assignAll type (lists k) start = (((alone k).entries, returned), final) ∧
        (alone k).returned = some returned := by
  obtain ⟨added, same, log, tagged, underway⟩ := interleave_journals
    (KeySources.numbering_journals numbers sources) lists turns
    (fun k => underway_start _ (lists k)) (Snowflake.State.initial, s) []
  have begun : KeySources.Issuing clock node s ((Snowflake.State.initial, s), []) :=
    ⟨.refl, Snowflake.in_range_initial, .nil, nofun⟩
  have ended := interleave_preserves
    (KeySources.assign_preserves_issuing numbers shared readings) turns
    (fun k => .start (lists k)) _ begun
  rw [same, tagged] at ended
  rw [tagged] at same
  have numbered := fun k => KeySources.numbered_list_of_underway (underway k)
  refine ⟨_, _, log, rfl, same, ended.increasing, numbered, ?_, ?_, ?_, ?_⟩
  · intro k
    exact ⟨_, (numbered k).written, ended.increasing.sublist
      ((KeySources.entries_of_sublist k log).filterMap _)⟩
  · intro k other different
    rw [(numbered k).written, (numbered other).written]
    intro value mine theirs
    obtain ⟨id, drawn, isId⟩ := List.mem_map.mp mine
    obtain ⟨id', drawn', same'⟩ := List.mem_map.mp theirs
    cases isId.trans same'.symm
    exact KeySources.drawn_ids_disjoint ended.increasing different drawn drawn'
  · exact fun entity present => KeySources.assign_given numbers _ present
  · exact fun k start => sources.assign_all_alone type lists k start

def parcelKey : Field := ⟨"id", "id", .bigInt, some .snowflake, false, none, .never⟩

def parcels : EntityType Row where
  schema := ⟨"Parcel", "parcel", [parcelKey]⟩
  row := id
  store row field value := .ok (row.store field value)

theorem parcels_numbered : parcels.Numbered ⟨parcels.schema, by decide⟩ parcelKey where
  mapped := rfl
  isKey := rfl
  strategy := rfl
  bigInt := rfl
  stores row id := by
    refine ⟨_, rfl, ?_⟩
    show (row.store parcelKey.name (.bigInt id)).value? parcelKey.name = _
    rw [Row.value?_store, if_pos rfl]

/-- Two counters that number their parcels from one generator. -/
def counters : Bool → List Row
  | true => [[], [("id", .bigInt 7)], []]
  | false => [[], [], []]

def counterSources : KeySources (Snowflake.State × List Int × List Snowflake.Start) where
  nextId := Snowflake.next Snowflake.Clock.replay ⟨7, by decide⟩
  uuid := pure ""
  generators := .empty

/-- The clock goes back too far while the second parcel of one counter is numbered, and a little
for the last parcel of the other one. -/
theorem counters_share_generator :
    ∃ (reached : Bool → Progress Row (Option Value))
      (host : Snowflake.State × List Int × List Snowflake.Start) (log : List (Bool × Drawn)),
      parcels.Numbered ⟨parcels.schema, by decide⟩ parcelKey ∧
      Snowflake.Clock.replay.InRange Snowflake.unsteady ∧
      interleave (counterSources.assign parcels) [true, false, true, false, true, false]
        (fun k => .start (counters k)) (.initial, Snowflake.unsteady) = (reached, host) ∧
      (reached true).entries =
        [[("id", .bigInt 4222977)], [("id", .bigInt 7)], [("id", .bigInt 4222979)]] ∧
      (reached true).returned = some (.ok 2) ∧
      (reached false).entries = [[("id", .bigInt 4222978)], [], []] ∧
      (reached false).returned = some (.error (.clockRollback 50)) ∧
      (drawnIds (log.map Prod.snd)).Pairwise (· < ·) ∧
      KeySources.NumberedList parcels parcelKey (counters false) (reached false)
        (entriesOf false log) ∧
      (parcels.newKeys parcelKey (counters true) (reached true).entries).Disjoint
        (parcels.newKeys parcelKey (counters false) (reached false).entries) := by
  have readings : Snowflake.Clock.replay.InRange Snowflake.unsteady :=
    Snowflake.in_range_replay _ (by decide)
  have shared : counterSources.nextId =
      Snowflake.next Snowflake.Clock.replay ⟨7, by decide⟩ := rfl
  obtain ⟨reached, host, log, ran, -, increasing, numbered, -, disjoint, -, -⟩ :=
    shared_keys_increase parcels_numbered shared counters
      [true, false, true, false, true, false] Snowflake.unsteady readings
  have computed : reached = (interleave (counterSources.assign parcels)
      [true, false, true, false, true, false] (fun k => .start (counters k))
      (.initial, Snowflake.unsteady)).1 := (congrArg Prod.fst ran).symm
  refine ⟨reached, host, log, parcels_numbered, readings, ran, ?_, ?_, ?_, ?_, increasing,
    numbered false, disjoint true false (by decide)⟩
  all_goals
    rw [computed]
    rfl

end BoundSql
