import Mathlib
import BoundSql.Proofs.Condition.Tree
import BoundSql.Proofs.Session.Filling

/-!
Which fields filling changes, and what is left to change when an entity is filled again. The
fields that are stored are those that the handler is asked for and has a value for; if one cannot
be stored, the ones before it stay stored and the handler is not asked any further. A handler that
replaces nothing alters no value. If its answers do not depend on the host either, all that a second
run stores are nulls that the first one stored already.
-/

namespace BoundSql

variable {σ α : Type}

/-- Storing changes nothing but the value of the field, so that the value that is already there
leaves the entity as it is. -/
def EntityType.Restores (type : EntityType α) : Prop :=
  ∀ entity field value stored, type.value? entity field = some value →
    type.store entity field value = .ok stored → stored = entity

theorem EntityType.is_null_of_value {type : EntityType α} {entity other : α} {name : String}
    (same : type.value? entity name = type.value? other name) :
    type.isNull entity name = type.isNull other name := by
  show (type.value? entity name).all Value.isNull = (type.value? other name).all Value.isNull
  rw [same]

theorem EntityType.value_of_null {type : EntityType α} {entity : α} {name : String}
    (has : (type.value? entity name).isSome = true) (null : type.isNull entity name = true) :
    type.value? entity name = some .null := by
  obtain ⟨value, here⟩ := Option.isSome_iff_exists.mp has
  have nullHere : value.isNull = true := by
    have all : (type.value? entity name).all Value.isNull = true := null
    rw [here] at all
    exact all
  rw [here, Value.eq_null_of_is_null nullHere]

namespace FillHandler

/-- In this phase the handler replaces nothing, whatever the state of the host. -/
def Keeps (handler : FillHandler σ) (phase : Phase) : Prop :=
  ∀ f s, (handler.replaces phase f s).1 = false

/-- In this phase the handler answers by the field and the name of the entity alone, whatever the
state of the host, and replaces nothing. -/
structure Steady (handler : FillHandler σ) (phase : Phase) : Prop where
  answers : ∃ answer : String → Field → Option Value, ∀ entity f s,
    (handler.value phase entity f s).1 = answer entity f
  keeps : handler.Keeps phase

def after (handler : FillHandler σ) (type : EntityType α) (phase : Phase) (entity : α) (s : σ) :
    α :=
  (handler.fill type phase entity s).1.1

/-- The fields that the handler was asked for a value for. -/
def askedFields (asked : List Asked) : List Field :=
  asked.filterMap fun
    | .replacement _ _ _ => none
    | .value _ _ f _ => some f

/-- Filling an entity: what becomes of it, the result, and what the handler was asked. The fields
are visited in order, and each is judged by the entity as it is then. -/
inductive Filled (handler : FillHandler σ) (type : EntityType α) (phase : Phase) (entity : α) :
    α × Except Error Nat → List Asked → Prop where
  | unmapped {e : Error} (failed : type.schema.mapping = .error e) :
      Filled handler type phase entity (entity, .error e) []
  | complete {mapping : Mapping} {filled : α} {asked : List Asked}
      (mapped : type.schema.mapping = .ok mapping)
      (fills : handler.Fills type phase (mapping.persisted.filter (·.fill.applies phase)) entity
        asked filled (.ok ()))
      (inOrder : (askedFields asked).Sublist (mapping.persisted.filter (·.fill.applies phase)))
      (values : ∀ name,
        type.value? filled name = (lastAnswer asked name).or (type.value? entity name)) :
      Filled handler type phase entity (filled, .ok (asked.countP (·.answer.isSome))) asked
  /-- The fields before the one that fails are filled, and those after it are not reached. -/
  | stopped {mapping : Mapping} {before later : List Field} {f : Field} {value : Value}
      {reached : α} {asked judged : List Asked} {e : Error}
      (mapped : type.schema.mapping = .ok mapping)
      (fields : mapping.persisted.filter (·.fill.applies phase) = before ++ f :: later)
      (fills : handler.Fills type phase before entity asked reached (.ok ()))
      (inOrder : (askedFields asked).Sublist before)
      (values : ∀ name,
        type.value? reached name = (lastAnswer asked name).or (type.value? entity name))
      (wanted : handler.Judges type phase reached f true judged)
      (failed : type.store reached f.name value = .error e) :
      Filled handler type phase entity (reached, .error e)
        (asked ++ judged ++ [.value phase type.schema.entity f (some value)])

variable {handler : FillHandler σ} {type : EntityType α} {phase : Phase}

theorem Judges.no_value_asked {entity : α} {f : Field} {verdict : Bool} {judged : List Asked}
    (judges : handler.Judges type phase entity f verdict judged) (asked : List Asked) :
    askedFields (judged ++ asked) = askedFields asked := by
  cases judges <;> rfl

theorem Fills.asked_in_order {fields : List Field} {entity reached : α} {asked : List Asked}
    {outcome : Except Error Unit}
    (fills : handler.Fills type phase fields entity asked reached outcome) :
    (askedFields asked).Sublist fields := by
  induction fills with
  | done entity => exact .slnil
  | kept unwanted later ih =>
      rw [unwanted.no_value_asked]
      exact ih.cons _
  | unanswered wanted later ih =>
      rw [wanted.no_value_asked]
      exact ih.cons_cons _
  | stored wanted stored later ih =>
      rw [wanted.no_value_asked]
      exact ih.cons_cons _
  | refused wanted failed =>
      rw [wanted.no_value_asked]
      exact (List.nil_sublist _).cons_cons _

/-- A run that fails is a run that succeeds on the fields before, and one refused value. -/
theorem Fills.stopped_at {fields : List Field} {entity reached : α} {asked : List Asked}
    {e : Error} (fills : handler.Fills type phase fields entity asked reached (.error e)) :
    ∃ before f later earlier judged value, fields = before ++ f :: later ∧
      asked = earlier ++ judged ++ [.value phase type.schema.entity f (some value)] ∧
      handler.Fills type phase before entity earlier reached (.ok ()) ∧
      handler.Judges type phase reached f true judged ∧
      type.store reached f.name value = .error e := by
  generalize ended : Except.error e = outcome at fills
  induction fills with
  | done entity => cases ended
  | @kept f rest entity reached here asked outcome unwanted further ih =>
      obtain ⟨before, g, later, earlier, judged, value, split, noted, fills, wanted, failed⟩ :=
        ih ended
      refine ⟨f :: before, g, later, here ++ earlier, judged, value, ?_, ?_, .kept unwanted fills,
        wanted, failed⟩
      · rw [split, List.cons_append]
      · simp only [noted, List.append_assoc]
  | @unanswered f rest entity reached here asked outcome wantedHere further ih =>
      obtain ⟨before, g, later, earlier, judged, value, split, noted, fills, wanted, failed⟩ :=
        ih ended
      refine ⟨f :: before, g, later, _, judged, value, ?_, ?_, .unanswered wantedHere fills,
        wanted, failed⟩
      · rw [split, List.cons_append]
      · simp only [noted, List.append_assoc, List.cons_append]
  | @stored f rest entity next reached here asked outcome given wantedHere stored further ih =>
      obtain ⟨before, g, later, earlier, judged, value, split, noted, fills, wanted, failed⟩ :=
        ih ended
      refine ⟨f :: before, g, later, _, judged, value, ?_, ?_, .stored wantedHere stored fills,
        wanted, failed⟩
      · rw [split, List.cons_append]
      · simp only [noted, List.append_assoc, List.cons_append]
  | @refused f rest entity judged value reason wanted failed =>
      cases ended
      exact ⟨[], f, rest, [], judged, value, rfl, rfl, .done entity, wanted, failed⟩

theorem filled_of_fills (lawful : type.StoresOne) {mapping : Mapping} {entity reached : α}
    {asked : List Asked} {outcome : Except Error Unit} (mapped : type.schema.mapping = .ok mapping)
    (fills : handler.Fills type phase (mapping.persisted.filter (·.fill.applies phase)) entity
      asked reached outcome) :
    handler.Filled type phase entity
      (reached, outcome.map fun _ => asked.countP (·.answer.isSome)) asked := by
  cases outcome with
  | ok _ => exact .complete mapped fills fills.asked_in_order (fills.value_of_complete lawful)
  | error e =>
      obtain ⟨before, f, later, earlier, judged, value, fields, noted, complete, wanted, failed⟩ :=
        fills.stopped_at
      rw [noted]
      exact .stopped mapped fields complete complete.asked_in_order
        (complete.value_of_complete lawful) wanted failed

theorem null_of_wanted (keeps : handler.Keeps phase) {entity : α} {f : Field}
    {judged : List Asked} (wanted : handler.Judges type phase entity f true judged) :
    type.isNull entity f.name = true := by
  cases wanted with
  | null null => exact null
  | present present gives =>
      obtain ⟨s, replaced⟩ := gives
      rw [keeps f s] at replaced
      cases replaced

/-- A value that is there stays, also if filling fails. -/
theorem Fills.value_of_present (lawful : type.StoresOne)
    (keeps : handler.Keeps phase) {fields : List Field} {entity reached : α}
    {asked : List Asked} {outcome : Except Error Unit}
    (fills : handler.Fills type phase fields entity asked reached outcome) {name : String}
    (present : type.isNull entity name = false) :
    type.value? reached name = type.value? entity name := by
  apply fills.lasts (P := fun a => type.value? a name = type.value? entity name) _ rfl
  intro a f _ judged value next wanted stored same
  -- The field that is stored was null, and the value that is there is not.
  have other : ¬name = f.name := by
    intro here
    have null := null_of_wanted keeps wanted
    rw [← here, EntityType.is_null_of_value same, present] at null
    cases null
  rw [lawful a f.name value next stored name, if_neg other]
  exact same

theorem Fills.null_of_present (lawful : type.StoresOne)
    (keeps : handler.Keeps phase) {fields : List Field} {entity reached : α}
    {asked : List Asked} {outcome : Except Error Unit}
    (fills : handler.Fills type phase fields entity asked reached outcome) {name : String}
    (present : type.isNull entity name = false) : type.isNull reached name = false := by
  rw [EntityType.is_null_of_value (fills.value_of_present lawful keeps present)]
  exact present

theorem Fills.some_of_some (lawful : type.StoresOne) {fields : List Field} {entity reached : α}
    {asked : List Asked} {outcome : Except Error Unit}
    (fills : handler.Fills type phase fields entity asked reached outcome) {name : String}
    (has : (type.value? entity name).isSome = true) :
    (type.value? reached name).isSome = true := by
  apply fills.lasts (P := fun a => (type.value? a name).isSome = true) _ has
  intro a f _ judged value next _ stored hasBefore
  rw [lawful a f.name value next stored name]
  split
  · rfl
  · exact hasBefore

/-- The question is not about a value, or is answered as a function answers it. -/
def Agrees (answer : Field → Option Value) : Asked → Prop
  | .replacement _ _ _ => True
  | .value _ _ f given => given = answer f

theorem Judges.agrees {entity : α} {f : Field} {verdict : Bool} {judged : List Asked}
    (judges : handler.Judges type phase entity f verdict judged)
    (answer : Field → Option Value) : ∀ question ∈ judged, Agrees answer question := by
  cases judges with
  | null null => exact List.forall_mem_nil _
  | present present gives => exact List.forall_mem_singleton.mpr trivial

theorem Fills.answers_of_steady {answer : String → Field → Option Value}
    (answers : ∀ entity f s, (handler.value phase entity f s).1 = answer entity f)
    {fields : List Field} {entity reached : α} {asked : List Asked} {outcome : Except Error Unit}
    (fills : handler.Fills type phase fields entity asked reached outcome)
    (given : ∀ question ∈ asked, handler.Gives question) :
    ∀ question ∈ asked, Agrees (answer type.schema.entity) question := by
  have replying : ∀ {f : Field} {reply : Option Value},
      handler.Gives (.value phase type.schema.entity f reply) →
      Agrees (answer type.schema.entity) (.value phase type.schema.entity f reply) := by
    rintro f reply ⟨s, same⟩
    exact same.symm.trans (answers type.schema.entity f s)
  induction fills with
  | done entity => exact List.forall_mem_nil _
  | kept unwanted later ih =>
      obtain ⟨-, rest⟩ := List.forall_mem_append.mp given
      exact List.forall_mem_append.mpr ⟨unwanted.agrees _, ih rest⟩
  | unanswered wanted later ih =>
      obtain ⟨gives, rest⟩ := List.forall_mem_cons.mp (List.forall_mem_append.mp given).2
      exact List.forall_mem_append.mpr
        ⟨wanted.agrees _, List.forall_mem_cons.mpr ⟨replying gives, ih rest⟩⟩
  | stored wanted stored later ih =>
      obtain ⟨gives, rest⟩ := List.forall_mem_cons.mp (List.forall_mem_append.mp given).2
      exact List.forall_mem_append.mpr
        ⟨wanted.agrees _, List.forall_mem_cons.mpr ⟨replying gives, ih rest⟩⟩
  | refused wanted failed =>
      have gives := List.forall_mem_singleton.mp (List.forall_mem_append.mp given).2
      exact List.forall_mem_append.mpr
        ⟨wanted.agrees _, List.forall_mem_singleton.mpr (replying gives)⟩

/-- The first field of a run whose answers are those of a function: it is passed over, or stored,
or it ends the run. -/
theorem Fills.first_field {answer : Field → Option Value} {f : Field} {rest : List Field}
    {entity reached : α} {asked : List Asked} {outcome : Except Error Unit}
    (fills : handler.Fills type phase (f :: rest) entity asked reached outcome)
    (answered : ∀ question ∈ asked, Agrees answer question) :
    (∃ more, (answer f = none ∨ type.isNull entity f.name = false) ∧
      (∀ question ∈ more, Agrees answer question) ∧
      handler.Fills type phase rest entity more reached outcome) ∨
    (∃ judged value next more, handler.Judges type phase entity f true judged ∧
      answer f = some value ∧ type.store entity f.name value = .ok next ∧
      (∀ question ∈ more, Agrees answer question) ∧
      handler.Fills type phase rest next more reached outcome) ∨
    ∃ value e, answer f = some value ∧ type.store entity f.name value = .error e ∧
      reached = entity := by
  cases fills with
  | kept unwanted later =>
      obtain ⟨-, rest⟩ := List.forall_mem_append.mp answered
      cases unwanted with
      | present present gives => exact Or.inl ⟨_, Or.inr present, rest, later⟩
  | unanswered wanted later =>
      obtain ⟨here, rest⟩ := List.forall_mem_cons.mp (List.forall_mem_append.mp answered).2
      exact Or.inl ⟨_, Or.inl here.symm, rest, later⟩
  | stored wanted stored later =>
      obtain ⟨here, rest⟩ := List.forall_mem_cons.mp (List.forall_mem_append.mp answered).2
      exact Or.inr (Or.inl ⟨_, _, _, _, wanted, here.symm, stored, rest, later⟩)
  | refused wanted failed =>
      have here := List.forall_mem_singleton.mp (List.forall_mem_append.mp answered).2
      exact Or.inr (Or.inr ⟨_, _, here.symm, failed, rfl⟩)

theorem Fills.of_present (keeps : handler.Keeps phase) {answer : Field → Option Value} {f : Field}
    {rest : List Field} {entity reached : α} {asked : List Asked} {outcome : Except Error Unit}
    (fills : handler.Fills type phase (f :: rest) entity asked reached outcome)
    (answered : ∀ question ∈ asked, Agrees answer question)
    (present : type.isNull entity f.name = false) :
    ∃ more, (∀ question ∈ more, Agrees answer question) ∧
      handler.Fills type phase rest entity more reached outcome := by
  have unwanted : ∀ {judged}, ¬handler.Judges type phase entity f true judged := by
    intro judged wanted
    rw [null_of_wanted keeps wanted] at present
    cases present
  cases fills with
  | kept _ later => exact ⟨_, (List.forall_mem_append.mp answered).2, later⟩
  | unanswered wanted _ => exact absurd wanted unwanted
  | stored wanted _ _ => exact absurd wanted unwanted
  | refused wanted _ => exact absurd wanted unwanted

/-- A property of entities that holds on where a run ended and lasts when a null is stored over a
null. If the run failed, no other entity has the property. -/
structure Rests (type : EntityType α) (P : α → Prop) (reached : α) (outcome : Except Error Unit) :
    Prop where
  values : ∀ a, P a → ∀ name, type.value? a name = type.value? reached name
  lasts : ∀ a name next, P a → type.value? a name = some .null →
    type.store a name .null = .ok next → P next
  stuck : ∀ e, outcome = .error e → ∀ a, P a → a = reached

theorem rests_of_values (lawful : type.StoresOne) (reached : α) :
    Rests type (fun a => ∀ name, type.value? a name = type.value? reached name) reached
      (.ok ()) where
  values _ same := same
  lasts a name next same null stored other := by
    rw [lawful a name .null next stored other]
    split
    · rename_i here
      rw [here, ← same name, null]
    · exact same other
  stuck _ failed := by cases failed

theorem rests_of_entity (restores : type.Restores) (reached : α) (outcome : Except Error Unit) :
    Rests type (· = reached) reached outcome where
  values _ same _ := by rw [same]
  lasts a name next same null stored := by
    rw [restores a name .null next null stored]
    exact same
  stuck _ _ _ same := same

/-- On what a run left, another run with the same answers stores nothing but nulls over nulls. -/
theorem Fills.again (lawful : type.StoresOne) (keeps : handler.Keeps phase)
    {answer : Field → Option Value} {P : α → Prop} {fields : List Field} {entity reached : α}
    {asked : List Asked} {outcome : Except Error Unit}
    (first : handler.Fills type phase fields entity asked reached outcome)
    (answered : ∀ question ∈ asked, Agrees answer question)
    (rests : Rests type P reached outcome) {a b : α} {askedAgain : List Asked}
    {outcomeAgain : Except Error Unit} (start : P a)
    (second : handler.Fills type phase fields a askedAgain b outcomeAgain)
    (answeredAgain : ∀ question ∈ askedAgain, Agrees answer question) : P b := by
  induction first generalizing a askedAgain outcomeAgain with
  | done entity =>
      cases second
      exact start
  | @kept f rest entity reached judged asked outcome unwanted later ih =>
      have present : type.isNull entity f.name = false := by
        cases unwanted with
        | present present gives => exact present
      have presentNow : type.isNull a f.name = false := by
        rw [EntityType.is_null_of_value (rests.values a start f.name)]
        exact later.null_of_present lawful keeps present
      obtain ⟨more, answeredMore, second⟩ := second.of_present keeps answeredAgain presentNow
      exact ih (List.forall_mem_append.mp answered).2 rests start second answeredMore
  | @unanswered f rest entity reached judged asked outcome wanted later ih =>
      obtain ⟨unanswered, answered⟩ :=
        List.forall_mem_cons.mp (List.forall_mem_append.mp answered).2
      have nothing : answer f = none := unanswered.symm
      obtain ⟨more, _, answeredMore, second⟩ | ⟨_, value, next, more, _, given, _, _, _⟩ |
        ⟨value, e, given, _, _⟩ := second.first_field answeredAgain
      · exact ih answered rests start second answeredMore
      · rw [nothing] at given
        cases given
      · rw [nothing] at given
        cases given
  | @stored f rest entity next reached judged asked outcome value wanted stored later ih =>
      obtain ⟨gives, answered⟩ := List.forall_mem_cons.mp (List.forall_mem_append.mp answered).2
      have given : answer f = some value := gives.symm
      have here : type.value? next f.name = some value := by
        rw [lawful entity f.name value next stored f.name, if_pos rfl]
      cases present : value.isNull with
      | false =>
          have presentNext : type.isNull next f.name = false := by
            show (type.value? next f.name).all Value.isNull = false
            rw [here]
            exact present
          have presentNow : type.isNull a f.name = false := by
            rw [EntityType.is_null_of_value (rests.values a start f.name)]
            exact later.null_of_present lawful keeps presentNext
          obtain ⟨more, answeredMore, second⟩ := second.of_present keeps answeredAgain presentNow
          exact ih answered rests start second answeredMore
      | true =>
          have null := Value.eq_null_of_is_null present
          obtain ⟨more, _, answeredMore, second⟩ |
            ⟨_, again, nextAgain, more, wantedAgain, givenAgain, storedAgain, answeredMore,
              second⟩ |
            ⟨again, e, _, _, same⟩ := second.first_field answeredAgain
          · exact ih answered rests start second answeredMore
          · have has : (type.value? a f.name).isSome = true := by
              rw [rests.values a start f.name]
              exact later.some_of_some lawful (by rw [here]; rfl)
            have nullNow := EntityType.value_of_null has (null_of_wanted keeps wantedAgain)
            have same : again = .null := by
              rw [given, null] at givenAgain
              exact (Option.some.inj givenAgain).symm
            rw [same] at storedAgain
            exact ih answered rests (rests.lasts a f.name nextAgain start nullNow storedAgain)
              second answeredMore
          · rw [same]
            exact start
  | @refused f rest entity judged value e wanted failed =>
      have given : answer f = some value :=
        (List.forall_mem_singleton.mp (List.forall_mem_append.mp answered).2).symm
      have same := rests.stuck e rfl a start
      subst same
      obtain ⟨more, unanswered | present, _, _⟩ |
        ⟨_, again, next, more, _, givenAgain, stored, _, _⟩ | ⟨again, e, _, _, same⟩ :=
        second.first_field answeredAgain
      · rw [given] at unanswered
        cases unanswered
      · rw [null_of_wanted keeps wanted] at present
        cases present
      · rw [given] at givenAgain
        cases givenAgain
        rw [failed] at stored
        cases stored
      · rw [same]
        exact start

theorem fill_runs (handler : FillHandler σ) (type : EntityType α) (phase : Phase) (entity : α)
    (s : σ) :
    (∃ e, type.schema.mapping = .error e ∧ handler.after type phase entity s = entity) ∨
    ∃ mapping asked outcome, type.schema.mapping = .ok mapping ∧
      (∀ question ∈ asked, handler.Gives question) ∧
      handler.Fills type phase (mapping.persisted.filter (·.fill.applies phase)) entity asked
        (handler.after type phase entity s) outcome ∧
      ((∃ n, (handler.fill type phase entity s).1.2 = .ok n) → outcome = .ok ()) := by
  obtain ⟨added, _, ran⟩ := handler.fill_visits id type phase entity s []
  obtain ⟨e, unmapped, same, _⟩ | ⟨mapping, mapped, asked, outcome, _, given, fills, counted⟩ := ran
  · exact Or.inl ⟨e, unmapped, congrArg Prod.fst same⟩
  · refine Or.inr ⟨mapping, asked, outcome, mapped, given, fills, ?_⟩
    intro succeeded
    obtain ⟨n, same⟩ := succeeded
    rw [counted] at same
    cases outcome with
    | ok _ => rfl
    | error e => cases same

theorem after_of_present (lawful : type.StoresOne)
    (keeps : handler.Keeps phase) (entity : α) (s : σ) {name : String}
    (present : type.isNull entity name = false) :
    type.value? (handler.after type phase entity s) name = type.value? entity name := by
  obtain ⟨e, _, same⟩ | ⟨mapping, asked, outcome, _, _, fills, _⟩ :=
    handler.fill_runs type phase entity s
  · rw [same]
  · exact fills.value_of_present lawful keeps present

/-- What rests with the entity after a run that ended as this one did, lasts through another. -/
theorem after_again (lawful : type.StoresOne) (steady : handler.Steady phase) {P : α → Prop}
    (entity : α) (s : σ)
    (rests : ∀ outcome, ((∃ n, (handler.fill type phase entity s).1.2 = .ok n) → outcome = .ok ()) →
      Rests type P (handler.after type phase entity s) outcome)
    (start : P (handler.after type phase entity s)) (later : σ) :
    P (handler.after type phase (handler.after type phase entity s) later) := by
  obtain ⟨answer, answers⟩ := steady.answers
  obtain ⟨e, unmappedAgain, same⟩ | ⟨mappingAgain, askedAgain, outcomeAgain, mappedAgain,
    givenAgain, second, _⟩ := handler.fill_runs type phase (handler.after type phase entity s) later
  · rw [same]
    exact start
  · obtain ⟨e, unmapped, _⟩ | ⟨mapping, asked, outcome, mapped, given, first, ended⟩ :=
      handler.fill_runs type phase entity s
    · rw [mappedAgain] at unmapped
      cases unmapped
    · rw [mapped] at mappedAgain
      cases mappedAgain
      exact first.again lawful steady.keeps (first.answers_of_steady answers given)
        (rests outcome ended) start second (second.answers_of_steady answers givenAgain)

/-- Filling stores exactly the fields that the handler is asked for and answers, up to a value
that cannot be stored. If the handler replaces nothing, no value is altered; if it is steady,
filling the entity again changes nothing, whatever the state of the host by then. -/
theorem fill_stores_wanted_fields_once (handler : FillHandler σ) (type : EntityType α)
    (lawful : type.StoresOne) (phase : Phase) (entity : α) (s : σ) :
    (∃ asked,
      (handler.journaled id).fill type phase entity (s, []) =
        ((handler.fill type phase entity s).1, ((handler.fill type phase entity s).2, asked)) ∧
      handler.Filled type phase entity (handler.fill type phase entity s).1 asked) ∧
    (handler.Keeps phase → ∀ name, type.isNull entity name = false →
      type.value? (handler.after type phase entity s) name = type.value? entity name) ∧
    (handler.Steady phase → ∀ later,
      ((∃ n, (handler.fill type phase entity s).1.2 = .ok n) → ∀ name,
        type.value? (handler.after type phase (handler.after type phase entity s) later) name =
          type.value? (handler.after type phase entity s) name) ∧
      (type.Restores →
        handler.after type phase (handler.after type phase entity s) later =
          handler.after type phase entity s)) := by
  refine ⟨?_, ?_, ?_⟩
  · obtain ⟨added, same, ran⟩ := handler.fill_visits id type phase entity s []
    refine ⟨added, same, ?_⟩
    obtain ⟨e, unmapped, unchanged, nothing⟩ |
      ⟨mapping, mapped, asked, outcome, noted, _, fills, counted⟩ := ran
    · rw [unchanged, nothing]
      exact .unmapped unmapped
    · have filled := filled_of_fills lawful mapped fills
      rw [Nat.zero_add] at counted
      rw [noted, List.map_id, ← Prod.eta (handler.fill type phase entity s).1, counted]
      exact filled
  · intro keeps name present
    exact after_of_present lawful keeps entity s present
  · intro steady later
    constructor
    · intro succeeded
      have rests : ∀ outcome,
          ((∃ n, (handler.fill type phase entity s).1.2 = .ok n) → outcome = .ok ()) →
          Rests type
            (fun a => ∀ name,
              type.value? a name = type.value? (handler.after type phase entity s) name)
            (handler.after type phase entity s) outcome := by
        intro outcome ended
        rw [ended succeeded]
        exact rests_of_values lawful _
      exact after_again lawful steady entity s rests (fun _ => rfl) later
    · intro restores
      exact after_again lawful steady entity s (fun outcome _ => rests_of_entity restores _ outcome)
        rfl later

end FillHandler

theorem Row.store_value (row : Row) (field : String) (value : Value)
    (has : row.value? field = some value) : row.store field value = row := by
  induction row with
  | nil => cases has
  | cons entry rest ih =>
      obtain ⟨name, here⟩ := entry
      rw [Row.value?, Association.lookup_cons] at has
      rw [Row.store, Association.put]
      by_cases same : field = name
      · rw [if_pos same] at has
        rw [if_pos same.symm, same, Option.some.inj has]
      · have other : ¬name = field := fun equal => same equal.symm
        rw [if_neg same] at has
        rw [if_neg other]
        exact congrArg ((name, here) :: ·) (ih has)

/-- Notes name their writer twice and take no seal. -/
def notes : EntityType Row where
  schema :=
    ⟨"Note", "note",
      [⟨"id", "id", .bigInt, some .auto, false, none, .never⟩,
        ⟨"by", "by", .text, none, false, none, .onInsert⟩,
        ⟨"at", "at", .timestamp, none, false, none, .onBoth⟩,
        ⟨"by", "writer", .text, none, false, none, .onInsert⟩,
        ⟨"room", "room", .text, none, false, none, .onInsert⟩,
        ⟨"seal", "seal", .text, none, false, none, .onInsert⟩,
        ⟨"place", "place", .text, none, false, none, .onInsert⟩]⟩
  row := id
  store row field value :=
    if field = "seal" then .error (.unknownField "Note" field) else .ok (row.store field value)

theorem notes_store (row : Row) (field : String) (value : Value) (stored : Row)
    (storing : notes.store row field value = .ok stored) : row.store field value = stored := by
  have unfolded : (if field = "seal" then Except.error (Error.unknownField "Note" field)
      else .ok (row.store field value)) = Except.ok stored := storing
  split at unfolded
  · cases unfolded
  · exact Except.ok.inj unfolded

theorem notes_store_one : notes.StoresOne := by
  intro row field value stored storing other
  rw [← notes_store row field value stored storing]
  exact Row.value?_store row field other value

theorem notes_restore : notes.Restores := by
  intro row field value stored has storing
  rw [← notes_store row field value stored storing]
  exact row.store_value field value has

/-- A clerk who signs for every field but the time, which is left open, and counts the fields. -/
def clerk : FillHandler Nat where
  value _ _ f n := (some (if f.name = "at" then .null else .text "clerk"), n + 1)
  replaces _ _ := pure false

theorem clerk_steady (phase : Phase) : clerk.Steady phase where
  answers := ⟨fun _ f => some (if f.name = "at" then .null else .text "clerk"), fun _ _ _ => rfl⟩
  keeps _ _ := rfl

theorem unsealed_note_stays :
    notes.StoresOne ∧ notes.Restores ∧ clerk.Steady .insert ∧
    ∃ asked result, (clerk.journaled id).fill notes .insert
        [("by", .null), ("room", .text "attic")] (0, []) = (result, (3, asked)) ∧
      result = ([("by", .text "clerk"), ("room", .text "attic"), ("at", .null)],
        .error (.unknownField "Note" "seal")) ∧
      clerk.Filled notes .insert [("by", .null), ("room", .text "attic")] result asked ∧
      notes.value? result.1 "room" = some (.text "attic") ∧
      clerk.after notes .insert result.1 9 = result.1 := by
  obtain ⟨⟨asked, same, filled⟩, kept, again⟩ :=
    clerk.fill_stores_wanted_fields_once notes notes_store_one .insert
      [("by", .null), ("room", .text "attic")] 0
  have room := kept (clerk_steady .insert).keeps "room" rfl
  have unchanged := (again (clerk_steady .insert) 9).2 notes_restore
  exact ⟨notes_store_one, notes_restore, clerk_steady .insert, asked, _, same, rfl, filled, room,
    unchanged⟩

end BoundSql
