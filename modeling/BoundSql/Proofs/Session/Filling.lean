import Mathlib
import BoundSql.Session.Dispatcher
import BoundSql.Proofs.Journal

/-!
What filling does to an entity. Its fields are visited in order. For a field that holds a value
the handler is asked whether it replaces it, and if not, the field is left alone; for any other
field the handler is asked for a value once, and what it answers is stored. Filling ends with the
last field or with the first value that cannot be stored. An entity that is filled to the end holds
the last answer for each field, and what it held before where there was no answer.
-/

namespace BoundSql

variable {σ ε α : Type}

/-- Storing a value makes it the value of its field and changes no other field. -/
def EntityType.StoresOne (type : EntityType α) : Prop :=
  ∀ entity field value stored, type.store entity field value = .ok stored → ∀ other,
    type.value? stored other = if other = field then some value else type.value? entity other

inductive Asked where
  | replacement (phase : Phase) (field : Field) (replaced : Bool)
  | value (phase : Phase) (entity : String) (field : Field) (answer : Option Value)

def Asked.field : Asked → Field
  | .replacement _ f _ => f
  | .value _ _ f _ => f

def Asked.answer : Asked → Option Value
  | .replacement _ _ _ => none
  | .value _ _ _ answer => answer

/-- The last value that was answered for a field. -/
def lastAnswer (asked : List Asked) (name : String) : Option Value :=
  asked.reverse.findSome? fun question =>
    if question.field.name = name then question.answer else none

theorem last_answer_append (first second : List Asked) (name : String) :
    lastAnswer (first ++ second) name = (lastAnswer second name).or (lastAnswer first name) := by
  rw [lastAnswer, List.reverse_append, List.findSome?_append]
  rfl

theorem last_answer_value (phase : Phase) (entity : String) (f : Field) (answer : Option Value)
    (asked : List Asked) (name : String) :
    lastAnswer (.value phase entity f answer :: asked) name =
      (lastAnswer asked name).or (if f.name = name then answer else none) := by
  rw [lastAnswer, List.reverse_cons, List.findSome?_append, List.findSome?_singleton]
  rfl

namespace FillHandler

def journaled (note : Asked → ε) (handler : FillHandler σ) : FillHandler (σ × List ε) where
  value phase entity f :=
    noting (fun answer => note (.value phase entity f answer)) (handler.value phase entity f)
  replaces phase f :=
    noting (fun replaced => note (.replacement phase f replaced)) (handler.replaces phase f)

/-- In some state of the host this is the handler's answer to the question. -/
def Gives (handler : FillHandler σ) : Asked → Prop
  | .replacement phase f replaced => ∃ s, (handler.replaces phase f s).1 = replaced
  | .value phase entity f answer => ∃ s, (handler.value phase entity f s).1 = answer

/-- Whether a value is asked for, and what is asked to find out: for a null nothing, for a value
that is there whether the handler replaces it. -/
inductive Judges (handler : FillHandler σ) (type : EntityType α) (phase : Phase) (entity : α)
    (f : Field) : Bool → List Asked → Prop where
  | null (null : type.isNull entity f.name = true) : Judges handler type phase entity f true []
  | present {replaced : Bool} (present : type.isNull entity f.name = false)
      (gives : handler.Gives (.replacement phase f replaced)) :
      Judges handler type phase entity f replaced [.replacement phase f replaced]

/-- Filling fields in order: the questions, the entity that is reached and the outcome. -/
inductive Fills (handler : FillHandler σ) (type : EntityType α) (phase : Phase) :
    List Field → α → List Asked → α → Except Error Unit → Prop where
  | done (entity : α) : Fills handler type phase [] entity [] entity (.ok ())
  | kept {f : Field} {rest : List Field} {entity reached : α} {judged asked : List Asked}
      {outcome : Except Error Unit} (unwanted : handler.Judges type phase entity f false judged)
      (later : Fills handler type phase rest entity asked reached outcome) :
      Fills handler type phase (f :: rest) entity (judged ++ asked) reached outcome
  | unanswered {f : Field} {rest : List Field} {entity reached : α} {judged asked : List Asked}
      {outcome : Except Error Unit} (wanted : handler.Judges type phase entity f true judged)
      (later : Fills handler type phase rest entity asked reached outcome) :
      Fills handler type phase (f :: rest) entity
        (judged ++ .value phase type.schema.entity f none :: asked) reached outcome
  | stored {f : Field} {rest : List Field} {entity next reached : α} {judged asked : List Asked}
      {outcome : Except Error Unit} {value : Value}
      (wanted : handler.Judges type phase entity f true judged)
      (stored : type.store entity f.name value = .ok next)
      (later : Fills handler type phase rest next asked reached outcome) :
      Fills handler type phase (f :: rest) entity
        (judged ++ .value phase type.schema.entity f (some value) :: asked) reached outcome
  | refused {f : Field} {rest : List Field} {entity : α} {judged : List Asked} {value : Value}
      {e : Error} (wanted : handler.Judges type phase entity f true judged)
      (failed : type.store entity f.name value = .error e) :
      Fills handler type phase (f :: rest) entity
        (judged ++ [.value phase type.schema.entity f (some value)]) entity (.error e)

variable {handler : FillHandler σ} {type : EntityType α} {phase : Phase}

theorem Judges.given {entity : α} {f : Field} {verdict : Bool} {judged : List Asked}
    (judges : handler.Judges type phase entity f verdict judged) :
    ∀ question ∈ judged, handler.Gives question := by
  cases judges with
  | null null => exact List.forall_mem_nil _
  | present present gives => exact List.forall_mem_singleton.mpr gives

theorem Judges.nothing_answered {entity : α} {f : Field} {verdict : Bool} {judged : List Asked}
    (judges : handler.Judges type phase entity f verdict judged) :
    (∀ name, lastAnswer judged name = none) ∧ judged.countP (·.answer.isSome) = 0 := by
  cases judges with
  | null null => exact ⟨fun _ => rfl, rfl⟩
  | present present gives =>
      refine ⟨fun name => ?_, rfl⟩
      rw [lastAnswer, List.reverse_singleton, List.findSome?_singleton]
      exact ite_self none

theorem Fills.value_of_complete (lawful : type.StoresOne) {fields : List Field}
    {entity reached : α} {asked : List Asked}
    (fills : handler.Fills type phase fields entity asked reached (.ok ())) (name : String) :
    type.value? reached name = (lastAnswer asked name).or (type.value? entity name) := by
  generalize ended : Except.ok () = outcome at fills
  induction fills with
  | done entity => rfl
  | kept unwanted later ih =>
      rw [ih ended, last_answer_append, unwanted.nothing_answered.1, Option.or_none]
  | unanswered wanted later ih =>
      rw [ih ended, last_answer_append, wanted.nothing_answered.1, last_answer_value,
        ite_self, Option.or_none, Option.or_none]
  | @stored f rest entity next reached judged asked outcome value wanted stored later ih =>
      rw [ih ended, lawful entity f.name value next stored name, last_answer_append,
        wanted.nothing_answered.1, Option.or_none, last_answer_value]
      by_cases same : f.name = name
      · rw [if_pos same, if_pos same.symm, Option.or_assoc, Option.some_or]
      · have other : ¬name = f.name := fun equal => same equal.symm
        rw [if_neg same, if_neg other, Option.or_none]
  | refused wanted failed => cases ended

/-- What lasts when a value is stored for a field that the handler was asked for lasts through
the run, also if filling fails. -/
theorem Fills.lasts {P : α → Prop} {fields : List Field} {entity reached : α}
    {asked : List Asked} {outcome : Except Error Unit}
    (fills : handler.Fills type phase fields entity asked reached outcome)
    (step : ∀ a, ∀ f ∈ fields, ∀ judged value next, handler.Judges type phase a f true judged →
      type.store a f.name value = .ok next → P a → P next)
    (start : P entity) : P reached := by
  induction fills with
  | done entity => exact start
  | kept unwanted later ih =>
      exact ih (fun a f member => step a f (List.mem_cons_of_mem _ member)) start
  | unanswered wanted later ih =>
      exact ih (fun a f member => step a f (List.mem_cons_of_mem _ member)) start
  | @stored f rest entity next reached judged asked outcome value wanted stored later ih =>
      have startNext := step entity f List.mem_cons_self judged value next wanted stored start
      exact ih (fun a f member => step a f (List.mem_cons_of_mem _ member)) startNext
  | refused wanted failed => exact start

theorem Fills.value_of_other (lawful : type.StoresOne) {fields : List Field} {entity reached : α}
    {asked : List Asked} {outcome : Except Error Unit}
    (fills : handler.Fills type phase fields entity asked reached outcome) {name : String}
    (other : ∀ f ∈ fields, f.name ≠ name) :
    type.value? reached name = type.value? entity name := by
  apply fills.lasts (P := fun a => type.value? a name = type.value? entity name) _ rfl
  intro a f member judged value next wanted stored same
  rw [lawful a f.name value next stored name, if_neg (other f member).symm]
  exact same

/-- The fields are filled with what the handler gives, and the count of those that a value was
stored for goes up. -/
def Answers (note : Asked → ε) (handler : FillHandler σ) (type : EntityType α) (phase : Phase)
    (fields : List Field) (entity : α) (count : Nat) (answer : α × Except Error Nat)
    (added : List ε) : Prop :=
  ∃ asked outcome, added = asked.map note ∧ (∀ question ∈ asked, handler.Gives question) ∧
    handler.Fills type phase fields entity asked answer.1 outcome ∧
    answer.2 = outcome.map fun _ => count + asked.countP (·.answer.isSome)

section Visiting

variable {note : Asked → ε} {f : Field} {rest : List Field} {entity : α} {count : Nat}
  {answer : α × Except Error Nat} {judged : List Asked} {added : List ε}

theorem Answers.kept (unwanted : handler.Judges type phase entity f false judged)
    (later : handler.Answers note type phase rest entity count answer added) :
    handler.Answers note type phase (f :: rest) entity count answer
      (judged.map note ++ added) := by
  obtain ⟨asked, outcome, noted, given, fills, counted⟩ := later
  refine ⟨_, outcome, ?_, List.forall_mem_append.mpr ⟨unwanted.given, given⟩,
    .kept unwanted fills, ?_⟩
  · rw [noted, List.map_append]
  · rw [counted, List.countP_append, unwanted.nothing_answered.2, Nat.zero_add]

theorem Answers.unanswered (wanted : handler.Judges type phase entity f true judged)
    (gives : handler.Gives (.value phase type.schema.entity f none))
    (later : handler.Answers note type phase rest entity count answer added) :
    handler.Answers note type phase (f :: rest) entity count answer
      (judged.map note ++ note (.value phase type.schema.entity f none) :: added) := by
  obtain ⟨asked, outcome, noted, given, fills, counted⟩ := later
  refine ⟨_, outcome, ?_,
    List.forall_mem_append.mpr ⟨wanted.given, List.forall_mem_cons.mpr ⟨gives, given⟩⟩,
    .unanswered wanted fills, ?_⟩
  · rw [noted, List.map_append, List.map_cons]
  · rw [counted, List.countP_append, wanted.nothing_answered.2, Nat.zero_add,
      List.countP_cons_of_neg (by simp [Asked.answer])]

theorem Answers.stored {value : Value} {next : α}
    (wanted : handler.Judges type phase entity f true judged)
    (gives : handler.Gives (.value phase type.schema.entity f (some value)))
    (stored : type.store entity f.name value = .ok next)
    (later : handler.Answers note type phase rest next (count + 1) answer added) :
    handler.Answers note type phase (f :: rest) entity count answer
      (judged.map note ++ note (.value phase type.schema.entity f (some value)) :: added) := by
  obtain ⟨asked, outcome, noted, given, fills, counted⟩ := later
  refine ⟨_, outcome, ?_,
    List.forall_mem_append.mpr ⟨wanted.given, List.forall_mem_cons.mpr ⟨gives, given⟩⟩,
    .stored wanted stored fills, ?_⟩
  · rw [noted, List.map_append, List.map_cons]
  · rw [counted, List.countP_append, wanted.nothing_answered.2, Nat.zero_add,
      List.countP_cons_of_pos (by simp [Asked.answer]), Nat.add_right_comm]
    rfl

theorem Answers.refused {value : Value} {e : Error}
    (wanted : handler.Judges type phase entity f true judged)
    (gives : handler.Gives (.value phase type.schema.entity f (some value)))
    (failed : type.store entity f.name value = .error e) :
    handler.Answers note type phase (f :: rest) entity count (entity, .error e)
      (judged.map note ++ [note (.value phase type.schema.entity f (some value))]) := by
  refine ⟨_, .error e, ?_,
    List.forall_mem_append.mpr ⟨wanted.given, List.forall_mem_singleton.mpr gives⟩,
    .refused wanted failed, rfl⟩
  rw [List.map_append, List.map_singleton]

end Visiting

theorem wants_journals (note : Asked → ε) (handler : FillHandler σ) (type : EntityType α)
    (phase : Phase) (entity : α) (f : Field) :
    Journals ((handler.journaled note).wants type phase entity f)
      (handler.wants type phase entity f) fun verdict added =>
        ∃ judged, added = judged.map note ∧ handler.Judges type phase entity f verdict judged := by
  unfold wants
  cases null : type.isNull entity f.name with
  | true => exact .finished ⟨[], rfl, .null null⟩
  | false =>
      apply (noting_journals_given (fun replaced => note (.replacement phase f replaced))
        (handler.replaces phase f)).weaken
      rintro replaced added ⟨noted, gives⟩
      exact ⟨[.replacement phase f replaced], noted, .present null gives⟩

theorem fill_fields_journals (note : Asked → ε) (handler : FillHandler σ) (type : EntityType α)
    (phase : Phase) (fields : List Field) (entity : α) (count : Nat) :
    Journals ((handler.journaled note).fillFields type phase fields entity count)
      (handler.fillFields type phase fields entity count)
      (handler.Answers note type phase fields entity count) := by
  induction fields generalizing entity count with
  | nil => exact .finished ⟨[], .ok (), rfl, List.forall_mem_nil _, .done entity, rfl⟩
  | cons f rest ih =>
      rw [fillFields, fillFields]
      -- What comes after an answer is told together with the note of the answer.
      apply ((handler.wants_journals note type phase entity f).bind (fun verdict answer added =>
        ∀ judged, handler.Judges type phase entity f verdict judged →
          handler.Answers note type phase (f :: rest) entity count answer
            (judged.map note ++ added)) ?_).weaken
      · intro answer added filled
        obtain ⟨verdict, before, after, both, ⟨judged, noted, judges⟩, visited⟩ := filled
        rw [both, noted]
        exact visited judged judges
      · intro verdict
        cases verdict with
        | false =>
            rw [if_neg Bool.false_ne_true, if_neg Bool.false_ne_true]
            exact (ih entity count).weaken fun _ _ later _ unwanted => later.kept unwanted
        | true =>
            rw [if_pos rfl, if_pos rfl]
            have question := noting_journals_given
              (fun reply => note (.value phase type.schema.entity f reply))
              (handler.value phase type.schema.entity f)
            apply (question.bind (fun reply answer added => ∀ judged,
              handler.Judges type phase entity f true judged →
              handler.Gives (.value phase type.schema.entity f reply) →
                handler.Answers note type phase (f :: rest) entity count answer
                  (judged.map note ++ note (.value phase type.schema.entity f reply) :: added))
              ?_).weaken
            · intro answer added filled judged wanted
              obtain ⟨reply, before, after, both, ⟨noted, gives⟩, replied⟩ := filled
              rw [both, noted]
              exact replied judged wanted gives
            · intro reply
              cases reply with
              | none =>
                  exact (ih entity count).weaken fun _ _ later _ wanted gives =>
                    later.unanswered wanted gives
              | some value =>
                  dsimp only
                  cases storing : type.store entity f.name value with
                  | error e => exact .finished fun _ wanted gives => .refused wanted gives storing
                  | ok next =>
                      exact (ih next (count + 1)).weaken fun _ _ later _ wanted gives =>
                        later.stored wanted gives storing

theorem fill_visits (note : Asked → ε) (handler : FillHandler σ) (type : EntityType α)
    (phase : Phase) (entity : α) :
    Journals ((handler.journaled note).fill type phase entity) (handler.fill type phase entity)
      fun answer added =>
        (∃ e, type.schema.mapping = .error e ∧ answer = (entity, .error e) ∧ added = []) ∨
        ∃ mapping, type.schema.mapping = .ok mapping ∧
          handler.Answers note type phase (mapping.persisted.filter (·.fill.applies phase)) entity
            0 answer added := by
  unfold fill
  cases mapped : type.schema.mapping with
  | error e => exact .finished (Or.inl ⟨e, rfl, rfl, rfl⟩)
  | ok mapping =>
      apply (handler.fill_fields_journals note type phase _ entity 0).weaken
      intro answer added answers
      exact Or.inr ⟨mapping, rfl, answers⟩

end FillHandler

/-- Filling an entity by the handler of a dispatcher, if it has one. -/
inductive Dispatcher.Filling (dispatcher : Dispatcher σ) (type : EntityType α) (phase : Phase) :
    α → α × Except Error Nat → List Asked → Prop where
  | unhandled (entity : α) (noHandler : dispatcher.handler = none) :
      Filling dispatcher type phase entity (entity, .ok 0) []
  | unmapped (entity : α) {handler : FillHandler σ} {e : Error}
      (handled : dispatcher.handler = some handler) (failed : type.schema.mapping = .error e) :
      Filling dispatcher type phase entity (entity, .error e) []
  | complete {entity filled : α} {asked : List Asked} {handler : FillHandler σ}
      {mapping : Mapping} (handled : dispatcher.handler = some handler)
      (mapped : type.schema.mapping = .ok mapping)
      (fills : handler.Fills type phase (mapping.persisted.filter (·.fill.applies phase))
        entity asked filled (.ok ()))
      (values : ∀ name,
        type.value? filled name = (lastAnswer asked name).or (type.value? entity name)) :
      Filling dispatcher type phase entity
        (filled, .ok (asked.countP (·.answer.isSome))) asked
  | stopped {entity stuck : α} {asked : List Asked} {handler : FillHandler σ}
      {mapping : Mapping} {e : Error} (handled : dispatcher.handler = some handler)
      (mapped : type.schema.mapping = .ok mapping)
      (fills : handler.Fills type phase (mapping.persisted.filter (·.fill.applies phase))
        entity asked stuck (.error e))
      (others : ∀ name,
        (∀ f ∈ mapping.persisted.filter (·.fill.applies phase), f.name ≠ name) →
        type.value? stuck name = type.value? entity name) :
      Filling dispatcher type phase entity (stuck, .error e) asked

theorem fill_journals (note : Asked → ε) (dispatcher : Dispatcher σ)
    (other : Dispatcher (σ × List ε))
    (sameHandler : other.handler = dispatcher.handler.map (·.journaled note))
    (type : EntityType α) (lawful : type.StoresOne) (phase : Phase) (entity : α) :
    Journals (other.fill type phase entity) (dispatcher.fill type phase entity)
      fun answer added => ∃ asked, added = asked.map note ∧
        dispatcher.Filling type phase entity answer asked := by
  rw [Dispatcher.fill, Dispatcher.fill, sameHandler]
  cases handled : dispatcher.handler with
  | none => exact .finished ⟨[], rfl, .unhandled entity handled⟩
  | some handler =>
      rw [Option.map_some]
      apply (handler.fill_visits note type phase entity).weaken
      intro answer added filled
      obtain ⟨e, unmapped, same, nothing⟩ | ⟨mapping, mapped, answers⟩ := filled
      · rw [same, nothing]
        exact ⟨[], rfl, .unmapped entity handled unmapped⟩
      · obtain ⟨asked, outcome, noted, given, fills, counted⟩ := answers
        obtain ⟨reached, result⟩ := answer
        dsimp only at fills counted
        rw [counted]
        refine ⟨asked, noted, ?_⟩
        cases outcome with
        | error e =>
            exact .stopped handled mapped fills fun name other =>
              fills.value_of_other lawful other
        | ok _ =>
            show dispatcher.Filling type phase entity (reached, .ok (0 + _)) asked
            rw [Nat.zero_add]
            exact .complete handled mapped fills (fills.value_of_complete lawful)

end BoundSql
