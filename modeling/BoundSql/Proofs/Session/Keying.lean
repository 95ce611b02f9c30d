import Mathlib
import BoundSql.KeyAssignment
import BoundSql.Proofs.Condition.Tree
import BoundSql.Proofs.Session.Filling

/-!
What assigning a key does to an entity. A source is asked only for an entity whose key is null,
at most once, and only if the strategy of the key names it. A key that was produced is stored and
read back, and nothing else of the entity changes; if anything fails, the entity is as it was.
-/

namespace BoundSql

variable {σ ε α : Type}

/-- What a key may come from. A registered generator is told the name of the entity. -/
inductive KeyOrigin where
  | id
  | uuid
  | generator (name entity : String)

def KeyStrategy.origin? (entity : String) : KeyStrategy → Option KeyOrigin
  | .snowflake => some .id
  | .uuid => some .uuid
  | .custom name => some (.generator name entity)
  | .auto | .assign | .none => Option.none

structure Drawn where
  origin : KeyOrigin
  answer : Except Error Value

/-- The entity has a key field and no value for it. -/
structure EntityType.LacksKey (type : EntityType α) (mapping : Mapping) (key : Field)
    (entity : α) : Prop where
  mapped : type.schema.mapping = .ok mapping
  isKey : mapping.key? = some key
  null : type.isNull entity key.name = true

namespace KeySources

def journaled (note : Drawn → ε) (sources : KeySources σ) : KeySources (σ × List ε) where
  nextId := noting (fun answer => note ⟨.id, answer.map .bigInt⟩) sources.nextId
  uuid := noting (fun text => note ⟨.uuid, .ok (.text text)⟩) sources.uuid
  generators := ⟨sources.generators.entries.map fun entry =>
    (entry.1, fun entity =>
      noting (fun answer => note ⟨.generator entry.1 entity, answer⟩) (entry.2 entity))⟩

theorem find_journaled (note : Drawn → ε) (sources : KeySources σ) (name : String) :
    (sources.journaled note).generators.find? name =
      (sources.generators.find? name).map fun generator entity =>
        noting (fun answer => note ⟨.generator name entity, answer⟩) (generator entity) := by
  obtain ⟨nextId, uuid, entries⟩ := sources
  simp only [journaled, Registry.find?]
  induction entries.entries with
  | nil => rfl
  | cons entry rest ih =>
      rw [List.map_cons, Association.lookup_cons, Association.lookup_cons, ih]
      by_cases here : name = entry.1
      · rw [if_pos here, if_pos here, here]
        rfl
      · rw [if_neg here, if_neg here]

/-- Assigning a key to an entity: what it becomes, the answer, and what was drawn. -/
inductive Keying (type : EntityType α) : α → α × Except Error (Option Value) → List Drawn → Prop
    where
  | unmapped (entity : α) {e : Error} (failed : type.schema.mapping = .error e) :
      Keying type entity (entity, .error e) []
  | keyless (entity : α) {mapping : Mapping} (mapped : type.schema.mapping = .ok mapping)
      (noKey : mapping.key? = none) : Keying type entity (entity, .ok none) []
  | given {entity : α} {mapping : Mapping} {key : Field}
      (mapped : type.schema.mapping = .ok mapping) (isKey : mapping.key? = some key)
      (present : type.isNull entity key.name = false) : Keying type entity (entity, .ok none) []
  /-- The store numbers the entity, or the caller has to. -/
  | left {entity : α} {mapping : Mapping} {key : Field}
      (lacks : type.LacksKey mapping key entity)
      (unassigned : key.strategy = .auto ∨ key.strategy = .none) :
      Keying type entity (entity, .ok none) []
  | undrawn {entity : α} {mapping : Mapping} {key : Field} (e : Error)
      (lacks : type.LacksKey mapping key entity) : Keying type entity (entity, .error e) []
  | failed {entity : α} {mapping : Mapping} {key : Field} {origin : KeyOrigin} (e : Error)
      (lacks : type.LacksKey mapping key entity)
      (asked : key.strategy.origin? mapping.entity = some origin) :
      Keying type entity (entity, .error e) [⟨origin, .error e⟩]
  | null {entity : α} {mapping : Mapping} {key : Field} {origin : KeyOrigin}
      (lacks : type.LacksKey mapping key entity)
      (asked : key.strategy.origin? mapping.entity = some origin) :
      Keying type entity (entity, .ok none) [⟨origin, .ok .null⟩]
  | refused {entity : α} {mapping : Mapping} {key : Field} {origin : KeyOrigin} {value : Value}
      {e : Error} (lacks : type.LacksKey mapping key entity)
      (asked : key.strategy.origin? mapping.entity = some origin)
      (present : value.isNull = false) (failed : type.store entity key.name value = .error e) :
      Keying type entity (entity, .error e) [⟨origin, .ok value⟩]
  | stored {entity keyed : α} {mapping : Mapping} {key : Field} {origin : KeyOrigin}
      {value : Value} (lacks : type.LacksKey mapping key entity)
      (asked : key.strategy.origin? mapping.entity = some origin)
      (present : value.isNull = false)
      (values : ∀ name, type.value? keyed name =
        if name = key.name then some value else type.value? entity name) :
      Keying type entity (keyed, .ok (some value)) [⟨origin, .ok value⟩]

/-- A failure leaves the entity as it was. -/
theorem Keying.entity_of_error {type : EntityType α} {entity reached : α} {e : Error}
    {drawn : List Drawn} (keying : Keying type entity (reached, .error e) drawn) :
    reached = entity := by
  cases keying <;> rfl

/-- The source that may be asked for a key: the one that the strategy names, if the declared type
takes what it produces, or if it is registered. -/
inductive Permits (sources : KeySources σ) (entity : String) (key : Field) : KeyOrigin → Prop where
  | id (strategy : key.strategy = .snowflake) (declared : key.type = .bigInt) :
      Permits sources entity key .id
  | uuid (strategy : key.strategy = .uuid) (declared : key.type = .text) :
      Permits sources entity key .uuid
  | generator {name : String} {generator : KeyGenerator σ} (strategy : key.strategy = .custom name)
      (registered : sources.generators.find? name = some generator) :
      Permits sources entity key (.generator name entity)

theorem Permits.origin {sources : KeySources σ} {entity : String} {key : Field}
    {origin : KeyOrigin} (permits : sources.Permits entity key origin) :
    key.strategy.origin? entity = some origin := by
  cases permits with
  | id strategy _ => rw [strategy]; rfl
  | uuid strategy _ => rw [strategy]; rfl
  | generator strategy _ => rw [strategy]; rfl

inductive Produced (sources : KeySources σ) (entity : String) (key : Field) :
    Except Error Value → List Drawn → Prop where
  | left (unassigned : key.strategy = .auto ∨ key.strategy = .none) :
      Produced sources entity key (.ok .null) []
  | missing (strategy : key.strategy = .assign) :
      Produced sources entity key (.error (.missingKey entity key.name)) []
  | mistyped (differs : (key.strategy = .snowflake ∧ key.type ≠ .bigInt) ∨
        (key.strategy = .uuid ∧ key.type ≠ .text)) :
      Produced sources entity key
        (.error (.keyType entity key.name key.strategy.name key.type.sql)) []
  | unregistered {name : String} (strategy : key.strategy = .custom name)
      (unknown : sources.generators.find? name = none) :
      Produced sources entity key (.error (.unknownGenerator name)) []
  | drawn {origin : KeyOrigin} (answer : Except Error Value)
      (permits : sources.Permits entity key origin) :
      Produced sources entity key answer [⟨origin, answer⟩]

inductive Generated (entity : String) (key : Field) : Except Error Value → List Drawn → Prop where
  | left (unassigned : key.strategy = .auto ∨ key.strategy = .none) :
      Generated entity key (.ok .null) []
  | undrawn (e : Error) : Generated entity key (.error e) []
  | drawn {origin : KeyOrigin} (answer : Except Error Value)
      (asked : key.strategy.origin? entity = some origin) :
      Generated entity key answer [⟨origin, answer⟩]

section Production

variable {type : EntityType α} {mapping : Mapping} {key : Field} {entity : α} {drawn : List Drawn}

theorem Generated.keying_of_error {e : Error} (lacks : type.LacksKey mapping key entity)
    (production : Generated mapping.entity key (.error e) drawn) :
    Keying type entity (entity, .error e) drawn := by
  cases production with
  | undrawn => exact .undrawn e lacks
  | drawn _ asked => exact .failed e lacks asked

theorem Generated.keying_of_null {value : Value} (lacks : type.LacksKey mapping key entity)
    (null : value.isNull = true) (production : Generated mapping.entity key (.ok value) drawn) :
    Keying type entity (entity, .ok none) drawn := by
  cases production with
  | left unassigned => exact .left lacks unassigned
  | drawn _ asked =>
      rw [Value.eq_null_of_is_null null]
      exact .null lacks asked

theorem Generated.keying_of_refused {value : Value} {e : Error}
    (lacks : type.LacksKey mapping key entity) (present : value.isNull = false)
    (failed : type.store entity key.name value = .error e)
    (production : Generated mapping.entity key (.ok value) drawn) :
    Keying type entity (entity, .error e) drawn := by
  cases production with
  | left unassigned => cases present
  | drawn _ asked => exact .refused lacks asked present failed

theorem Generated.keying_of_stored {value : Value} {keyed : α}
    (lacks : type.LacksKey mapping key entity) (present : value.isNull = false)
    (values : ∀ name, type.value? keyed name =
      if name = key.name then some value else type.value? entity name)
    (production : Generated mapping.entity key (.ok value) drawn) :
    Keying type entity (keyed, .ok (some value)) drawn := by
  cases production with
  | left unassigned => cases present
  | drawn _ asked => exact .stored lacks asked present values

end Production

theorem Produced.generated {sources : KeySources σ} {entity : String} {key : Field}
    {answer : Except Error Value} {drawn : List Drawn}
    (production : sources.Produced entity key answer drawn) :
    Generated entity key answer drawn := by
  cases production with
  | left unassigned => exact .left unassigned
  | missing => exact .undrawn _
  | mistyped => exact .undrawn _
  | unregistered => exact .undrawn _
  | drawn answer permits => exact .drawn answer permits.origin

theorem generate_journals (note : Drawn → ε) (sources : KeySources σ) (entity : String)
    (key : Field) :
    Journals ((sources.journaled note).generate entity key).run (sources.generate entity key).run
      fun answer added => ∃ drawn, added = drawn.map note ∧
        sources.Produced entity key answer drawn := by
  unfold generate
  cases strategy : key.strategy with
  | auto => exact .finished ⟨[], rfl, .left (Or.inl strategy)⟩
  | none => exact .finished ⟨[], rfl, .left (Or.inr strategy)⟩
  | assign => exact .finished ⟨[], rfl, .missing strategy⟩
  | uuid =>
      by_cases declared : key.type = .text
      · have accepted : requireType entity key .text = .ok () := if_pos declared
        simp only [accepted]
        have drawn := (noting_journals (fun text => note ⟨.uuid, .ok (.text text)⟩)
          sources.uuid).bind _ fun text =>
            Journals.pure (Except.ok (Value.text text) : Except Error Value)
        apply drawn.weaken
        intro answer added noted
        obtain ⟨text, before, after, both, request, same, nothing⟩ := noted
        rw [both, request, nothing, same]
        exact ⟨[⟨.uuid, .ok (.text text)⟩], rfl, .drawn _ (.uuid strategy declared)⟩
      · have refused : requireType entity key .text =
            .error (.keyType entity key.name key.strategy.name key.type.sql) := if_neg declared
        simp only [refused]
        exact .finished ⟨[], rfl, .mistyped (Or.inr ⟨strategy, declared⟩)⟩
  | custom name =>
      dsimp only
      rw [find_journaled]
      cases registered : sources.generators.find? name with
      | none => exact .finished ⟨[], rfl, .unregistered strategy registered⟩
      | some generator =>
          rw [Option.map_some]
          have drawn := noting_journals
            (fun answer => note ⟨.generator name entity, answer⟩) (generator entity)
          apply drawn.weaken
          intro answer added noted
          exact ⟨[⟨.generator name entity, answer⟩], noted,
            .drawn answer (.generator strategy registered)⟩
  | snowflake =>
      by_cases declared : key.type = .bigInt
      · have accepted : requireType entity key .bigInt = .ok () := if_pos declared
        simp only [accepted]
        have drawn := (noting_journals (fun answer => note ⟨.id, answer.map .bigInt⟩)
          sources.nextId).bind_action fun id => Journals.pure (Except.ok (Value.bigInt id))
        apply drawn.weaken
        intro answer added noted
        obtain ⟨e, failed, request⟩ | ⟨id, before, after, both, request, same, nothing⟩ := noted
        · rw [failed]
          exact ⟨[⟨.id, .error e⟩], request, .drawn _ (.id strategy declared)⟩
        · rw [both, request, nothing, same]
          exact ⟨[⟨.id, .ok (.bigInt id)⟩], rfl, .drawn _ (.id strategy declared)⟩
      · have refused : requireType entity key .bigInt =
            .error (.keyType entity key.name key.strategy.name key.type.sql) := if_neg declared
        simp only [refused]
        exact .finished ⟨[], rfl, .mistyped (Or.inl ⟨strategy, declared⟩)⟩

/-- Assigning a key to an entity, as far as it goes: it is mapped, it has a key field, the key is
null, a value is produced, the value is a key, and it can be stored. -/
inductive Settled (sources : KeySources σ) (type : EntityType α) (entity : α) :
    α × Except Error (Option Value) → List Drawn → Prop where
  | unmapped {e : Error} (failed : type.schema.mapping = .error e) :
      Settled sources type entity (entity, .error e) []
  | keyless {mapping : Mapping} (mapped : type.schema.mapping = .ok mapping)
      (noKey : mapping.key? = none) : Settled sources type entity (entity, .ok none) []
  | given {mapping : Mapping} {key : Field} (mapped : type.schema.mapping = .ok mapping)
      (isKey : mapping.key? = some key) (present : type.isNull entity key.name = false) :
      Settled sources type entity (entity, .ok none) []
  | failed {mapping : Mapping} {key : Field} {e : Error} {drawn : List Drawn}
      (lacks : type.LacksKey mapping key entity)
      (production : sources.Produced mapping.entity key (.error e) drawn) :
      Settled sources type entity (entity, .error e) drawn
  | null {mapping : Mapping} {key : Field} {value : Value} {drawn : List Drawn}
      (lacks : type.LacksKey mapping key entity)
      (production : sources.Produced mapping.entity key (.ok value) drawn)
      (null : value.isNull = true) : Settled sources type entity (entity, .ok none) drawn
  | refused {mapping : Mapping} {key : Field} {value : Value} {e : Error} {drawn : List Drawn}
      (lacks : type.LacksKey mapping key entity)
      (production : sources.Produced mapping.entity key (.ok value) drawn)
      (present : value.isNull = false) (failed : type.store entity key.name value = .error e) :
      Settled sources type entity (entity, .error e) drawn
  | stored {mapping : Mapping} {key : Field} {value : Value} {keyed : α} {drawn : List Drawn}
      (lacks : type.LacksKey mapping key entity)
      (production : sources.Produced mapping.entity key (.ok value) drawn)
      (present : value.isNull = false) (stored : type.store entity key.name value = .ok keyed) :
      Settled sources type entity (keyed, .ok (some value)) drawn

theorem Settled.keying {sources : KeySources σ} {type : EntityType α} (lawful : type.StoresOne)
    {entity : α} {answer : α × Except Error (Option Value)} {drawn : List Drawn}
    (settled : sources.Settled type entity answer drawn) : Keying type entity answer drawn := by
  cases settled with
  | unmapped failed => exact .unmapped entity failed
  | keyless mapped noKey => exact .keyless entity mapped noKey
  | given mapped isKey present => exact .given mapped isKey present
  | failed lacks production => exact production.generated.keying_of_error lacks
  | null lacks production null => exact production.generated.keying_of_null lacks null
  | refused lacks production present failed =>
      exact production.generated.keying_of_refused lacks present failed
  | stored lacks production present stored =>
      exact production.generated.keying_of_stored lacks present (lawful _ _ _ _ stored)

theorem assign_settles (note : Drawn → ε) (sources : KeySources σ) (type : EntityType α)
    (entity : α) :
    Journals ((sources.journaled note).assign type entity) (sources.assign type entity)
      fun answer added => ∃ drawn, added = drawn.map note ∧
        sources.Settled type entity answer drawn := by
  unfold assign
  cases mapped : type.schema.mapping with
  | error e => exact .finished ⟨[], rfl, .unmapped mapped⟩
  | ok mapping =>
      dsimp only
      cases isKey : mapping.key? with
      | none => exact .finished ⟨[], rfl, .keyless mapped isKey⟩
      | some key =>
          dsimp only
          cases null : type.isNull entity key.name with
          | false => exact .finished ⟨[], rfl, .given mapped isKey null⟩
          | true =>
              have lacks : type.LacksKey mapping key entity := ⟨mapped, isKey, null⟩
              rw [Bool.not_true, if_neg Bool.false_ne_true, if_neg Bool.false_ne_true]
              apply ((sources.generate_journals note mapping.entity key).bind
                (fun generated answer added => added = [] ∧
                  ∀ drawn, sources.Produced mapping.entity key generated drawn →
                    sources.Settled type entity answer drawn) ?_).weaken
              · intro answer added assigned
                obtain ⟨generated, before, after, both, ⟨drawn, noted, production⟩, nothing,
                  settled⟩ := assigned
                rw [both, noted, nothing, List.append_nil]
                exact ⟨drawn, rfl, settled drawn production⟩
              · intro generated
                cases generated with
                | error e => exact .finished ⟨rfl, fun _ production => .failed lacks production⟩
                | ok value =>
                    dsimp only
                    cases present : value.isNull with
                    | true =>
                        exact .finished
                          ⟨rfl, fun _ production => .null lacks production present⟩
                    | false =>
                        rw [if_neg Bool.false_ne_true, if_neg Bool.false_ne_true]
                        cases storing : type.store entity key.name value with
                        | error e =>
                            exact .finished ⟨rfl, fun _ production =>
                              .refused lacks production present storing⟩
                        | ok keyed =>
                            exact .finished ⟨rfl, fun _ production =>
                              .stored lacks production present storing⟩

theorem assign_journals (note : Drawn → ε) (sources : KeySources σ) (type : EntityType α)
    (lawful : type.StoresOne) (entity : α) :
    Journals ((sources.journaled note).assign type entity) (sources.assign type entity)
      fun answer added => ∃ drawn, added = drawn.map note ∧ Keying type entity answer drawn := by
  apply (sources.assign_settles note type entity).weaken
  intro answer added assigned
  obtain ⟨drawn, noted, settled⟩ := assigned
  exact ⟨drawn, noted, settled.keying lawful⟩

end KeySources

end BoundSql
