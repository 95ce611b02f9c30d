import Mathlib
import BoundSql.Proofs.Config.Lookup
import BoundSql.Proofs.Snowflake.Bijection
import BoundSql.Snowflake.NodeId

/-!
Node ids by rank. A number given by the caller decides alone, a configured text that is not blank
decides alone where no number is given, and only where there is neither does the host decide. Each
of the first two gives the id that it denotes or an error of its own, so nothing of lower rank ever
stands in for it. The text is read as a numeral with white space around it: the two places that look
for white space, one before the text is read and one while it is read, agree on what is blank.
-/

namespace BoundSql.NodeId

def Written (raw : String) (node : NodeId) : Prop :=
  ∃ numeral : Text.Numeral, numeral.StandsIn raw ∧ numeral.value = node.val

def outside (id : Int) : Error :=
  .setting "nodeId" (toString id) "must be between 0 and 1023"

def unreadable (shown : String) : Error :=
  .setting environmentKey shown "must be an integer between 0 and 1023"

def hosted : Option NodeId → NodeId × NodeSource
  | some node => (node, .derived)
  | none => (fallback, .fallback)

theorem of_int_eq_some_iff (id : Int) (node : NodeId) :
    ofInt? id = some node ↔ (node.val : Int) = id := by
  have small := node.isLt
  rw [ofInt?]
  split
  · rename_i inside
    rw [Option.some.injEq, Fin.ext_iff]
    show id.toNat = node.val ↔ _
    omega
  · rename_i out
    constructor
    · nofun
    · intro same
      exact absurd (show 0 ≤ id ∧ id ≤ 1023 by omega) out

theorem check_decided (id : Int) :
    Decided (check id) (fun node => (node.val : Int) = id) (outside id) := by
  apply decided_of_option (of_int_eq_some_iff id)
  · intro node found
    rw [check, found]
  · intro missing
    rw [check, missing]
    rfl

theorem written_iff (raw : String) (node : NodeId) :
    (Text.integer? (Text.trim raw)).bind ofInt? = some node ↔ Written raw node := by
  rw [Option.bind_eq_some_iff]
  constructor
  · rintro ⟨id, read, same⟩
    obtain ⟨numeral, stands, value⟩ := (Text.integer_trim_iff raw id).mp read
    rw [of_int_eq_some_iff] at same
    exact ⟨numeral, stands, value.trans same.symm⟩
  · rintro ⟨numeral, stands, value⟩
    have read := (Text.integer_trim_iff raw node.val).mpr ⟨numeral, stands, value⟩
    exact ⟨node.val, read, (of_int_eq_some_iff _ _).mpr rfl⟩

theorem parse_decided (raw : String) :
    Decided (parse raw) (Written raw) (unreadable raw) := by
  apply decided_of_option (written_iff raw)
  · intro node found
    rw [parse, found]
  · intro missing
    rw [parse, missing]
    rfl

theorem check_succeeds_iff (id : Int) : (∃ node, check id = .ok node) ↔ 0 ≤ id ∧ id ≤ 1023 := by
  simp only [(check_decided id).accepted]
  constructor
  · rintro ⟨node, rfl⟩
    omega
  · rintro ⟨low, high⟩
    exact ⟨⟨id.toNat, by omega⟩, Int.toNat_of_nonneg low⟩

theorem exists_written_iff (raw : String) :
    (∃ node, Written raw node) ↔
      ∃ numeral : Text.Numeral, numeral.StandsIn raw ∧ 0 ≤ numeral.value ∧
        numeral.value ≤ 1023 := by
  constructor
  · rintro ⟨node, numeral, stands, value⟩
    exact ⟨numeral, stands, by omega, by omega⟩
  · rintro ⟨numeral, stands, low, high⟩
    have value : numeral.value = numeral.value.toNat := (Int.toNat_of_nonneg low).symm
    exact ⟨⟨numeral.value.toNat, by omega⟩, numeral, stands, value⟩

theorem written_trim_iff (raw : String) (node : NodeId) :
    Written (Text.trim raw) node ↔ Written raw node := by
  simp only [Written, Text.Numeral.stands_in_trim_iff]

theorem decided_with_source {result : Except Error NodeId} {Meant : NodeId → Prop} {error : Error}
    (decided : Decided result Meant error) (source : NodeSource) :
    Decided (do return (← result, source)) (fun found => Meant found.1 ∧ found.2 = source)
      error := by
  cases result with
  | ok node =>
      apply decided_ok
      rintro ⟨other, otherSource⟩
      rw [← decided.accepted, Except.ok.injEq, Prod.mk.injEq, eq_comm (a := source)]
  | error e =>
      obtain ⟨rfl, nothing⟩ := (decided.refused e).mp rfl
      apply decided_error
      intro found meant
      exact nothing found.1 meant.1

variable {host : Option NodeId}

theorem resolve_given (id : Int) (configured : Option String) :
    resolve (some id) configured host = (do return (← check id, .explicit)) := rfl

theorem resolve_configured {raw : String} (visible : Text.blank raw = false) :
    resolve none (some raw) host = (do return (← parse raw, .environment)) := by
  have kept : (some raw).filter (fun raw => !Text.blank raw) = some raw := by
    simp [visible]
  simp only [resolve, kept]

theorem resolve_none : resolve none none host = .ok (hosted host) := by
  cases host <;> rfl

theorem resolve_blank {raw : String} (blank : Text.blank raw = true) :
    resolve none (some raw) host = .ok (hosted host) := by
  have dropped : (some raw).filter (fun raw => !Text.blank raw) = none := by
    simp [blank]
  simp only [resolve, dropped]
  exact resolve_none

def Named (raw : String) (found : NodeId × NodeSource) : Prop :=
  Written raw found.1 ∧ found.2 = .environment

theorem resolve_decided {raw : String} (visible : Text.blank raw = false) :
    Decided (resolve none (some raw) host) (Named raw) (unreadable raw) := by
  rw [resolve_configured visible]
  exact decided_with_source (parse_decided raw) .environment

theorem environment_governs :
    Setting.Governs environmentKey (ofEnvironment · host) Named unreadable
      (.ok (hosted host)) := by
  have reads : ∀ setting : Setting,
      ofEnvironment setting host = setting.read environmentKey >>= (resolve none · host) :=
    fun _ => rfl
  have trimmed : ∀ raw found, Named (Text.trim raw) found ↔ Named raw found := by
    intro raw found
    rw [Named, written_trim_iff, Named]
  rw [← resolve_none]
  exact Setting.governs reads (fun raw => resolve_decided) trimmed

/-- How a node id comes about on a host: a number decides first, then a text that is not blank,
whether it is given or set, and the host only where there is neither. -/
structure ByRank (host : Option NodeId) : Prop where
  given : ∀ (id : Int) (configured : Option String),
    Decided (resolve (some id) configured host)
      (fun found => (found.1.val : Int) = id ∧ found.2 = .explicit) (outside id)
  configured : ∀ raw : String, (∃ c ∈ raw.toList, Text.isBlank c = false) →
    Decided (resolve none (some raw) host) (Named raw) (unreadable raw)
  blank : ∀ raw : String, (∀ c ∈ raw.toList, Text.isBlank c = true) →
    resolve none (some raw) host = .ok (hosted host)
  absent : resolve none none host = .ok (hosted host)
  environment : Setting.Governs environmentKey (ofEnvironment · host) Named unreadable
    (.ok (hosted host))

theorem by_rank (host : Option NodeId) : ByRank host where
  given id configured := by
    rw [resolve_given]
    exact decided_with_source (check_decided id) .explicit
  configured raw visible := resolve_decided ((Text.not_blank_iff raw).mpr visible)
  blank raw blank := resolve_blank ((Text.blank_iff raw).mpr blank)
  absent := resolve_none
  environment := environment_governs

def OfHost (source : NodeSource) : Prop := source = .derived ∨ source = .fallback

theorem not_of_host_of_named {raw : String} {found : NodeId × NodeSource}
    (named : Named raw found) : ¬OfHost found.2 := by
  rw [named.2]
  simp [OfHost]

theorem absent_of_host {explicit : Option Int} {configured : Option String}
    {found : NodeId × NodeSource} (resolved : resolve explicit configured host = .ok found)
    (ofHost : OfHost found.2) :
    explicit = none ∧ ∀ raw ∈ configured, ∀ c ∈ raw.toList, Text.isBlank c = true := by
  have ranks := by_rank host
  cases explicit with
  | some id =>
      obtain ⟨-, source⟩ := ((ranks.given id configured).accepted found).mp resolved
      simp [OfHost, source] at ofHost
  | none =>
      refine ⟨rfl, ?_⟩
      rintro raw rfl
      rcases Text.blank_or_visible raw with blank | visible
      · exact blank
      · have named := ((ranks.configured raw visible).accepted found).mp resolved
        exact absurd ofHost (not_of_host_of_named named)

theorem unset_or_blank_of_host {setting : Setting} {found : NodeId × NodeSource}
    (resolved : ofEnvironment setting host = .ok found) (ofHost : OfHost found.2) :
    setting = .unset ∨
      ∃ raw, setting.Holds raw ∧ ∀ c ∈ raw.toList, Text.isBlank c = true := by
  have governs := (by_rank host).environment
  rcases setting.kinds with unset | ⟨raw, holds⟩ | ⟨bytes, rfl, foreign⟩
  · exact .inl unset
  · rcases Text.blank_or_visible raw with blank | visible
    · exact .inr ⟨raw, holds, blank⟩
    · have named := ((governs.visible setting raw holds visible).accepted found).mp resolved
      exact absurd ofHost (not_of_host_of_named named)
  · rw [governs.notUnicode bytes foreign] at resolved
    cases resolved

theorem derive_eq_some_iff (hash : String → UInt64) (machine : Machine) (node : NodeId) :
    derive hash machine = some node ↔
      ∃ seed, machine.seed = some seed ∧ (hash seed).toNat % 1024 = node.val := by
  rw [derive, Option.map_eq_some_iff]
  simp only [Fin.ext_iff]

/-- Where a generator has its node from. -/
inductive Origin where
  | given (id : Int)
  | environment (setting : Setting)

def Origin.node (host : Option NodeId) : Origin → Except Error NodeId
  | .given id => check id
  | .environment setting => do return (← ofEnvironment setting host).1

/-- The id that a caller or a setting names is taken or refused, never replaced: only where none
is named does the host decide. What a generator issues carries the id that it was made with. -/
theorem named_node_id_never_replaced (hash : String → UInt64) (machine : Machine) :
    ByRank (derive hash machine) ∧
    (∀ (explicit : Option Int) (configured : Option String) (found : NodeId × NodeSource),
      resolve explicit configured (derive hash machine) = .ok found → OfHost found.2 →
        explicit = none ∧ ∀ raw ∈ configured, ∀ c ∈ raw.toList, Text.isBlank c = true) ∧
    (∀ (setting : Setting) (found : NodeId × NodeSource),
      ofEnvironment setting (derive hash machine) = .ok found → OfHost found.2 →
        setting = .unset ∨
          ∃ raw, setting.Holds raw ∧ ∀ c ∈ raw.toList, Text.isBlank c = true) ∧
    (∀ node : NodeId, derive hash machine = some node ↔
      ∃ seed, machine.seed = some seed ∧ (hash seed).toNat % 1024 = node.val) ∧
    (∀ id : Int, Decided (check id) (fun node => (node.val : Int) = id) (outside id) ∧
      ((∃ node, check id = .ok node) ↔ 0 ≤ id ∧ id ≤ 1023)) ∧
    (∀ raw : String, (∃ node, Written raw node) ↔
      ∃ numeral : Text.Numeral, numeral.StandsIn raw ∧ 0 ≤ numeral.value ∧
        numeral.value ≤ 1023) ∧
    ∀ (origin : Origin) (node : NodeId), origin.node (derive hash machine) = .ok node →
      node.val ≤ 1023 ∧
      ∀ {σ κ : Type} (clock : Snowflake.Clock σ) (callers : List κ) (s : σ),
        ∀ id ∈ Snowflake.issued (Snowflake.serve clock node callers (.initial, s)),
          (Snowflake.decompose id).node = node := by
  refine ⟨by_rank _, ?_, ?_, derive_eq_some_iff hash machine,
    fun id => ⟨check_decided id, check_succeeds_iff id⟩, exists_written_iff, ?_⟩
  · intro explicit configured found
    exact absent_of_host
  · intro setting found
    exact unset_or_blank_of_host
  · intro origin node made
    refine ⟨Nat.le_of_lt_succ node.isLt, ?_⟩
    intro σ κ clock callers s
    exact Snowflake.node_of_issued clock node callers (.initial, s)

def worker : Machine where
  process := 77
  setting? key := if key = "HOSTNAME" then some " worker-3\n" else none
  file? _ := none

theorem worker_node_ids :
    let host := derive (fun _ => 5000) worker
    worker.seed = some "77@worker-3" ∧
      resolve (some 1023) (some "7") host = .ok (1023, .explicit) ∧
      resolve none (some "\u3000+0042 ") host = .ok (42, .environment) ∧
      ofEnvironment (.text "-0\n") host = .ok (0, .environment) ∧
      ofEnvironment (.bytes [0xFF, 0x31]) host =
        .error (.setting environmentKey "\uFFFD1" "is not valid Unicode") ∧
      ofEnvironment (.bytes [0xC2, 0xA0]) host = .ok (904, .derived) := by
  obtain ⟨ranks, -⟩ := named_node_id_never_replaced (fun _ => 5000) worker
  have padded : Written "\u3000+0042 " 42 :=
    ⟨⟨.plus, [0, 0, 4, 2], by decide⟩, ⟨['\u3000'], [' '], by decide,
      List.forall_mem_singleton.mpr (by decide), List.forall_mem_singleton.mpr (by decide)⟩,
      by decide⟩
  have negated : Written "-0\n" 0 :=
    ⟨⟨.minus, [0], by decide⟩, ⟨[], ['\n'], by decide, List.forall_mem_nil _,
      List.forall_mem_singleton.mpr (by decide)⟩, by decide⟩
  have foreign : ∀ s, ([0xFF, 0x31] : List UInt8) ≠ Text.utf8Bytes s :=
    Text.utf8_eq_none_iff.mp (by decide +kernel)
  have noBreak : Setting.Holds (.bytes [0xC2, 0xA0]) "\u00A0" := .bytes "\u00A0"
  have blank : ∀ c ∈ "\u00A0".toList, Text.isBlank c = true :=
    (Text.blank_iff _).mp (by decide +kernel)
  refine ⟨by decide +kernel, ?_, ?_, ?_, ?_, ?_⟩
  · exact ((ranks.given 1023 (some "7")).accepted (1023, .explicit)).mpr ⟨rfl, rfl⟩
  · have decided := ranks.configured "\u3000+0042 " ⟨'4', by decide +kernel⟩
    exact (decided.accepted (42, .environment)).mpr ⟨padded, rfl⟩
  · have decided := ranks.environment.visible _ "-0\n" (.text _) ⟨'0', by decide +kernel⟩
    exact (decided.accepted (0, .environment)).mpr ⟨negated, rfl⟩
  · have shown : Text.utf8Lenient [0xFF, 0x31] = "\uFFFD1" := by decide +kernel
    rw [← shown]
    exact ranks.environment.notUnicode [0xFF, 0x31] foreign
  · exact ranks.environment.blank _ "\u00A0" noBreak blank

end BoundSql.NodeId
