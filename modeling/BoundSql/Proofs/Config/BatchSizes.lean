import Mathlib
import BoundSql.Proofs.Config.Lookup
import BoundSql.Proofs.Session.BatchTrace

/-!
Batch sizes. A text is accepted exactly if a numeral without a minus sign stands in it and denotes a
positive number of 64 bits. The default is taken for an absent property, and for a variable that is
unset or blank; a blank property is present, so it is refused. However a size comes about, lists are
cut into pieces that are not empty, and as many as the division by the size says.
-/

namespace BoundSql.BatchSize

/-- A numeral that may be a size stands in the text, and it denotes this one. -/
def Written (raw : String) (max : BatchSize) : Prop :=
  max.size < 2 ^ 64 ∧
    ∃ numeral : Text.Numeral, numeral.sign ≠ .minus ∧ numeral.StandsIn raw ∧
      numeral.value = max.size

theorem ext_iff {max other : BatchSize} : max = other ↔ max.size = other.size := by
  cases max
  cases other
  simp

theorem of_nat_decided (size : Nat) :
    Decided (ofNat size) (fun max => max.size = size) (.setting propertyKey "0" reason) := by
  rw [ofNat]
  split
  · apply decided_ok
    intro other
    rw [ext_iff, eq_comm]
  · rename_i zero
    apply decided_error
    intro other same
    have positive := other.size_pos
    omega

theorem parse_decided (key raw : String) :
    Decided (parse key raw) (Written raw) (.setting key raw reason) := by
  rw [parse]
  split
  · rename_i size read
    obtain ⟨numeral, unsigned, stands, value⟩ := (Text.natural_trim_iff raw size).mp read
    -- The text is read in one way only, so every size that is written there is the number read.
    have unique : ∀ max : BatchSize, Written raw max → max.size = size := by
      rintro max ⟨-, other, otherUnsigned, otherStands, otherValue⟩
      have again := (Text.natural_trim_iff raw max.size).mpr
        ⟨other, otherUnsigned, otherStands, otherValue⟩
      rw [read, Option.some.injEq] at again
      exact again.symm
    split
    · rename_i fits
      apply decided_ok
      intro other
      rw [ext_iff]
      constructor
      · intro written
        exact (unique other written).symm
      · rintro rfl
        exact ⟨fits.2, numeral, unsigned, stands, value⟩
    · rename_i outside
      apply decided_error
      intro other written
      have same := unique other written
      exact outside (same ▸ ⟨other.size_pos, written.1⟩)
  · rename_i unread
    apply decided_error
    rintro other ⟨-, numeral, unsigned, stands, value⟩
    have read := (Text.natural_trim_iff raw other.size).mpr ⟨numeral, unsigned, stands, value⟩
    rw [unread] at read
    cases read

theorem written_trim_iff (raw : String) (max : BatchSize) :
    Written (Text.trim raw) max ↔ Written raw max := by
  simp only [Written, Text.Numeral.stands_in_trim_iff]

theorem environment_governs :
    Setting.Governs environmentKey ofEnvironment Written (.setting environmentKey · reason)
      (.ok default) := by
  let next : Option String → Except Error BatchSize :=
    fun value => value.elim (.ok default) (parse environmentKey)
  have reads : ∀ setting : Setting,
      ofEnvironment setting = setting.read environmentKey >>= next := by
    intro setting
    rw [ofEnvironment]
    cases setting.read environmentKey with
    | error e => rfl
    | ok value =>
        cases value with
        | none => rfl
        | some raw => simp only [next, bind, Except.bind, Option.elim_some]
  have decided : ∀ raw, Text.blank raw = false →
      Decided (next (some raw)) (Written raw) (.setting environmentKey raw reason) := by
    intro raw visible
    simp only [next, Option.elim_some]
    exact parse_decided environmentKey raw
  exact Setting.governs reads decided written_trim_iff

inductive Origin where
  | default
  | number (size : UInt64)
  | properties (property? : String → Option String)
  | environment (setting : Setting)
  | resized (before : Origin) (size : UInt64)

def Origin.reached : Origin → Except Error BatchSize
  | .default => .ok BatchSize.default
  | .number size => ofNat size.toNat
  | .properties property? => ofProperties property?
  | .environment setting => ofEnvironment setting
  | .resized before size => do
      let _ ← before.reached
      ofNat size.toNat

theorem size_of_number {size : UInt64} {max : BatchSize} (made : ofNat size.toNat = .ok max) :
    max.size < 2 ^ 64 := by
  rw [((of_nat_decided size.toNat).accepted max).mp made]
  exact size.toNat_lt

theorem size_of_parsed {key raw : String} {max : BatchSize} (read : parse key raw = .ok max) :
    max.size < 2 ^ 64 :=
  (((parse_decided key raw).accepted max).mp read).1

theorem size_of_default {max : BatchSize} (same : Except.ok (ε := Error) default = .ok max) :
    max.size < 2 ^ 64 := by
  cases same
  decide

theorem Origin.size_lt (origin : Origin) {max : BatchSize} (made : origin.reached = .ok max) :
    max.size < 2 ^ 64 := by
  cases origin with
  | default => exact size_of_default made
  | number size => exact size_of_number made
  | properties property? =>
      rw [reached, ofProperties] at made
      split at made
      · exact size_of_parsed made
      · exact size_of_default made
  | environment setting =>
      rcases setting.kinds with rfl | ⟨raw, holds⟩ | ⟨bytes, rfl, foreign⟩
      · exact size_of_default made
      · rcases Text.blank_or_visible raw with blank | visible
        · rw [reached, environment_governs.blank setting raw holds blank] at made
          exact size_of_default made
        · have decided := environment_governs.visible setting raw holds visible
          exact ((decided.accepted max).mp made).1
      · rw [reached, environment_governs.notUnicode bytes foreign] at made
        cases made
  | resized before size =>
      rw [reached] at made
      cases earlier : before.reached with
      | error e =>
          rw [earlier] at made
          cases made
      | ok _ =>
          rw [earlier] at made
          exact size_of_number made

/-- What the pieces of a list are for a batch size: the items in order, in as many pieces as the
division says, and no piece is empty or longer than the size. -/
structure Splits {α : Type} (max : BatchSize) (items : List α) : Prop where
  whole : (max.chunks items).flatten = items
  count : (max.chunks items).length = (items.length + (max.size - 1)) / max.size
  nonempty : ∀ chunk ∈ max.chunks items, chunk ≠ []
  bounded : ∀ chunk ∈ max.chunks items, chunk.length ≤ max.size

theorem splits {α : Type} (max : BatchSize) (items : List α) : Splits max items where
  whole := max.flatten_chunks items
  count := by
    rw [chunks_eq_pieces, List.length_map, List.length_range]
    rfl
  nonempty := max.ne_nil_of_mem_chunks items
  bounded := max.length_le_of_mem_chunks items

theorem of_properties_decided {property? : String → Option String} {raw : String}
    (present : property? propertyKey = some raw) :
    Decided (ofProperties property?) (Written raw) (.setting propertyKey raw reason) := by
  simp only [ofProperties, present]
  exact parse_decided propertyKey raw

theorem of_properties_absent {property? : String → Option String}
    (absent : property? propertyKey = none) : ofProperties property? = .ok default := by
  simp only [ofProperties, absent]

theorem not_written_of_blank {raw : String} (blank : ∀ c ∈ raw.toList, Text.isBlank c = true)
    (max : BatchSize) : ¬Written raw max := by
  rintro ⟨-, numeral, -, ⟨before, after, whole, -, -⟩, -⟩
  obtain ⟨d, rest, digits⟩ := List.exists_cons_of_ne_nil numeral.digits_ne_nil
  have inNumeral : Text.digitChar d ∈ numeral.chars := by
    rw [Text.Numeral.chars, digits]
    simp
  have inText : Text.digitChar d ∈ raw.toList := by
    rw [whole]
    simp [inNumeral]
  have seen := Text.not_blank_digit_char d
  rw [blank _ inText] at seen
  cases seen

/-- Only an absent setting gives the default; every other text gives the positive number of 64 bits
that it denotes, or an error. So every size that can be reached cuts a list into pieces. -/
theorem batch_size_never_guessed :
    (∀ (property? : String → Option String) (raw : String), property? propertyKey = some raw →
      Decided (ofProperties property?) (Written raw) (.setting propertyKey raw reason) ∧
      ((∀ c ∈ raw.toList, Text.isBlank c = true) →
        ofProperties property? = .error (.setting propertyKey raw reason))) ∧
    (∀ property? : String → Option String, property? propertyKey = none →
      ofProperties property? = .ok default) ∧
    Setting.Governs environmentKey ofEnvironment Written (.setting environmentKey · reason)
      (.ok default) ∧
    (∀ size : UInt64, Decided (ofNat size.toNat) (fun max => max.size = size.toNat)
      (.setting propertyKey "0" reason)) ∧
    ∀ (origin : Origin) (max : BatchSize), origin.reached = .ok max →
      0 < max.size ∧ max.size < 2 ^ 64 ∧
        ∀ {α : Type} (items : List α), Splits max items := by
  refine ⟨?_, fun _ => of_properties_absent, environment_governs,
    fun size => of_nat_decided size.toNat, ?_⟩
  · intro property? raw present
    have decided := of_properties_decided present
    refine ⟨decided, ?_⟩
    intro blank
    exact (decided.refused _).mpr ⟨rfl, not_written_of_blank blank⟩
  · intro origin max made
    exact ⟨max.size_pos, origin.size_lt made, splits max⟩

def sized (raw : String) : String → Option String := fun key =>
  if key = propertyKey then some raw else none

theorem padded_size_configured :
    ofProperties (sized " +003\n") = .ok ⟨3, by decide⟩ ∧
      ofProperties (sized "\t") = .error (.setting propertyKey "\t" reason) ∧
      ofEnvironment (.text "18446744073709551616") =
        .error (.setting environmentKey "18446744073709551616" reason) ∧
      ofEnvironment (.bytes [0xFF, 0x35]) =
        .error (.setting environmentKey "\uFFFD5" "is not valid Unicode") ∧
      ((⟨3, by decide⟩ : BatchSize).chunks ['a', 'b', 'c', 'd']).length = 2 := by
  obtain ⟨properties, -, environment, -, reached⟩ := batch_size_never_guessed
  have padded : Written " +003\n" ⟨3, by decide⟩ :=
    ⟨by decide, ⟨.plus, [0, 0, 3], by decide⟩, by decide, ⟨[' '], ['\n'], by decide,
      List.forall_mem_singleton.mpr (by decide), List.forall_mem_singleton.mpr (by decide)⟩,
      by decide⟩
  have blank : ∀ c ∈ "\t".toList, Text.isBlank c = true := (Text.blank_iff _).mp (by decide)
  have foreign : ∀ s, ([0xFF, 0x35] : List UInt8) ≠ Text.utf8Bytes s :=
    Text.utf8_eq_none_iff.mp (by decide +kernel)
  have shown : Text.utf8Lenient [0xFF, 0x35] = "\uFFFD5" := by decide +kernel
  have read := ((properties (sized " +003\n") _ (by decide)).1.accepted _).mpr padded
  refine ⟨read, (properties (sized "\t") _ (by decide)).2 blank, by decide +kernel, ?_, ?_⟩
  · rw [← shown]
    exact environment.notUnicode [0xFF, 0x35] foreign
  · obtain ⟨-, -, split⟩ := reached (.properties (sized " +003\n")) _ read
    exact (split ['a', 'b', 'c', 'd']).count

end BoundSql.BatchSize
