import Mathlib
import BoundSql.Config.Setting
import BoundSql.Proofs.Text.Encoding
import BoundSql.Proofs.Text.Numeral

/-!
What a look-up of a setting can find. A setting is unset, or it holds a text, or it is set to bytes
that encode no text. What is made of it depends on nothing else: on the text without the white space
around it; a blank text counts as none, and bytes that are no text are an error.
-/

namespace BoundSql

/-- The result is what is meant, and the error exactly where nothing is meant. -/
structure Decided {α : Type} (result : Except Error α) (Meant : α → Prop) (error : Error) :
    Prop where
  accepted : ∀ found, result = .ok found ↔ Meant found
  refused : ∀ e, result = .error e ↔ e = error ∧ ∀ found, ¬Meant found

theorem decided_ok {α : Type} {Meant : α → Prop} {found : α} (error : Error)
    (meant : ∀ other, Meant other ↔ found = other) : Decided (.ok found) Meant error where
  accepted other := by rw [meant, Except.ok.injEq]
  refused e := by
    constructor
    · nofun
    · rintro ⟨-, none⟩
      exact absurd ((meant found).mpr rfl) (none found)

theorem decided_error {α : Type} {Meant : α → Prop} (error : Error)
    (none : ∀ found, ¬Meant found) : Decided (.error error) Meant error where
  accepted found := by
    constructor
    · nofun
    · intro meant
      exact absurd meant (none found)
  refused e := by
    rw [Except.error.injEq, eq_comm]
    exact (and_iff_left none).symm

theorem decided_of_option {α : Type} {Meant : α → Prop} {read : Option α}
    {result : Except Error α} {error : Error} (means : ∀ found, read = some found ↔ Meant found)
    (some : ∀ found, read = some found → result = .ok found)
    (none : read = none → result = .error error) : Decided result Meant error := by
  cases reading : read with
  | some found =>
      rw [some found reading]
      apply decided_ok
      intro other
      rw [← means, reading, Option.some.injEq]
  | none =>
      rw [none reading]
      apply decided_error
      intro other meant
      rw [← means, reading] at meant
      cases meant

theorem Decided.congr {α : Type} {result : Except Error α} {Meant Same : α → Prop} {error : Error}
    (decided : Decided result Meant error) (same : ∀ found, Meant found ↔ Same found) :
    Decided result Same error where
  accepted found := by rw [decided.accepted, same]
  refused e := by simp only [decided.refused, same]

theorem Text.blank_or_visible (raw : String) :
    (∀ c ∈ raw.toList, Text.isBlank c = true) ∨ ∃ c ∈ raw.toList, Text.isBlank c = false := by
  cases test : Text.blank raw with
  | true => exact .inl ((Text.blank_iff raw).mp test)
  | false => exact .inr ((Text.not_blank_iff raw).mp test)

namespace Setting

/-- The setting holds a text, as such or by the bytes that encode it. -/
inductive Holds : Setting → String → Prop where
  | text (s : String) : Holds (.text s) s
  | bytes (s : String) : Holds (.bytes (Text.utf8Bytes s)) s

theorem kinds (setting : Setting) :
    setting = .unset ∨ (∃ raw, setting.Holds raw) ∨
      ∃ bytes, setting = .bytes bytes ∧ ∀ s, bytes ≠ Text.utf8Bytes s := by
  cases setting with
  | unset => exact .inl rfl
  | text s => exact .inr (.inl ⟨s, .text s⟩)
  | bytes bytes =>
      by_cases encoded : ∃ s, bytes = Text.utf8Bytes s
      · obtain ⟨s, rfl⟩ := encoded
        exact .inr (.inl ⟨s, .bytes s⟩)
      · exact .inr (.inr ⟨bytes, rfl, not_exists.mp encoded⟩)

theorem read_of_holds {setting : Setting} {raw : String} (holds : setting.Holds raw)
    (key : String) : setting.read key = .ok (present raw) := by
  cases holds with
  | text s => rfl
  | bytes s =>
      have decoded : Text.utf8? (Text.utf8Bytes raw) = some raw := Text.utf8_eq_some_iff.mpr rfl
      simp only [read, decoded]

theorem read_of_not_unicode {bytes : List UInt8} (foreign : ∀ s, bytes ≠ Text.utf8Bytes s)
    (key : String) :
    (Setting.bytes bytes).read key =
      .error (.setting key (Text.utf8Lenient bytes) "is not valid Unicode") := by
  have refused : Text.utf8? bytes = none := Text.utf8_eq_none_iff.mpr foreign
  simp only [read, refused]

theorem read_of_blank {setting : Setting} {raw : String} (holds : setting.Holds raw)
    (blank : ∀ c ∈ raw.toList, Text.isBlank c = true) (key : String) :
    setting.read key = .ok none := by
  rw [read_of_holds holds, present, if_pos ((Text.blank_iff raw).mpr blank)]

theorem read_of_visible {setting : Setting} {raw : String} (holds : setting.Holds raw)
    (visible : ∃ c ∈ raw.toList, Text.isBlank c = false) (key : String) :
    setting.read key = .ok (some (Text.trim raw)) := by
  have notBlank := (Text.not_blank_iff raw).mpr visible
  rw [read_of_holds holds, present, if_neg (by simp [notBlank])]

variable {α : Type}

/-- A setting decides what is found: what its text means, the error if there is no text, and what
stands for its absence only if it is unset or blank. -/
structure Governs (key : String) (found : Setting → Except Error α) (Meant : String → α → Prop)
    (refusal : String → Error) (absent : Except Error α) : Prop where
  visible : ∀ (setting : Setting) (raw : String), setting.Holds raw →
    (∃ c ∈ raw.toList, Text.isBlank c = false) →
      Decided (found setting) (Meant raw) (refusal (Text.trim raw))
  notUnicode : ∀ bytes : List UInt8, (∀ s, bytes ≠ Text.utf8Bytes s) →
    found (.bytes bytes) = .error (.setting key (Text.utf8Lenient bytes) "is not valid Unicode")
  unset : found .unset = absent
  blank : ∀ (setting : Setting) (raw : String), setting.Holds raw →
    (∀ c ∈ raw.toList, Text.isBlank c = true) → found setting = absent

/-- It is enough to know what is made of a text that is not blank, if white space around it makes
no difference. -/
theorem governs {key : String} {found : Setting → Except Error α}
    {next : Option String → Except Error α} {Meant : String → α → Prop} {refusal : String → Error}
    (reads : ∀ setting : Setting, found setting = setting.read key >>= next)
    (decided : ∀ raw, Text.blank raw = false →
      Decided (next (some raw)) (Meant raw) (refusal raw))
    (trimmed : ∀ raw a, Meant (Text.trim raw) a ↔ Meant raw a) :
    Governs key found Meant refusal (next none) where
  visible setting raw holds visible := by
    -- A second test for white space sees the trimmed text, which is as blank as the whole one.
    have notBlank : Text.blank (Text.trim raw) = false := by
      rw [Text.blank_trim, (Text.not_blank_iff raw).mpr visible]
    rw [reads, read_of_visible holds visible]
    exact (decided (Text.trim raw) notBlank).congr (trimmed raw)
  notUnicode bytes foreign := by
    rw [reads, read_of_not_unicode foreign]
    rfl
  unset := reads .unset
  blank setting raw holds blank := by
    rw [reads, read_of_blank holds blank]
    rfl

end Setting

end BoundSql
