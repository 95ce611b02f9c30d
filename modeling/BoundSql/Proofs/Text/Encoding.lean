import Mathlib
import BoundSql.Text.Utf8

/-!
The strict reader of UTF-8 inverts the encoding of text: it reads a text exactly from the bytes
that encode it. Bytes that it refuses encode no text at all.
-/

namespace BoundSql.Text

def utf8Bytes (s : String) : List UInt8 := s.toList.flatMap String.utf8EncodeChar

def secondOfThree (lead : Nat) : ByteRange :=
  if lead = 0xE0 then ⟨0xA0, 0xBF⟩ else if lead = 0xED then ⟨0x80, 0x9F⟩ else continuation

def secondOfFour (lead : Nat) : ByteRange :=
  if lead = 0xF0 then ⟨0x90, 0xBF⟩ else if lead = 0xF4 then ⟨0x80, 0x8F⟩ else continuation

theorem lead_eq (byte : UInt8) :
    lead? byte =
      if byte.toNat < 0x80 then some (byte.toNat, [])
      else if byte.toNat < 0xC2 then none
      else if byte.toNat < 0xE0 then some (byte.toNat - 0xC0, [continuation])
      else if byte.toNat < 0xF0 then
        some (byte.toNat - 0xE0, [secondOfThree byte.toNat, continuation])
      else if byte.toNat < 0xF5 then
        some (byte.toNat - 0xF0, [secondOfFour byte.toNat, continuation, continuation])
      else none := by
  simp only [lead?, UInt8.lt_iff_toNat_lt, beq_iff_eq, ← UInt8.toNat_inj, UInt8.reduceToNat,
    secondOfThree, secondOfFour]
  generalize byte.toNat = n
  -- Up to two bytes both sides are the same; only the rows behind are cut differently.
  refine if_congr Iff.rfl rfl (if_congr Iff.rfl rfl (if_congr Iff.rfl rfl ?_))
  split_ifs <;> first | omega | (subst_vars; rfl)

theorem contains_iff (range : ByteRange) (byte : UInt8) :
    range.contains byte = true ↔
      range.low.toNat ≤ byte.toNat ∧ byte.toNat ≤ range.high.toNat := by
  simp [ByteRange.contains, UInt8.le_iff_toNat_le]

theorem continuation_contains_iff (byte : UInt8) :
    continuation.contains byte = true ↔ 0x80 ≤ byte.toNat ∧ byte.toNat ≤ 0xBF :=
  contains_iff continuation byte

theorem second_of_three_contains_iff (lead : Nat) (byte : UInt8) :
    (secondOfThree lead).contains byte = true ↔
      0x80 ≤ byte.toNat ∧ byte.toNat ≤ 0xBF ∧ (lead = 0xE0 → 0xA0 ≤ byte.toNat) ∧
        (lead = 0xED → byte.toNat ≤ 0x9F) := by
  rw [contains_iff, secondOfThree]
  split_ifs <;> simp only [continuation, UInt8.reduceToNat] <;> omega

theorem second_of_four_contains_iff (lead : Nat) (byte : UInt8) :
    (secondOfFour lead).contains byte = true ↔
      0x80 ≤ byte.toNat ∧ byte.toNat ≤ 0xBF ∧ (lead = 0xF0 → 0x90 ≤ byte.toNat) ∧
        (lead = 0xF4 → byte.toNat ≤ 0x8F) := by
  rw [contains_iff, secondOfFour]
  split_ifs <;> simp only [continuation, UInt8.reduceToNat] <;> omega

theorem follow_cons_eq_some_iff (range : ByteRange) (ranges : List ByteRange) (code n : Nat)
    (rest tail : List UInt8) :
    follow (range :: ranges) code rest = (some n, tail) ↔
      ∃ byte after, rest = byte :: after ∧ range.contains byte = true ∧
        follow ranges (code * 64 + byte.toNat % 64) after = (some n, tail) := by
  cases rest with
  | nil => simp [follow]
  | cons byte after =>
      rw [follow]
      split
      · rename_i inside
        constructor
        · intro followed
          exact ⟨byte, after, rfl, inside, followed⟩
        · rintro ⟨_, _, same, -, followed⟩
          cases same
          exact followed
      · rename_i outside
        constructor
        · intro same
          cases same
        · rintro ⟨_, _, same, inside, -⟩
          cases same
          exact absurd inside outside

theorem follow_nil_eq_some_iff (code n : Nat) (rest tail : List UInt8) :
    follow [] code rest = (some n, tail) ↔ code = n ∧ rest = tail := by
  simp [follow]

theorem encode_char_eq (c : Char) :
    String.utf8EncodeChar c =
      if c.toNat ≤ 0x7F then [UInt8.ofNat c.toNat]
      else if c.toNat ≤ 0x7FF then
        [UInt8.ofNat (c.toNat / 64 % 32 + 0xC0), UInt8.ofNat (c.toNat % 64 + 0x80)]
      else if c.toNat ≤ 0xFFFF then
        [UInt8.ofNat (c.toNat / 4096 % 16 + 0xE0), UInt8.ofNat (c.toNat / 64 % 64 + 0x80),
          UInt8.ofNat (c.toNat % 64 + 0x80)]
      else
        [UInt8.ofNat (c.toNat / 262144 % 8 + 0xF0), UInt8.ofNat (c.toNat / 4096 % 64 + 0x80),
          UInt8.ofNat (c.toNat / 64 % 64 + 0x80), UInt8.ofNat (c.toNat % 64 + 0x80)] := rfl

theorem byte_of_nat {n : Nat} {byte : UInt8} (same : n = byte.toNat) : UInt8.ofNat n = byte := by
  rw [same, UInt8.ofNat_toNat]

theorem encode_one {c : Char} {first : UInt8} (high : c.toNat < 0x80)
    (isFirst : first.toNat = c.toNat) : String.utf8EncodeChar c = [first] := by
  rw [encode_char_eq, if_pos (by omega), byte_of_nat isFirst.symm]

theorem encode_two {c : Char} {first second : UInt8} (low : 0x80 ≤ c.toNat)
    (high : c.toNat < 0x800) (isFirst : first.toNat = 0xC0 + c.toNat / 64)
    (isSecond : second.toNat = 0x80 + c.toNat % 64) :
    String.utf8EncodeChar c = [first, second] := by
  have firstByte : UInt8.ofNat (c.toNat / 64 % 32 + 0xC0) = first := byte_of_nat (by omega)
  have secondByte : UInt8.ofNat (c.toNat % 64 + 0x80) = second := byte_of_nat (by omega)
  rw [encode_char_eq, if_neg (by omega), if_pos (by omega), firstByte, secondByte]

theorem encode_three {c : Char} {first second third : UInt8} (low : 0x800 ≤ c.toNat)
    (high : c.toNat < 0x10000) (isFirst : first.toNat = 0xE0 + c.toNat / 4096)
    (isSecond : second.toNat = 0x80 + c.toNat / 64 % 64)
    (isThird : third.toNat = 0x80 + c.toNat % 64) :
    String.utf8EncodeChar c = [first, second, third] := by
  have firstByte : UInt8.ofNat (c.toNat / 4096 % 16 + 0xE0) = first := byte_of_nat (by omega)
  have secondByte : UInt8.ofNat (c.toNat / 64 % 64 + 0x80) = second := byte_of_nat (by omega)
  have thirdByte : UInt8.ofNat (c.toNat % 64 + 0x80) = third := byte_of_nat (by omega)
  rw [encode_char_eq, if_neg (by omega), if_neg (by omega), if_pos (by omega), firstByte,
    secondByte, thirdByte]

theorem encode_four {c : Char} {first second third fourth : UInt8} (low : 0x10000 ≤ c.toNat)
    (high : c.toNat < 0x110000) (isFirst : first.toNat = 0xF0 + c.toNat / 262144)
    (isSecond : second.toNat = 0x80 + c.toNat / 4096 % 64)
    (isThird : third.toNat = 0x80 + c.toNat / 64 % 64)
    (isFourth : fourth.toNat = 0x80 + c.toNat % 64) :
    String.utf8EncodeChar c = [first, second, third, fourth] := by
  have firstByte : UInt8.ofNat (c.toNat / 262144 % 8 + 0xF0) = first := byte_of_nat (by omega)
  have secondByte : UInt8.ofNat (c.toNat / 4096 % 64 + 0x80) = second := byte_of_nat (by omega)
  have thirdByte : UInt8.ofNat (c.toNat / 64 % 64 + 0x80) = third := byte_of_nat (by omega)
  have fourthByte : UInt8.ofNat (c.toNat % 64 + 0x80) = fourth := byte_of_nat (by omega)
  rw [encode_char_eq, if_neg (by omega), if_neg (by omega), if_neg (by omega), firstByte,
    secondByte, thirdByte, fourthByte]

/-- The reader finds the character in front of the rest. -/
def Reads (byte : UInt8) (rest : List UInt8) (c : Char) (tail : List UInt8) : Prop :=
  ∃ payload ranges n, lead? byte = some (payload, ranges) ∧
    follow ranges payload rest = (some n, tail) ∧ Char.ofNat n = c

theorem to_nat_of_code {n : Nat} (valid : n < 0xD800 ∨ 0xDFFF < n ∧ n < 0x110000) :
    (Char.ofNat n).toNat = n := by
  rw [Char.toNat_ofNat, if_pos valid]

theorem encoded_of_reads {byte : UInt8} {rest tail : List UInt8} {c : Char}
    (reads : Reads byte rest c tail) : byte :: rest = String.utf8EncodeChar c ++ tail := by
  obtain ⟨payload, ranges, n, leads, follows, isChar⟩ := reads
  rw [lead_eq] at leads
  split_ifs at leads with one none two three four
  · obtain ⟨rfl, rfl⟩ := Prod.mk.inj (Option.some.inj leads)
    obtain ⟨code, rfl⟩ := (follow_nil_eq_some_iff ..).mp follows
    have number := to_nat_of_code (n := n) (by omega)
    rw [isChar] at number
    have encoded : String.utf8EncodeChar c = [byte] := encode_one (by omega) (by omega)
    rw [encoded, List.singleton_append]
  · obtain ⟨rfl, rfl⟩ := Prod.mk.inj (Option.some.inj leads)
    obtain ⟨second, after, rfl, inside, follows⟩ := (follow_cons_eq_some_iff ..).mp follows
    obtain ⟨code, rfl⟩ := (follow_nil_eq_some_iff ..).mp follows
    rw [continuation_contains_iff] at inside
    have number := to_nat_of_code (n := n) (by omega)
    rw [isChar] at number
    have encoded : String.utf8EncodeChar c = [byte, second] :=
      encode_two (by omega) (by omega) (by omega) (by omega)
    rw [encoded]
    rfl
  · obtain ⟨rfl, rfl⟩ := Prod.mk.inj (Option.some.inj leads)
    obtain ⟨second, after, rfl, inside, follows⟩ := (follow_cons_eq_some_iff ..).mp follows
    obtain ⟨third, after, rfl, insideThird, follows⟩ := (follow_cons_eq_some_iff ..).mp follows
    obtain ⟨code, rfl⟩ := (follow_nil_eq_some_iff ..).mp follows
    rw [second_of_three_contains_iff] at inside
    rw [continuation_contains_iff] at insideThird
    have number := to_nat_of_code (n := n) (by omega)
    rw [isChar] at number
    have encoded : String.utf8EncodeChar c = [byte, second, third] :=
      encode_three (by omega) (by omega) (by omega) (by omega) (by omega)
    rw [encoded]
    rfl
  · obtain ⟨rfl, rfl⟩ := Prod.mk.inj (Option.some.inj leads)
    obtain ⟨second, after, rfl, inside, follows⟩ := (follow_cons_eq_some_iff ..).mp follows
    obtain ⟨third, after, rfl, insideThird, follows⟩ := (follow_cons_eq_some_iff ..).mp follows
    obtain ⟨fourth, after, rfl, insideFourth, follows⟩ := (follow_cons_eq_some_iff ..).mp follows
    obtain ⟨code, rfl⟩ := (follow_nil_eq_some_iff ..).mp follows
    rw [second_of_four_contains_iff] at inside
    rw [continuation_contains_iff] at insideThird insideFourth
    have number := to_nat_of_code (n := n) (by omega)
    rw [isChar] at number
    have encoded : String.utf8EncodeChar c = [byte, second, third, fourth] :=
      encode_four (by omega) (by omega) (by omega) (by omega) (by omega) (by omega)
    rw [encoded]
    rfl

theorem nat_of_byte {n : Nat} (small : n < 256) : (UInt8.ofNat n).toNat = n :=
  UInt8.toNat_ofNat_of_lt' small

theorem reads_of_encoded {byte : UInt8} {rest tail : List UInt8} {c : Char}
    (encoded : byte :: rest = String.utf8EncodeChar c ++ tail) : Reads byte rest c tail := by
  have valid : c.toNat < 0xD800 ∨ 0xDFFF < c.toNat ∧ c.toNat < 0x110000 := c.valid
  have isChar : Char.ofNat c.toNat = c := Char.ofNat_toNat c
  rw [encode_char_eq] at encoded
  split_ifs at encoded with one two three
  · obtain ⟨isFirst, rfl⟩ := List.cons.inj encoded
    have first : byte.toNat = c.toNat := by rw [isFirst, nat_of_byte (by omega)]
    refine ⟨byte.toNat, [], c.toNat, ?_, ?_, isChar⟩
    · rw [lead_eq, if_pos (by omega)]
    · exact (follow_nil_eq_some_iff ..).mpr ⟨first, rfl⟩
  · obtain ⟨isFirst, rfl⟩ := List.cons.inj encoded
    have first : byte.toNat = 0xC0 + c.toNat / 64 := by
      rw [isFirst, nat_of_byte (by omega)]
      omega
    have second := nat_of_byte (n := c.toNat % 64 + 0x80) (by omega)
    refine ⟨byte.toNat - 0xC0, [continuation], c.toNat, ?_, ?_, isChar⟩
    · rw [lead_eq, if_neg (by omega), if_neg (by omega), if_pos (by omega)]
    · refine (follow_cons_eq_some_iff ..).mpr ⟨_, _, rfl, ?_, ?_⟩
      · rw [continuation_contains_iff]
        omega
      · exact (follow_nil_eq_some_iff ..).mpr ⟨by omega, rfl⟩
  · obtain ⟨isFirst, rfl⟩ := List.cons.inj encoded
    have first : byte.toNat = 0xE0 + c.toNat / 4096 := by
      rw [isFirst, nat_of_byte (by omega)]
      omega
    have second := nat_of_byte (n := c.toNat / 64 % 64 + 0x80) (by omega)
    have third := nat_of_byte (n := c.toNat % 64 + 0x80) (by omega)
    refine ⟨byte.toNat - 0xE0, [secondOfThree byte.toNat, continuation], c.toNat, ?_, ?_, isChar⟩
    · rw [lead_eq, if_neg (by omega), if_neg (by omega), if_neg (by omega), if_pos (by omega)]
    · refine (follow_cons_eq_some_iff ..).mpr ⟨_, _, rfl, ?_, ?_⟩
      · rw [second_of_three_contains_iff]
        omega
      refine (follow_cons_eq_some_iff ..).mpr ⟨_, _, rfl, ?_, ?_⟩
      · rw [continuation_contains_iff]
        omega
      · exact (follow_nil_eq_some_iff ..).mpr ⟨by omega, rfl⟩
  · obtain ⟨isFirst, rfl⟩ := List.cons.inj encoded
    have first : byte.toNat = 0xF0 + c.toNat / 262144 := by
      rw [isFirst, nat_of_byte (by omega)]
      omega
    have second := nat_of_byte (n := c.toNat / 4096 % 64 + 0x80) (by omega)
    have third := nat_of_byte (n := c.toNat / 64 % 64 + 0x80) (by omega)
    have fourth := nat_of_byte (n := c.toNat % 64 + 0x80) (by omega)
    refine ⟨byte.toNat - 0xF0, [secondOfFour byte.toNat, continuation, continuation], c.toNat, ?_,
      ?_, isChar⟩
    · rw [lead_eq, if_neg (by omega), if_neg (by omega), if_neg (by omega), if_neg (by omega),
        if_pos (by omega)]
    · refine (follow_cons_eq_some_iff ..).mpr ⟨_, _, rfl, ?_, ?_⟩
      · rw [second_of_four_contains_iff]
        omega
      refine (follow_cons_eq_some_iff ..).mpr ⟨_, _, rfl, ?_, ?_⟩
      · rw [continuation_contains_iff]
        omega
      refine (follow_cons_eq_some_iff ..).mpr ⟨_, _, rfl, ?_, ?_⟩
      · rw [continuation_contains_iff]
        omega
      · exact (follow_nil_eq_some_iff ..).mpr ⟨by omega, rfl⟩

theorem reads_iff {byte : UInt8} {rest tail : List UInt8} {c : Char} :
    Reads byte rest c tail ↔ byte :: rest = String.utf8EncodeChar c ++ tail :=
  ⟨encoded_of_reads, reads_of_encoded⟩

theorem units_cons_eq_some_iff {byte : UInt8} {rest : List UInt8} {c : Char}
    {units : List (Option Char)} :
    utf8Units (byte :: rest) = some c :: units ↔
      ∃ tail, Reads byte rest c tail ∧ utf8Units tail = units := by
  rw [utf8Units]
  constructor
  · intro same
    split at same
    · simp at same
    · rename_i payload ranges leads
      obtain ⟨isChar, rfl⟩ := List.cons.inj same
      obtain ⟨n, followed, isChar⟩ := Option.map_eq_some_iff.mp isChar
      exact ⟨_, ⟨payload, ranges, n, leads, Prod.ext followed rfl, isChar⟩, rfl⟩
  · rintro ⟨tail, ⟨payload, ranges, n, leads, followed, isChar⟩, rfl⟩
    simp only [leads, followed, Option.map_some, isChar]

theorem units_eq_some_iff {bytes : List UInt8} {c : Char} {units : List (Option Char)} :
    utf8Units bytes = some c :: units ↔
      ∃ tail, bytes = String.utf8EncodeChar c ++ tail ∧ utf8Units tail = units := by
  cases bytes with
  | nil => simp [utf8Units]
  | cons byte rest => simp only [units_cons_eq_some_iff, reads_iff]

/-- All units are well formed exactly where the bytes encode the characters, one by one. -/
theorem units_eq_map_some_iff {bytes : List UInt8} {cs : List Char} :
    utf8Units bytes = cs.map some ↔ bytes = cs.flatMap String.utf8EncodeChar := by
  induction cs generalizing bytes with
  | nil =>
      cases bytes with
      | nil => simp [utf8Units]
      | cons byte rest =>
          rw [utf8Units]
          split <;> simp
  | cons c cs ih =>
      rw [List.map_cons, units_eq_some_iff, List.flatMap_cons]
      constructor
      · rintro ⟨tail, rfl, later⟩
        rw [ih.mp later]
      · rintro rfl
        exact ⟨_, rfl, ih.mpr rfl⟩

theorem mapM_id_eq_some_iff {units : List (Option Char)} {cs : List Char} :
    units.mapM id = some cs ↔ units = cs.map some := by
  induction units generalizing cs with
  | nil => cases cs <;> simp
  | cons unit units ih =>
      cases unit with
      | none => cases cs <;> simp
      | some c =>
          rw [List.mapM_cons]
          cases cs <;> simp [Option.bind_eq_some_iff, ih, and_comm]

/-- The strict reader gives a text exactly where the bytes encode it. -/
theorem utf8_eq_some_iff {bytes : List UInt8} {s : String} :
    utf8? bytes = some s ↔ bytes = utf8Bytes s := by
  rw [utf8?, Option.map_eq_some_iff]
  constructor
  · rintro ⟨cs, units, rfl⟩
    rw [utf8Bytes, String.toList_ofList]
    exact units_eq_map_some_iff.mp (mapM_id_eq_some_iff.mp units)
  · intro encoded
    exact ⟨s.toList, mapM_id_eq_some_iff.mpr (units_eq_map_some_iff.mpr encoded),
      String.ofList_toList⟩

theorem utf8_eq_none_iff {bytes : List UInt8} :
    utf8? bytes = none ↔ ∀ s, bytes ≠ utf8Bytes s := by
  rw [Option.eq_none_iff_forall_ne_some]
  exact forall_congr' fun s => not_congr utf8_eq_some_iff

end BoundSql.Text
