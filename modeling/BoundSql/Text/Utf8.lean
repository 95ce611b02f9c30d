/-!
Bytes read as UTF-8. The bytes are cut into units: a well-formed sequence is a unit that
holds its character, and a maximal ill-formed run, one that could have begun a sequence but
does not go on as one, is a unit without a character. A strict reader refuses the second
kind, a lenient one puts the replacement character in its place.
-/

namespace BoundSql.Text

structure ByteRange where
  low : UInt8
  high : UInt8

def ByteRange.contains (range : ByteRange) (byte : UInt8) : Bool :=
  range.low ≤ byte && byte ≤ range.high

/-- The bytes that may continue a sequence when nothing narrower is asked for. -/
def continuation : ByteRange := ⟨0x80, 0xBF⟩

/-- What a leading byte announces: its payload bits and the ranges of the bytes that must
follow. Overlong forms, surrogates and code points beyond U+10FFFF are shut out by the range
of the second byte. -/
def lead? (byte : UInt8) : Option (Nat × List ByteRange) :=
  if byte < 0x80 then some (byte.toNat, [])
  else if byte < 0xC2 then none
  else if byte < 0xE0 then some (byte.toNat - 0xC0, [continuation])
  else if byte == 0xE0 then some (0, [⟨0xA0, 0xBF⟩, continuation])
  else if byte == 0xED then some (0xD, [⟨0x80, 0x9F⟩, continuation])
  else if byte < 0xF0 then some (byte.toNat - 0xE0, [continuation, continuation])
  else if byte == 0xF0 then some (0, [⟨0x90, 0xBF⟩, continuation, continuation])
  else if byte < 0xF4 then some (byte.toNat - 0xF0, [continuation, continuation, continuation])
  else if byte == 0xF4 then some (4, [⟨0x80, 0x8F⟩, continuation, continuation])
  else none

/-- Takes the bytes that a leading byte announced, six payload bits each, up to the first one
that is out of its range. The bytes not taken come second. -/
def follow : List ByteRange → Nat → List UInt8 → Option Nat × List UInt8
  | [], code, rest => (some code, rest)
  | _ :: _, _, [] => (none, [])
  | range :: ranges, code, byte :: rest =>
      if range.contains byte then follow ranges (code * 64 + byte.toNat % 64) rest
      else (none, byte :: rest)

theorem follow_length_le (ranges : List ByteRange) (code : Nat) (bytes : List UInt8) :
    (follow ranges code bytes).2.length ≤ bytes.length := by
  induction ranges generalizing code bytes with
  | nil => simp [follow]
  | cons range ranges ih =>
    cases bytes with
    | nil => simp [follow]
    | cons byte rest =>
      simp only [follow]
      split
      · exact Nat.le_trans (ih _ _) (by simp)
      · simp

def utf8Units : List UInt8 → List (Option Char)
  | [] => []
  | byte :: rest =>
      match lead? byte with
      | none => none :: utf8Units rest
      | some (payload, ranges) =>
          ((follow ranges payload rest).1.map Char.ofNat) ::
            utf8Units (follow ranges payload rest).2
termination_by bytes => bytes.length
decreasing_by
  · simp
  · have := follow_length_le ranges payload rest
    simp only [List.length_cons]
    omega

def utf8? (bytes : List UInt8) : Option String :=
  ((utf8Units bytes).mapM id).map String.ofList

/-- The text with U+FFFD in the place of every ill-formed unit. -/
def utf8Lenient (bytes : List UInt8) : String :=
  String.ofList ((utf8Units bytes).map (·.getD '\uFFFD'))

/-- Overlong forms, surrogates and code points that are too large are refused. -/
example :
    utf8? [0xC0, 0x80] = none ∧ utf8? [0xED, 0xA0, 0x80] = none ∧
      utf8? [0xF4, 0x90, 0x80, 0x80] = none ∧
      utf8? [0xF4, 0x8F, 0xBF, 0xBF] = some (String.singleton (Char.ofNat 0x10FFFF)) := by
  decide +kernel

example : utf8Lenient [0xE2, 0x82, 0x41, 0xFF, 0x80] = "\uFFFDA\uFFFD\uFFFD" := by decide +kernel

end BoundSql.Text
