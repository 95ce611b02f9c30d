import BoundSql.Decimal.Literal
import BoundSql.Json.Basic
import BoundSql.Text.Integer

/-!
Reading JSON text. The grammar is strict: no comments, no trailing commas, no bare control
characters in texts, no lone surrogate escapes. A number without fraction and exponent that
fits 64 bits, signed or unsigned, is an integer; every other number is a double, read at
working precision, and `-0` is the negative zero.
-/

namespace BoundSql.Json

open Decimal (Literal)

def isSpace (c : Char) : Bool := c == ' ' || c == '\t' || c == '\n' || c == '\r'

def skipSpace (cs : List Char) : List Char := cs.dropWhile isSpace

def hexValue? (c : Char) : Option Nat :=
  if c.isDigit then some (c.toNat - 48)
  else if 'a' ≤ c ∧ c ≤ 'f' then some (c.toNat - 87)
  else if 'A' ≤ c ∧ c ≤ 'F' then some (c.toNat - 55)
  else none

def codeUnit? : List Char → Option (Nat × List Char)
  | a :: b :: c :: d :: rest => do
      let a ← hexValue? a
      let b ← hexValue? b
      let c ← hexValue? c
      let d ← hexValue? d
      some (((a * 16 + b) * 16 + c) * 16 + d, rest)
  | _ => none

/-- The character of a `\u` escape; a high surrogate needs its low surrogate after it. -/
def escapedUnit? (cs : List Char) : Option (Char × List Char) := do
  let (unit, rest) ← codeUnit? cs
  if 0xDC00 ≤ unit ∧ unit < 0xE000 then none
  else if 0xD800 ≤ unit ∧ unit < 0xDC00 then
    match rest with
    | '\\' :: 'u' :: rest =>
        let (low, rest) ← codeUnit? rest
        if 0xDC00 ≤ low ∧ low < 0xE000 then
          some (Char.ofNat (0x10000 + (unit - 0xD800) * 0x400 + (low - 0xDC00)), rest)
        else none
    | _ => none
  else some (Char.ofNat unit, rest)

def unescape? : Char → Option Char
  | '"' => some '"'
  | '\\' => some '\\'
  | '/' => some '/'
  | 'b' => some '\x08'
  | 'f' => some '\x0c'
  | 'n' => some '\n'
  | 'r' => some '\r'
  | 't' => some '\t'
  | _ => none

/-- The rest of a quoted text after its opening quote. The characters read so far are kept in
reverse; the fuel bounds their number. -/
def readQuoted : Nat → List Char → List Char → Option (String × List Char)
  | 0, _, _ => none
  | _, _, [] => none
  | _ + 1, acc, '"' :: rest => some (String.ofList acc.reverse, rest)
  | fuel + 1, acc, '\\' :: 'u' :: rest =>
      match escapedUnit? rest with
      | some (c, rest) => readQuoted fuel (c :: acc) rest
      | none => none
  | fuel + 1, acc, '\\' :: letter :: rest =>
      match unescape? letter with
      | some c => readQuoted fuel (c :: acc) rest
      | none => none
  | fuel + 1, acc, c :: rest =>
      if c.toNat < 0x20 ∨ c = '\\' then none else readQuoted fuel (c :: acc) rest

def fitsInteger (n : Int) : Bool := Int64.minValue.toInt ≤ n && n < UInt64.size

def fraction? : List Char → Option ((List Char) × List Char)
  | '.' :: cs =>
      match cs.takeWhile Char.isDigit with
      | [] => none
      | digits => some (digits, cs.dropWhile Char.isDigit)
  | cs => some ([], cs)

/-- The exponent of a number; `none` inside the result when there is none. -/
def exponent? : List Char → Option ((Option Int) × List Char)
  | c :: cs =>
      if c = 'e' ∨ c = 'E' then
        let (negative, cs) := match cs with
          | '-' :: cs => (true, cs)
          | '+' :: cs => (false, cs)
          | cs => (false, cs)
        match Text.digits? (cs.takeWhile Char.isDigit) with
        | none => none
        | some n =>
            let power : Int := if negative then -(Int.ofNat n) else Int.ofNat n
            some (some power, cs.dropWhile Char.isDigit)
      else some (none, c :: cs)
  | [] => some (none, [])

/-- A number; a leading zero may not be followed by another digit. -/
def readNumber (cs : List Char) : Option (Json × List Char) := do
  let (negative, cs) := match cs with
    | '-' :: cs => (true, cs)
    | cs => (false, cs)
  let whole := cs.takeWhile Char.isDigit
  let n ← Text.digits? whole
  if whole.length > 1 ∧ whole.head? = some '0' then none
  else do
    let (places, rest) ← fraction? (cs.dropWhile Char.isDigit)
    let (exponent, rest) ← exponent? rest
    let value : Int := if negative then -(Int.ofNat n) else Int.ofNat n
    let negativeZero := negative && n == 0
    if places.isEmpty ∧ exponent.isNone ∧ fitsInteger value ∧ ¬ negativeZero then
      some (.int value, rest)
    else do
      let x ← (Literal.mk negative whole places (exponent.getD 0)).value?
      some (.double x, rest)

mutual

/-- A value with the white space before it. The fuel bounds the values and members read. -/
def readValue : Nat → List Char → Option (Json × List Char)
  | 0, _ => none
  | fuel + 1, cs =>
      match skipSpace cs with
      | 'n' :: 'u' :: 'l' :: 'l' :: rest => some (.null, rest)
      | 't' :: 'r' :: 'u' :: 'e' :: rest => some (.bool true, rest)
      | 'f' :: 'a' :: 'l' :: 's' :: 'e' :: rest => some (.bool false, rest)
      | '"' :: rest => (readQuoted (rest.length + 1) [] rest).map fun (s, rest) => (.text s, rest)
      | '[' :: rest =>
          match skipSpace rest with
          | ']' :: rest => some (.array [], rest)
          | rest => (readItems fuel [] rest).map fun (items, rest) => (.array items, rest)
      | '{' :: rest =>
          match skipSpace rest with
          | '}' :: rest => some (.object [], rest)
          | rest => (readMembers fuel [] rest).map fun (members, rest) => (ofMembers members, rest)
      | rest => readNumber rest

def readItems : Nat → List Json → List Char → Option ((List Json) × List Char)
  | 0, _, _ => none
  | fuel + 1, acc, cs =>
      match readValue fuel cs with
      | none => none
      | some (item, rest) =>
          match skipSpace rest with
          | ',' :: rest => readItems fuel (item :: acc) rest
          | ']' :: rest => some ((item :: acc).reverse, rest)
          | _ => none

def readMembers :
    Nat → List (String × Json) → List Char → Option ((List (String × Json)) × List Char)
  | 0, _, _ => none
  | fuel + 1, acc, cs =>
      match skipSpace cs with
      | '"' :: rest =>
          match readQuoted (rest.length + 1) [] rest with
          | none => none
          | some (name, rest) =>
              match skipSpace rest with
              | ':' :: rest =>
                  match readValue fuel rest with
                  | none => none
                  | some (value, rest) =>
                      match skipSpace rest with
                      | ',' :: rest => readMembers fuel ((name, value) :: acc) rest
                      | '}' :: rest => some (((name, value) :: acc).reverse, rest)
                      | _ => none
              | _ => none
      | _ => none

end

/-- The value that a whole text stands for. Every value, item and member takes at least one
character, so the fuel of twice the text's length suffices. -/
def read? (s : String) : Option Json :=
  let cs := s.toList
  match readValue (2 * cs.length + 2) cs with
  | some (value, rest) => if (skipSpace rest).isEmpty then some value else none
  | none => none

end BoundSql.Json
