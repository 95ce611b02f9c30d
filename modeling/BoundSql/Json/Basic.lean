import BoundSql.Association
import BoundSql.Decimal.Shortest

/-!
JSON values and their compact text. An object is a list of members in the order in which
they are written; an integer keeps its digits, every other number is a double.
-/

namespace BoundSql

open Decimal (Binary64 Layout)

inductive Json where
  | null
  | bool (b : Bool)
  | int (n : Int)
  | double (x : Binary64)
  | text (s : String)
  | array (items : List Json)
  | object (members : List (String × Json))
deriving Repr, Inhabited

namespace Json

/-- Doubles in JSON text: positional for exponents from -5 to 15, otherwise with a signed
exponent; JSON has no NaN and no infinities, which become `null`. -/
def doubleLayout : Layout where
  plainFrom := -5
  plainTo := 15
  exponentPlus := true
  tie := .toEven
  nan := "null"
  infinity := "null"

def doubleText (x : Binary64) : String :=
  if x.isFinite then doubleLayout.text x else doubleLayout.nan

example :
    [0x8000000000000000, 0x3FB999999999999A, 0x4341C37937E08000, 0x3EE4F8B588E368F1, 1].map
        (fun bits => doubleText ⟨bits⟩) =
      ["-0.0", "0.1", "1e+16", "0.00001", "5e-324"] := by
  decide +kernel

def hexDigit (n : Nat) : Char := if n < 10 then Char.ofNat (48 + n) else Char.ofNat (87 + n)

/-- One character inside a quoted text: quote, backslash and the control characters below
U+0020 are escaped, everything else stands for itself. -/
def escapeChar (c : Char) : List Char :=
  match c with
  | '"' => ['\\', '"']
  | '\\' => ['\\', '\\']
  | '\x08' => ['\\', 'b']
  | '\t' => ['\\', 't']
  | '\n' => ['\\', 'n']
  | '\x0c' => ['\\', 'f']
  | '\r' => ['\\', 'r']
  | c =>
      if c.toNat < 0x20 then
        ['\\', 'u', '0', '0', hexDigit (c.toNat / 16), hexDigit (c.toNat % 16)]
      else [c]

def quote (s : String) : String :=
  String.ofList ('"' :: (s.toList.flatMap escapeChar ++ ['"']))

example : quote "a\"\\\x01\x7f" = "\"a\\\"\\\\\\u0001\x7f\"" := by decide +kernel

mutual

def compact : Json → String
  | .null => "null"
  | .bool true => "true"
  | .bool false => "false"
  | .int n => toString n
  | .double x => doubleText x
  | .text s => quote s
  | .array items => "[" ++ ",".intercalate (compactItems items) ++ "]"
  | .object members => "\x7b" ++ ",".intercalate (compactMembers members) ++ "\x7d"

def compactItems : List Json → List String
  | [] => []
  | item :: items => item.compact :: compactItems items

def compactMembers : List (String × Json) → List String
  | [] => []
  | (name, value) :: members => (quote name ++ ":" ++ value.compact) :: compactMembers members

end

/-- An object in canonical form: sorted by name, the last value of a repeated name. -/
def ofMembers (members : List (String × Json)) : Json :=
  .object (members.foldl (fun acc member => Association.insert member.1 member.2 acc) [])

def member? (name : String) : Json → Option Json
  | .object members => members.lookup name
  | _ => none

end Json

end BoundSql
