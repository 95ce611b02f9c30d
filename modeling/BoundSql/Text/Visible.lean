import BoundSql.Decimal.Shortest
import BoundSql.Text.Blank
import BoundSql.Text.Hidden

/-!
Text for diagnostics, in which every character can be seen: a text stands in quotes, the common
control characters have a letter, every other hidden character is written as its code point,
and numbers that are not integers are always recognisable as such.
-/

namespace BoundSql.Text

open Decimal (Binary64 Layout)

def isHidden (c : Char) : Bool :=
  if 0x20 ≤ c.toNat ∧ c.toNat < 0x7F then false else inRanges hiddenRanges c.toNat

def visibleChar (c : Char) : List Char :=
  match c with
  | '\x00' => ['\\', '0']
  | '\t' => ['\\', 't']
  | '\n' => ['\\', 'n']
  | '\r' => ['\\', 'r']
  | '"' => ['\\', '"']
  | '\\' => ['\\', '\\']
  | c =>
      if isHidden c then
        ['\\', 'u', '\x7b'] ++ Nat.toDigits 16 c.toNat ++ ['\x7d']
      else [c]

def visible (s : String) : String :=
  String.ofList ('"' :: (s.toList.flatMap visibleChar ++ ['"']))

/-- Doubles in diagnostics: positional for exponents from -4 to 15, otherwise with an exponent
that shows only a minus sign; ties go up. -/
def diagnosticLayout : Layout where
  plainFrom := -4
  plainTo := 15
  exponentPlus := false
  tie := .up
  nan := "NaN"
  infinity := "inf"

def visibleDouble (x : Binary64) : String := diagnosticLayout.text x

example :
    [0x8000000000000000, 0x3FB999999999999A, 0x4341C37937E08000, 0x3EE4F8B588E368F1, 1].map
        (fun bits => visibleDouble ⟨bits⟩) =
      ["-0.0", "0.1", "1e16", "1e-5", "5e-324"] := by
  decide +kernel

example :
    visible "e\x00\t\"\u0301\u200b" =
      "\"e\\0\\t\\\"\\u\x7b301\x7d\\u\x7b200b\x7d\"" := by
  decide +kernel

/-- A filler of Hangul has no shape and is shown by its code point; a halfwidth sound mark, a
letter of its own width, stands as it is. -/
example :
    visible "a\u3164b\uff9e" = "\"a\\u\x7b3164\x7db\uff9e\"" := by
  decide +kernel

end BoundSql.Text
