/-!
Integers in settings: an optional sign and one or more ASCII digits, nothing else. Leading
zeros are allowed, separators and inner blanks are not. No size limit is set here: a reader
of a bounded setting compares the number that the text denotes.
-/

namespace BoundSql.Text

/-- The number that a run of ASCII digits denotes; an empty run denotes none. -/
def digits? : List Char → Option Nat
  | [] => none
  | cs =>
      if cs.all Char.isDigit then some (cs.foldl (fun n c => 10 * n + (c.toNat - 48)) 0)
      else none

/-- Reads a number without a minus sign: digits, with at most one plus sign in front. -/
def natural? (s : String) : Option Nat :=
  match s.toList with
  | '+' :: cs => digits? cs
  | cs => digits? cs

def integer? (s : String) : Option Int :=
  match s.toList with
  | '+' :: cs => (digits? cs).map Int.ofNat
  | '-' :: cs => (digits? cs).map fun n => -(Int.ofNat n)
  | cs => (digits? cs).map Int.ofNat

end BoundSql.Text
