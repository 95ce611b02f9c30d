/-!
White space in text. The characters are those of the Unicode property `White_Space`
(25 code points in ten ranges, unchanged since Unicode 6.3), which is more than the four
that core's `Char.isWhitespace` knows.
-/

namespace BoundSql.Text

/-- Closed ranges of the code points with the property `White_Space`, ascending and apart. -/
def blankRanges : List (Nat × Nat) :=
  [(0x09, 0x0D), (0x20, 0x20), (0x85, 0x85), (0xA0, 0xA0), (0x1680, 0x1680), (0x2000, 0x200A),
   (0x2028, 0x2029), (0x202F, 0x202F), (0x205F, 0x205F), (0x3000, 0x3000)]

def inRanges (ranges : List (Nat × Nat)) (code : Nat) : Bool :=
  ranges.any fun range => range.1 ≤ code && code ≤ range.2

def isBlank (c : Char) : Bool := inRanges blankRanges c.toNat

def blank (s : String) : Bool := s.toList.all isBlank

def trimList (cs : List Char) : List Char :=
  ((cs.dropWhile isBlank).reverse.dropWhile isBlank).reverse

def trim (s : String) : String := String.ofList (trimList s.toList)

end BoundSql.Text
