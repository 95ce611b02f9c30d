/-!
The form of random identifiers: 32 lower-case hexadecimal digits without separators, of which
one tells the version, 4, and one the variant.
-/

namespace BoundSql.Text

def isLowerHex (c : Char) : Bool := c.isDigit || ('a' ≤ c && c ≤ 'f')

def isRandomId (s : String) : Bool :=
  let cs := s.toList
  cs.length == 32 && cs.all isLowerHex && cs[12]? == some '4' &&
    cs[16]?.any fun c => c == '8' || c == '9' || c == 'a' || c == 'b'

end BoundSql.Text
