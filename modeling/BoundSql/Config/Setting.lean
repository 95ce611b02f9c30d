import BoundSql.Error
import BoundSql.Text.Blank
import BoundSql.Text.Utf8

/-!
Optional settings from the environment. A setting that is unset or blank is absent; one that is
set but is no text is an error, never absent.
-/

namespace BoundSql

inductive Setting where
  | unset
  | text (s : String)
  | bytes (bs : List UInt8)
deriving DecidableEq, Repr, Inhabited

namespace Setting

/-- A text without the white space around it; a blank text is no value. -/
def present (s : String) : Option String := if Text.blank s then none else some (Text.trim s)

/-- The value of a setting. An error quotes the bytes as well as they can be read. -/
def read (key : String) : Setting → Except Error (Option String)
  | .unset => .ok none
  | .text s => .ok (present s)
  | .bytes bs =>
      match Text.utf8? bs with
      | some s => .ok (present s)
      | none => .error (.setting key (Text.utf8Lenient bs) "is not valid Unicode")

end Setting

end BoundSql
