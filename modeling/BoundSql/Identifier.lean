import BoundSql.Error

/-!
Column names. A column given as text is the only text of a caller that stands in a statement
verbatim, so it has to be an identifier: an ASCII letter or underscore, then letters, digits
and underscores. A column taken from a declared field is trusted.
-/

namespace BoundSql

def isIdentifierStart (c : Char) : Bool := c.isAlpha || c == '_'

def isIdentifierPart (c : Char) : Bool := c.isAlphanum || c == '_'

def isIdentifier (name : String) : Bool :=
  match name.toList with
  | [] => false
  | c :: cs => isIdentifierStart c && cs.all isIdentifierPart

def checkColumn (name : String) : Except Error Unit :=
  if isIdentifier name then .ok () else .error (.invalidColumn name)

def checkColumns (names : List String) : Except Error Unit :=
  match names.find? (fun name => !isIdentifier name) with
  | some name => .error (.invalidColumn name)
  | none => .ok ()

inductive ColumnRef where
  /-- A text, which has to be an identifier. -/
  | raw (name : String)
  | field (column : String)
deriving DecidableEq, Repr, Inhabited

def ColumnRef.column : ColumnRef → Except Error String
  | .raw name => if isIdentifier name then .ok name else .error (.invalidColumn name)
  | .field column => .ok column

end BoundSql
