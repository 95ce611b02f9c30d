/-!
Everything that can go wrong, by cause, and the one function that words it. A failed operation
is never retried; the host's own failures come through unchanged.
-/

namespace BoundSql

inductive Error where
  /-- A column given as text is not an identifier. -/
  | invalidColumn (column : String)
  /-- A key value was needed, and the row has none. -/
  | missingKey (entity field : String)
  | noKey (entity : String)
  /-- More than one persisted field is declared as the key. -/
  | compositeKey (entity : String) (fields : List String)
  /-- The strategy cannot produce a key of the declared type. -/
  | keyType (entity field strategy declared : String)
  | unknownGenerator (name : String)
  /-- No column is left to be written. -/
  | nothingToWrite (context : String)
  /-- The clock went back further than the generator waits for. -/
  | clockRollback (drift : Int)
  /-- The clock gave no further reading while one was being waited for. -/
  | clockStopped
  /-- Only equality and inequality have a form for null. -/
  | nullComparison (column operator : String)
  /-- A logical delete needs exactly one persisted field with a delete marker. -/
  | missingDeleteMarker (entity : String)
  | unknownField (entity field : String)
  | unknownStatement (id : String)
  /-- No value stands at the path of a placeholder. -/
  | unresolved (path : String)
  /-- A setting was given a value that cannot be accepted. -/
  | setting (key value reason : String)
  /-- The host failed to execute a statement; it may say what lay behind. -/
  | execution (statement reason : String) (source : Option String)
  | custom (message : String)
deriving DecidableEq, Repr, Inhabited

namespace Error

def message : Error → String
  | .invalidColumn column => "Invalid SQL column name: '" ++ column ++ "'"
  | .missingKey entity field => "Primary key '" ++ field ++ "' of " ++ entity ++ " is null"
  | .noKey entity => "No primary key declared on " ++ entity
  | .compositeKey entity fields =>
      "Composite primary key is not supported: " ++ entity ++ " declares [" ++
        ", ".intercalate fields ++ "]"
  | .keyType entity field strategy declared =>
      "Key strategy " ++ strategy ++ " does not match the type of " ++ entity ++ "." ++ field ++
        " (" ++ declared ++ ")"
  | .unknownGenerator name => "No key generator registered as '" ++ name ++ "'"
  | .nothingToWrite context => "No updatable fields in " ++ context
  | .clockRollback drift => "Clock moved backwards: " ++ toString drift ++ " ms"
  | .clockStopped => "Clock stopped"
  | .nullComparison column operator =>
      "Cannot compare " ++ column ++ " " ++ operator ++ " NULL; only = and <> accept a null value"
  | .missingDeleteMarker entity =>
      "Entity " ++ entity ++ " must have exactly one logic-delete field"
  | .unknownField entity field => "Entity " ++ entity ++ " has no field '" ++ field ++ "'"
  | .unknownStatement id => "Statement '" ++ id ++ "' is not registered"
  | .unresolved path => "Parameter path '" ++ path ++ "' does not resolve to a value"
  | .setting key value reason => "Invalid " ++ key ++ " '" ++ value ++ "': " ++ reason
  | .execution statement reason _ => "Statement " ++ statement ++ " failed: " ++ reason
  | .custom message => message

/-- The failure is the host's, not one of this library's. -/
def isExecution : Error → Bool
  | .execution .. => true
  | _ => false

end Error

end BoundSql
