import BoundSql.Value

/-!
Parameter paths. A path leads from the object that a statement was built from to one value in
it: through keys of records and positions of lists. Resolving is a partial function, so an
object with values in it is seen as the function from paths to values.
-/

namespace BoundSql

inductive Segment where
  | key (name : String)
  | index (i : Nat)
deriving DecidableEq, Repr, Inhabited

abbrev Path := List Segment

namespace Path

def segmentText : Segment → String
  | .key name => "." ++ name
  | .index i => "[" ++ toString i ++ "]"

/-- The text of a path: keys are separated by points, positions stand in brackets. -/
def text : Path → String
  | [] => ""
  | .key name :: rest => name ++ String.join (rest.map segmentText)
  | path => String.join (path.map segmentText)

end Path

/-- An object seen through the paths that lead into it. -/
abbrev Resolver := Path → Option Value

namespace Resolver

def value (v : Value) : Resolver
  | [] => some v
  | _ => none

def values (vs : List Value) : Resolver
  | [.index i] => vs[i]?
  | _ => none

/-- Several named objects; of two with one name the first counts. -/
def named (roots : List (String × Resolver)) : Resolver
  | .key name :: rest => (roots.lookup name).bind fun root => root rest
  | _ => none

end Resolver

end BoundSql
