import BoundSql.ChangeSet
import BoundSql.Criteria.Basic
import BoundSql.Schema.Row

/-!
Commands on the table of an entity. A command holds the objects whose values its statement
needs; `root` sees them as one object, in which every placeholder finds its value.
-/

namespace BoundSql

inductive Target where
  | id (value : Value)
  | ids (values : List Value)
  | criteria (sought : Criteria)
deriving Repr, Inhabited

structure SelectOptions where
  count : Bool
  limitOne : Bool
  forUpdate : Bool
deriving DecidableEq, Repr

instance : Inhabited SelectOptions := ⟨⟨false, false, false⟩⟩

inductive SelectFlag where
  | count
  | exists
  | limitOne
  | forUpdate
deriving DecidableEq, Repr, Inhabited

def SelectOptions.apply (options : SelectOptions) : SelectFlag → SelectOptions
  | .count => ⟨true, options.limitOne, options.forUpdate⟩
  | .exists => ⟨true, true, options.forUpdate⟩
  | .limitOne => ⟨options.count, true, options.forUpdate⟩
  | .forUpdate => ⟨options.count, options.limitOne, true⟩

def SelectOptions.ofFlags (flags : List SelectFlag) : SelectOptions :=
  flags.foldl SelectOptions.apply default

/-- A command on one table. A selective command leaves null fields out. -/
inductive Command where
  | insert (row : Row) (selective : Bool)
  | insertMany (rows : List Row) (selective : Bool)
  | updateById (row : Row) (selective : Bool)
  /-- Writes the fields of a row over all stored rows that meet the criteria. -/
  | updateWhere (row : Row) (criteria : Criteria) (selective : Bool)
  | updateWith (changes : ChangeSet) (criteria : Criteria)
  /-- Writes each row over the stored row with its key, in one statement. -/
  | updateMany (rows : List Row) (selective : Bool)
  /-- Removes rows, or only marks them as deleted. -/
  | delete (target : Target) (logical : Bool)
  | select (target : Target) (options : SelectOptions)
deriving Repr, Inhabited

def Target.resolve : Target → Resolver
  | .id value => .named [("id", .value value)]
  | .ids values => .named [("ids", .values values)]
  | .criteria sought => .named [("condition", sought.resolve)]

def Command.root : Command → Resolver
  | .insert row _ => row.resolve
  | .insertMany rows _ => .named [("list", Row.resolveAll rows)]
  | .updateById row _ => row.resolve
  | .updateWhere row criteria _ =>
      .named [("entity", row.resolve), ("condition", criteria.resolve)]
  | .updateWith changes criteria =>
      .named [("spec", changes.resolve), ("condition", criteria.resolve)]
  | .updateMany rows _ => .named [("list", Row.resolveAll rows)]
  | .delete target _ => target.resolve
  | .select target _ => target.resolve

end BoundSql
