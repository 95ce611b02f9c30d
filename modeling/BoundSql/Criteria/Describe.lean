import BoundSql.Condition.Describe
import BoundSql.Criteria.Basic

/-!
The JSON form of search criteria and their description for diagnostics.
-/

namespace BoundSql

namespace Criteria

def conditionsJson (criteria : Criteria) : Json := .array (Condition.toJsonAll criteria.conditions)

def OrderItem.toJson (item : OrderItem) : Json :=
  .object [("column", .text item.column), ("ascending", .bool item.ascending)]

def ordersJson (criteria : Criteria) : Json := .array (criteria.orders.map OrderItem.toJson)

def OrderItem.describe (item : OrderItem) : String :=
  describeRecord "OrderItem"
    [("column", Text.visible item.column), ("ascending", describeBool item.ascending)]

def describe (criteria : Criteria) : String :=
  describeRecord "ConditionWrapper"
    [("conditions", describeList (Condition.describeAll criteria.conditions)),
      ("orders", describeList (criteria.orders.map OrderItem.describe)),
      ("groups", describeList (criteria.groups.map Text.visible))]

end Criteria

end BoundSql
