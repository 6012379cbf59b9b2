import BoundSql.Value.Json
import BoundSql.Value.Timestamp
import BoundSql.Value.Uuid

/-!
# Bound values

The values that are bound to the placeholders of a statement, and what an
assignment puts into a column.
-/

set_option autoImplicit false

namespace BoundSql

/-- A value bound to one placeholder. -/
inductive Value where
  | null
  | bool (b : Bool)
  | int (i : Int64)
  | float (d : Double)
  | text (t : Text)
  | uuid (u : Uuid)
  | timestamp (t : Timestamp)
  | json (j : Json)

namespace Value

/-- Whether the value is absent. -/
def isNull : Value → Bool
  | .null => true
  | _ => false

/-- The characters of a text value. -/
def text? : Value → Option Text
  | .text t => some t
  | _ => none

end Value

/-- What is assigned to a column: a bound value, or the value of another column. -/
inductive Assignment where
  | value (v : Value)
  | column (name : Text)

end BoundSql
