import BoundSql.Value.Basic

/-!
# Values in JSON

The compact JSON text of a bound value. Whole numbers, numbers with a fraction and
truth values are written as such, and texts, identifiers and moments as strings.
-/

set_option autoImplicit false

namespace BoundSql

namespace Value

/-- The compact JSON text of a value. -/
def written : Value → Text
  | .null => "null"
  | .bool b => if b then "true" else "false"
  | .int i => Json.intText i.toInt
  | .float d => d.written
  | .text t => Json.quoted t
  | .uuid u => Json.quoted u.text
  | .timestamp t => Json.quoted t.text
  | .json j => j.compact

end Value

end BoundSql
