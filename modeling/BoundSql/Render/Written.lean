import BoundSql.Render.Fragment
import BoundSql.Value.Written

/-!
# Rendered statements in JSON

The compact JSON text of a rendered statement: its SQL, and then its values.
-/

set_option autoImplicit false

namespace BoundSql

/-- The compact JSON text of SQL and its values. -/
def Rendered.written (r : Rendered) : Text :=
  Json.objectText
    [Json.memberText "sql" (Json.quoted r.sql),
      Json.memberText "params" (Json.arrayText (r.params.map Value.written))]

end BoundSql
