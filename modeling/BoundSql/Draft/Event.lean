import BoundSql.Statement.Syntax
import BoundSql.Text.Utf8

/-!
# Events

What a draft reports for its log while it is built and rendered. SQL is reported
up to the limit of the draft.
-/

set_option autoImplicit false

namespace BoundSql

/-- Something worth a line in the log. -/
inductive Event where
  /-- A table was registered. -/
  | registered (entry : TableEntry)
  /-- A draft made its first mistake. -/
  | recorded (fault : Fault)
  /-- A statement was rendered with that many values. -/
  | rendered (kind : Option StatementKind) (params : Nat) (sql : Text)
  /-- A statement could not be rendered. -/
  | failed (kind : Option StatementKind) (fault : Fault)

/-- The weight of an event. -/
inductive Level where
  | trace
  | debug
  | warn
  deriving DecidableEq, Repr

/-- The lower-case word for a level. -/
def Level.name : Level → Text
  | .trace => "trace"
  | .debug => "debug"
  | .warn => "warn"

namespace Event

/-- The level of an event. -/
def level : Event → Level
  | .registered _ => .trace
  | .rendered _ _ _ => .debug
  | _ => .warn

/-- The part of the log to which an event belongs. -/
def channel : Event → Text
  | .registered _ => "context"
  | _ => "sql"

/-- What happened, in words. -/
def message : Event → Text
  | .registered _ => "registered table alias"
  | .recorded _ => "builder error recorded"
  | .rendered _ _ _ => "rendered statement"
  | .failed _ _ => "render failed"

/-- The word for the kind of a statement, a dash before any verb. -/
def kindName (kind : Option StatementKind) : Text := (kind.map StatementKind.name).getD "-"

end Event

/-- The SQL as it is logged, cut to a limit if there is one. -/
def loggedSql (limit : Option Nat) (sql : Text) : Text :=
  match limit with
  | some limit => sql.shortened limit
  | none => sql

end BoundSql
