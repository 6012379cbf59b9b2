import BoundSql.Text.Basic

/-!
# Kinds of statement and clause

The five statements that can be built and the clauses that fill them in, each
with the word by which messages name it.
-/

set_option autoImplicit false

namespace BoundSql

/-- The kind of a statement. -/
inductive StatementKind where
  | select
  | insert
  | update
  | delete
  | with_
  deriving DecidableEq, Repr

/-- The lower-case word for a kind of statement. -/
def StatementKind.name : StatementKind → Text
  | .select => "select"
  | .insert => "insert"
  | .update => "update"
  | .delete => "delete"
  | .with_ => "with"

/-- A clause that may be asked of a statement that has no place for it. -/
inductive Clause where
  | body
  | source
  | join
  | group
  | having
  | order
  | limit
  | union
  | unionAll
  | filter
  | values
  | set
  deriving DecidableEq, Repr

/-- The SQL keyword of a clause. -/
def Clause.keyword : Clause → Text
  | .body => "AS"
  | .source => "FROM"
  | .join => "JOIN"
  | .group => "GROUP BY"
  | .having => "HAVING"
  | .order => "ORDER BY"
  | .limit => "LIMIT"
  | .union => "UNION"
  | .unionAll => "UNION ALL"
  | .filter => "WHERE"
  | .values => "VALUES"
  | .set => "SET"

end BoundSql
