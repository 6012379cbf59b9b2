import BoundSql.Dialect.Basic
import BoundSql.Tables.Reference
import BoundSql.Value.Basic

/-!
# Statements as data

Operands, conditions, joins and statements, and the drafts in which statements
are built. They refer to one another: an operand may hold a whole draft, whose
conditions hold operands again.
-/

set_option autoImplicit false

namespace BoundSql

mutual

/-- One side of a comparison. -/
inductive Operand where
  /-- A column, with the table or alias to which it belongs if that is said. -/
  | column (name : Text) (qualifier : Option Text)
  | value (v : Value)
  | list (items : List Operand)
  | query (q : Query)

/-- A query within a statement. -/
inductive Query where
  /-- Finished SQL, written as it is. -/
  | text (sql : Text)
  /-- A draft, rendered in place. -/
  | drafted (d : Draft)

/-- One term of a condition. -/
structure Comparison where
  /-- Attaches the term to the one before it; the first term has none. -/
  conjunction : Option Conjunction
  source : Option Operand
  operator : Operator
  destination : Option Operand

/-- An operand that waits for its comparison. -/
structure PendingOperand where
  conjunction : Option Conjunction
  source : Option Operand

/-- Comparisons in order, joined by conjunctions. -/
structure Condition where
  comparisons : List Comparison
  pending : Option PendingOperand
  /-- The first mistake made while the condition was put together. -/
  fault : Option Fault

/-- A joined table and the condition on which it is joined. -/
structure Join where
  table : TableRef
  kind : JoinKind
  qualifier : Option Condition

/-- What a selection reads from. -/
inductive Source where
  | table (name : Text) (aliasName : Option Text)
  | derived (d : Draft)

/-- A query appended to a selection. -/
structure UnionArm where
  query : Query
  /-- Whether repeated rows are kept. -/
  keepsAll : Bool

/-- The clauses of a SELECT. -/
structure Selection where
  columns : List Text
  source : Option Source
  joins : List Join
  filters : List Condition
  group : List Text
  having : Option Condition
  order : List Text
  limit : Option Nat
  unions : List UnionArm

/-- The clauses of an INSERT, an UPDATE or a DELETE. -/
structure Mutation where
  target : Text
  /-- Columns and what they are set to, in order of their first assignment. -/
  assignments : List (Text × Assignment)
  filters : List Condition

/-- The clauses of a WITH: names and bodies of its table expressions, and the
SELECT that reads from them. -/
structure WithClause where
  names : List Text
  bodies : List Query
  recursive : Bool
  /-- Whether the columns of the inner SELECT have been given. -/
  hasSelect : Bool
  selection : Selection

/-- A statement in whatever state it is. -/
inductive Statement where
  | empty
  | select (s : Selection)
  | insert (m : Mutation)
  | update (m : Mutation)
  | delete (m : Mutation)
  | with_ (w : WithClause)

/-- A statement that is being built. -/
structure Draft where
  dialect : Dialect
  tables : Registry
  statement : Statement
  /-- The alias of the draft where another statement reads from it. -/
  aliasName : Option Text
  /-- The first mistake made since the statement was begun. -/
  fault : Option Fault
  /-- The number of bytes of SQL that are logged, if there is a limit. -/
  logLimit : Option Nat

end

/-- The number of bytes of SQL that are logged unless something else is asked for. -/
def usualLogLimit : Nat := 200

namespace Selection

/-- A selection of columns without any other clause. -/
def ofColumns (columns : List Text) : Selection where
  columns := columns
  source := none
  joins := []
  filters := []
  group := []
  having := none
  order := []
  limit := none
  unions := []

end Selection

namespace Mutation

/-- A mutation of a table without any other clause. -/
def ofTarget (target : Text) : Mutation where
  target := target
  assignments := []
  filters := []

/-- Assigns to a column, in the place of an earlier assignment to it if there is one. -/
def put (column : Text) (a : Assignment) : List (Text × Assignment) → List (Text × Assignment)
  | [] => [(column, a)]
  | (other, old) :: rest =>
    if other = column then (other, a) :: rest else (other, old) :: put column a rest

end Mutation

namespace WithClause

/-- A WITH whose first table expression has a name and no body yet. -/
def ofName (name : Text) (recursive : Bool) : WithClause where
  names := [name]
  bodies := []
  recursive := recursive
  hasSelect := false
  selection := .ofColumns []

end WithClause

namespace Statement

/-- The kind of a statement; a draft without a verb has none. -/
def kind? : Statement → Option StatementKind
  | .empty => none
  | .select _ => some .select
  | .insert _ => some .insert
  | .update _ => some .update
  | .delete _ => some .delete
  | .with_ _ => some .with_

end Statement

namespace Draft

/-- A draft for a dialect, before any verb. -/
def ofDialect (dialect : Dialect) : Draft where
  dialect := dialect
  tables := .empty
  statement := .empty
  aliasName := none
  fault := none
  logLimit := some usualLogLimit

/-- The kind of the statement in the draft. -/
def kind? (d : Draft) : Option StatementKind := d.statement.kind?

end Draft

namespace Operand

/-- Whether the operand is a column. -/
def isColumn : Operand → Bool
  | .column _ _ => true
  | _ => false

/-- Whether the operand is a list. -/
def isList : Operand → Bool
  | .list _ => true
  | _ => false

/-- Whether the operand is written as a query in parentheses: a query, or a text
that begins like one. -/
def isQuery : Operand → Bool
  | .query _ => true
  | .value (.text t) => t.isQuery
  | _ => false

end Operand

end BoundSql
