import BoundSql.Condition.Chain
import BoundSql.Render.Fragment
import BoundSql.Render.Scope

/-!
# Clauses

The parts of a statement around its operands: column lists, what is read from,
joined and changed, and the keywords between them.
-/

set_option autoImplicit false

namespace BoundSql

open Fragment (plain)

/-- What is assigned to a column: a slot, or the bare name of another column. -/
def Assignment.fragment : Assignment → Fragment
  | .value v => [.slot v]
  | .column name => .plain name

/-- The head of a join; an alias equal to the table is left out. -/
def JoinKind.head (kind : JoinKind) (table aliasName : Text) : Text :=
  if aliasName = table then kind.keyword ++ " " ++ table
  else kind.keyword ++ " " ++ table ++ " " ++ aliasName

/-- The table that a join names in a scope, and the alias that it declares: one
given with the table, else the registered one, else the table itself. -/
def TableRef.declared (ref : TableRef) (scope : Scope) : Text × Text :=
  let (table, given) := ref.split scope.lexicon
  (table, (given <|> scope.tables.aliasOf? table).getD table)

/-- A condition among several filters is enclosed if it has an `OR`. -/
def Condition.enclosed (w : Condition) (several : Bool) (sql : Fragment) : Fragment :=
  if several && w.hasOr then sql.parenthesized else sql

/-- A keyword and what it governs, or nothing where there is nothing to govern. -/
def clauseOf (keyword separator : Text) (parts : List Fragment) : List Fragment :=
  if parts.isEmpty then [] else [plain keyword, Fragment.joined separator parts]

/-- The selected columns, or a star for all of them. -/
def Scope.selectList (scope : Scope) (columns : List Text) : Fragment :=
  match scope.listItems columns with
  | [] => plain "*"
  | items => plain (Text.joined ", " items)

/-- A clause that lists columns, left out when there are none. -/
def Scope.listClause (scope : Scope) (keyword : Text) (columns : List Text) : List Fragment :=
  clauseOf keyword ", " ((scope.listItems columns).map plain)

/-- The LIMIT clause; the number is written out and not bound. -/
def limitClause : Option Nat → List Fragment
  | none => []
  | some n => [plain ("LIMIT " ++ Text.ofNat n)]

/-- A table to read from; an alias equal to the table is left out. -/
def tableSource (table : Text) (aliasName : Option Text) : Text :=
  match aliasName with
  | none => table
  | some aliasName => if aliasName = table then table else table ++ " " ++ aliasName

/-- A query to read from, under its alias. -/
def derivedSource (sql : Fragment) (aliasName : Option Text) : Fragment :=
  sql.parenthesized ++ plain (" AS " ++ aliasName.getD "not_specified")

/-- The keyword that appends a query to a selection, with repeated rows or without. -/
def unionKeyword (keepsAll : Bool) : Text := if keepsAll then "UNION ALL" else "UNION"

/-- The table that a mutation changes, quoted if it needs to be. -/
def Mutation.writtenTarget (m : Mutation) (lex : Lexicon) : Text :=
  if lex.needsQuotes m.target then lex.quoteName m.target else m.target

/-- The assignments of a mutation as columns and values of an INSERT. -/
def Mutation.insertion (m : Mutation) (lex : Lexicon) : Fragment :=
  plain ("INSERT INTO " ++ m.writtenTarget lex ++ " ") ++
    (plain (Text.joined ", " (m.assignments.map Prod.fst))).parenthesized ++
    plain " VALUES " ++
    (Fragment.joined ", " (m.assignments.map fun a => a.2.fragment)).parenthesized

/-- The assignments of a mutation as items of an UPDATE. -/
def Mutation.settings (m : Mutation) : Fragment :=
  Fragment.joined ", " (m.assignments.map fun a => plain (a.1 ++ " = ") ++ a.2.fragment)

/-- The table expressions of a WITH, each name with its body. -/
def tableExpressions (names : List Text) (bodies : List Fragment) : Fragment :=
  Fragment.joined ", "
    (List.zipWith (fun name body => plain (name ++ " AS ") ++ body.parenthesized) names bodies)

end BoundSql
