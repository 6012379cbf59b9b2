import BoundSql.Lexicon.Naming
import BoundSql.Tables.Registry

/-!
# Table references

How a statement names a table: by one text, which may hold a table and an alias,
or by the two apart. Which text is taken apart depends on the quotes in use.
-/

set_option autoImplicit false

namespace BoundSql

/-- A table with or without an alias. -/
inductive TableRef where
  /-- A table, or a table and an alias with one space between. -/
  | raw (text : Text)
  | aliased (table aliasName : Text)
  deriving DecidableEq, Repr

/-- The table and the alias of a reference, read with a lexicon. -/
def TableRef.split (lex : Lexicon) : TableRef → Text × Option Text
  | .raw text => lex.splitTable text
  | .aliased table aliasName => (table, some aliasName)

/-- How a joined table is attached to the tables before it. -/
inductive JoinKind where
  | inner
  | left
  | right
  deriving DecidableEq, Repr

namespace JoinKind

/-- The SQL keyword of a kind of join. -/
def keyword : JoinKind → Text
  | .inner => "INNER JOIN"
  | .left => "LEFT JOIN"
  | .right => "RIGHT JOIN"

/-- The kind of join with a name in any letter case. -/
def ofName (name : Text) : Except Fault JoinKind :=
  let small := name.map Char.toLower
  if small = "inner" then .ok .inner
  else if small = "left" then .ok .left
  else if small = "right" then .ok .right
  else .error (.configuration (.unknownJoinKind name))

end JoinKind

end BoundSql
