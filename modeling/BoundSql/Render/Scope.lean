import BoundSql.Lexicon.Naming
import BoundSql.Tables.Registry

/-!
# Scopes

The surroundings in which a part of a statement is written: the lexicon, the
registered tables, and the aliases to which columns without a qualifier belong on
either side of a comparison.
-/

set_option autoImplicit false

namespace BoundSql

/-- A side of a comparison. -/
inductive Position where
  | source
  | destination
  deriving DecidableEq, Repr

/-- The surroundings in which a part of a statement is written. -/
structure Scope where
  lexicon : Lexicon
  tables : Registry
  /-- The alias of source columns that have no qualifier. -/
  source : Option Text
  /-- The alias of destination columns that have no qualifier. -/
  destination : Option Text

namespace Scope

/-- The scope of a statement: sources belong to the origin, destinations to the
first joined table. -/
def ofStatement (lex : Lexicon) (tables : Registry) : Scope where
  lexicon := lex
  tables := tables
  source := tables.originAlias?
  destination := tables.joinAlias?

/-- The scope of a join qualifier: sources belong to the joined table, destinations
to the origin. -/
def forJoin (scope : Scope) (joined : Text) : Scope :=
  { scope with source := some joined, destination := scope.tables.originAlias? }

/-- The alias of columns without a qualifier at a position. -/
def defaultAlias (scope : Scope) : Position → Option Text
  | .source => scope.source
  | .destination => scope.destination

/-- A column as it is written at a position. A given qualifier is looked up among
the tables. Without one, a column that is qualified or a function call stays as it
is, and any other is qualified with the alias for its position. -/
def column (scope : Scope) (position : Position) (name : Text) (qualifier : Option Text) : Text :=
  match qualifier with
  | some qualifier => scope.lexicon.qualify (scope.tables.resolve qualifier) name
  | none =>
    if scope.lexicon.isQualified name || scope.lexicon.isFunction name then name
    else
      match scope.defaultAlias position with
      | some aliasName => scope.lexicon.qualify aliasName name
      | none => name

/-- Whether a listed column is a plain name, open to the alias of the origin. -/
def isPlainName (scope : Scope) (item : Text) : Bool :=
  !(scope.lexicon.isQualified item || scope.lexicon.isFunction item ||
    scope.lexicon.isLiteral item || scope.lexicon.isExpression item)

/-- A listed column, behind the alias of the origin if it is a plain name. -/
def listItem (scope : Scope) (item : Text) : Text :=
  match scope.tables.originAlias? with
  | some aliasName =>
    if scope.isPlainName item then aliasName ++ scope.lexicon.separator :: item else item
  | none => item

/-- The columns of a list: texts are taken apart at their commas and empty items
are left out. -/
def listItems (scope : Scope) (columns : List Text) : List Text :=
  ((columns.flatMap scope.lexicon.items).filter fun item => !item.isEmpty).map scope.listItem

end Scope

end BoundSql
