import BoundSql.Dialect.Placeholder
import BoundSql.Fault
import BoundSql.Lexicon.Basic

/-!
# Dialects

A dialect is a lexicon and a placeholder style. Four presets serve as starting
points. A dialect is valid when its quotes and its separator can be told apart.
-/

set_option autoImplicit false

namespace BoundSql

/-- What a backend expects of the SQL that it is sent. -/
structure Dialect extends Lexicon where
  placeholder : Placeholder
  deriving DecidableEq, Repr

namespace Dialect

/-- Backquoted names, question marks, `true` and `false`. -/
def generic : Dialect where
  quotes := ⟨'`', '\''⟩
  separator := '.'
  booleans := ["true", "false"]
  reserved := usualReserved
  placeholder := .question

/-- Double-quoted names and the spellings of truth values that PostgreSQL reads. -/
def postgres : Dialect where
  quotes := ⟨'"', '\''⟩
  separator := '.'
  booleans :=
    ["true", "'true'", "'t'", "'yes'", "'y'", "'on'", "'1'", "false", "'false'", "'no'", "'n'",
      "'off'", "'0'"]
  reserved := usualReserved
  placeholder := .format

/-- Backquoted names and `%s` marks. -/
def mysql : Dialect := { generic with placeholder := .format }

/-- Backquoted names and the truth values `1` and `0`. -/
def sqlite : Dialect := { generic with booleans := ["1", "0"] }

/-- Whether quotes and separator can be told apart, and else the first collision. -/
def validate (d : Dialect) : Except Fault Unit :=
  if d.quotes.field = d.quotes.value then
    .error (.configuration (.sameQuotes d.quotes.field))
  else if d.separator = d.quotes.field ∨ d.separator = d.quotes.value then
    .error (.configuration (.separatorIsQuote d.separator))
  else .ok ()

end Dialect

/-- A named dialect to start from. -/
inductive Preset where
  | generic
  | postgres
  | mysql
  | sqlite
  deriving DecidableEq, Repr

namespace Preset

/-- The word for a preset. -/
def name : Preset → Text
  | .generic => "generic"
  | .postgres => "postgres"
  | .mysql => "mysql"
  | .sqlite => "sqlite"

/-- The preset with a word. -/
def ofName? (name : Text) : Option Preset :=
  [generic, postgres, mysql, sqlite].find? fun preset => preset.name == name

/-- The dialect of a preset. -/
def dialect : Preset → Dialect
  | .generic => .generic
  | .postgres => .postgres
  | .mysql => .mysql
  | .sqlite => .sqlite

end Preset

end BoundSql
