import BoundSql.Text.Basic

/-!
# Placeholders

The three ways in which a backend marks the place of a bound value.
-/

set_option autoImplicit false

namespace BoundSql

/-- How the place of a bound value is marked. -/
inductive Placeholder where
  /-- A question mark. -/
  | question
  /-- A percent sign and an `s`. -/
  | format
  /-- A dollar sign and the number of the value. -/
  | numbered
  deriving DecidableEq, Repr

namespace Placeholder

/-- The mark for the value with the given number, counted from one. -/
def token : Placeholder → Nat → Text
  | .question, _ => "?"
  | .format, _ => "%s"
  | .numbered, index => '$' :: Text.ofNat index

/-- The word for a style. -/
def name : Placeholder → Text
  | .question => "question"
  | .format => "format"
  | .numbered => "numbered"

/-- The style with a word, or with the sign that shows it. -/
def ofName? (name : Text) : Option Placeholder :=
  if name = "question" ∨ name = "?" then some .question
  else if name = "format" ∨ name = "%s" then some .format
  else if name = "numbered" ∨ name = "$n" then some .numbered
  else none

end Placeholder

end BoundSql
