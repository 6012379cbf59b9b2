import BoundSql.Dialect.Placeholder
import BoundSql.Value.Basic

/-!
# Fragments

A piece of SQL on its way: characters, and slots where bound values stand. Text
and values stay together until the whole statement is written, so that the marks
in the SQL and the values beside it can never come apart. The style and the
numbers of the marks are chosen only then. The renderer that numbers each mark when
its value is pushed is `Draft.emit`.
-/

set_option autoImplicit false

namespace BoundSql

/-- A character of SQL, or the place of a bound value. -/
inductive Cell where
  | char (c : Char)
  | slot (v : Value)

/-- SQL with slots in it. -/
abbrev Fragment := List Cell

/-- SQL text and the values for its marks in order. -/
structure Rendered where
  sql : Text
  params : List Value

namespace Fragment

/-- Text without slots. -/
def plain (text : Text) : Fragment := text.map .char

/-- The values in the slots, in order. -/
def values : Fragment → List Value
  | [] => []
  | .char _ :: rest => values rest
  | .slot v :: rest => v :: values rest

/-- The SQL of a fragment behind `prior` bound values. -/
def sql (style : Placeholder) (prior : Nat) : Fragment → Text
  | [] => []
  | .char c :: rest => c :: sql style prior rest
  | .slot _ :: rest => style.token (prior + 1) ++ sql style (prior + 1) rest

/-- The fragments in order with `separator` between each two. -/
def joined (separator : Text) (parts : List Fragment) : Fragment :=
  (plain separator).intercalate parts

/-- The fragment in parentheses. -/
def parenthesized (f : Fragment) : Fragment := plain "(" ++ f ++ plain ")"

/-- The fragment written out, its values behind the ones already bound. -/
def rendered (style : Placeholder) (prior : List Value) (f : Fragment) : Rendered where
  sql := f.sql style prior.length
  params := prior ++ f.values

@[simp] theorem values_plain (text : Text) : values (plain text) = [] := by
  induction text with
  | nil => rfl
  | cons c rest ih => simpa [plain, values] using ih

@[simp] theorem sql_plain (style : Placeholder) (prior : Nat) (text : Text) :
    sql style prior (plain text) = text := by
  induction text with
  | nil => rfl
  | cons c rest ih => simpa [plain, sql] using ih

theorem values_append (f g : Fragment) : values (f ++ g) = values f ++ values g := by
  induction f with
  | nil => rfl
  | cons cell rest ih => cases cell <;> simp [values, ih]

theorem sql_append (style : Placeholder) (prior : Nat) (f g : Fragment) :
    sql style prior (f ++ g) = sql style prior f ++ sql style (prior + (values f).length) g := by
  induction f generalizing prior with
  | nil => rfl
  | cons cell rest ih =>
    cases cell with
    | char c => simp [sql, values, ih]
    | slot v => simp [sql, values, ih, Nat.add_assoc, Nat.add_comm 1]

end Fragment

end BoundSql
