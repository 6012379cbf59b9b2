import BoundSql.Text.LetterCase

/-!
# Comparison operators

The sixteen operators of a condition with the name, the SQL symbol and the
number of destinations of each, and the two words that join comparisons. An
operator may be looked up by its name in snake case or in camel case: letter
case and underscores do not count.
-/

set_option autoImplicit false

namespace BoundSql

/-- The word that attaches a comparison to the one before it. -/
inductive Conjunction where
  | and
  | or
  deriving DecidableEq, Repr

/-- The SQL keyword of a conjunction. -/
def Conjunction.keyword : Conjunction → Text
  | .and => "AND"
  | .or => "OR"

/-- The destinations that an operator takes. -/
inductive Arity where
  /-- None at all. -/
  | unary
  /-- One operand. -/
  | binary
  /-- A list of operands. -/
  | list
  /-- A lower and an upper bound. -/
  | range
  deriving DecidableEq, Repr

/-- The lower-case word for an arity. -/
def Arity.name : Arity → Text
  | .unary => "unary"
  | .binary => "binary"
  | .list => "list"
  | .range => "range"

/-- A comparison operator. -/
inductive Operator where
  | equals
  | notEquals
  | greater
  | greaterEqual
  | less
  | lessEqual
  | isIn
  | notIn
  | isNull
  | isNotNull
  | isEmpty
  | isNotEmpty
  | between
  | like
  | ilike
  | exists_
  deriving DecidableEq, Repr

namespace Operator

/-- Every operator once. -/
def all : List Operator :=
  [.equals, .notEquals, .greater, .greaterEqual, .less, .lessEqual, .isIn, .notIn, .isNull,
    .isNotNull, .isEmpty, .isNotEmpty, .between, .like, .ilike, .exists_]

/-- The name of an operator in snake case. -/
def name : Operator → Text
  | .equals => "equals"
  | .notEquals => "not_equals"
  | .greater => "gt"
  | .greaterEqual => "gte"
  | .less => "lt"
  | .lessEqual => "lte"
  | .isIn => "is_in"
  | .notIn => "not_in"
  | .isNull => "is_null"
  | .isNotNull => "is_not_null"
  | .isEmpty => "is_empty"
  | .isNotEmpty => "is_not_empty"
  | .between => "between"
  | .like => "like"
  | .ilike => "ilike"
  | .exists_ => "exists"

/-- The SQL text of an operator. -/
def symbol : Operator → Text
  | .equals | .isEmpty => "="
  | .notEquals | .isNotEmpty => "!="
  | .greater => ">"
  | .greaterEqual => ">="
  | .less => "<"
  | .lessEqual => "<="
  | .isIn => "IN"
  | .notIn => "NOT IN"
  | .isNull => "IS NULL"
  | .isNotNull => "IS NOT NULL"
  | .between => "BETWEEN"
  | .like => "LIKE"
  | .ilike => "ILIKE"
  | .exists_ => "EXISTS"

/-- The destinations that an operator takes. -/
def arity : Operator → Arity
  | .isIn | .notIn => .list
  | .isNull | .isNotNull | .isEmpty | .isNotEmpty => .unary
  | .between => .range
  | _ => .binary

/-- A name without its underscores and in lower case, character by character. -/
def folded (name : Text) : Text := (name.filter (· != '_')).flatMap Text.lowerChar

/-- The operator with a name, compared by the folded names. -/
def ofName? (name : Text) : Option Operator :=
  all.find? fun op => folded op.name == folded name

theorem mem_all (op : Operator) : op ∈ all := by
  cases op <;> decide

end Operator

end BoundSql
