import BoundSql.Statement.Syntax

/-!
# Building conditions

A condition is put together by calls in alternation: an operand opens a term and
a comparison closes it. A call out of turn does not fail at once. The condition
keeps the first mistake, and rendering reports it.
-/

set_option autoImplicit false

namespace BoundSql.Condition

/-- A condition that begins with an operand, or without one for `EXISTS`. -/
def start (source : Option Operand) : Condition := ⟨[], some ⟨none, source⟩, none⟩

/-- A condition that begins with a column. -/
def ofColumn (name : Text) : Condition := start (some (.column name none))

/-- A condition that begins with a column of a table. -/
def ofQualified (name qualifier : Text) : Condition := start (some (.column name (some qualifier)))

/-- A condition that begins with a bound value. -/
def ofValue (v : Value) : Condition := start (some (.value v))

/-- A condition that begins with any operand. -/
def ofOperand (o : Operand) : Condition := start (some o)

/-- A condition that begins without an operand. -/
def empty : Condition := start none

/-- The condition with a mistake, unless it has one already. -/
def refuse (w : Condition) (fault : Fault) : Condition :=
  { w with fault := w.fault <|> some fault }

/-- Opens a term by a conjunction and an operand. A term still open is a mistake
and is dropped. -/
def conjoin (w : Condition) (c : Conjunction) (source : Option Operand) : Condition :=
  let checked :=
    if w.pending.isSome then w.refuse (.missingOperand (.unfinishedOperand c)) else w
  { checked with pending := some ⟨some c, source⟩ }

/-- Closes the open term by an operator and a destination. -/
def close (w : Condition) (op : Operator) (destination : Option Operand) : Condition :=
  match w.pending with
  | none => w.refuse (.missingOperand (.noPendingOperand op))
  | some open_ =>
    let checked :=
      if op = .exists_ ∧ open_.source.isSome then w.refuse (.missingOperand .existsWithSource)
      else w
    { checked with
      comparisons := w.comparisons ++ [⟨open_.conjunction, open_.source, op, destination⟩]
      pending := none }

/-- Closes the open term by the operator with a name. The destination does not
count for operators that take none; an unknown name drops the term. -/
def compare (w : Condition) (name : Text) (destination : Operand) : Condition :=
  match Operator.ofName? name with
  | some op => w.close op (if op.arity = .unary then none else some destination)
  | none => { w.refuse (.unsupportedOperator name) with pending := none }

/-! ## Conjunctions -/

/-- Opens a term with `AND` and a column. -/
def and (w : Condition) (name : Text) : Condition := w.conjoin .and (some (.column name none))

/-- Opens a term with `OR` and a column. -/
def or (w : Condition) (name : Text) : Condition := w.conjoin .or (some (.column name none))

/-- Opens a term with `AND` and any operand. -/
def andOperand (w : Condition) (o : Operand) : Condition := w.conjoin .and (some o)

/-- Opens a term with `OR` and any operand. -/
def orOperand (w : Condition) (o : Operand) : Condition := w.conjoin .or (some o)

/-! ## Comparisons -/

/-- Equal to the operand. -/
def equals (w : Condition) (o : Operand) : Condition := w.close .equals (some o)

/-- Not equal to the operand. -/
def notEquals (w : Condition) (o : Operand) : Condition := w.close .notEquals (some o)

/-- Greater than the operand. -/
def greater (w : Condition) (o : Operand) : Condition := w.close .greater (some o)

/-- Greater than or equal to the operand. -/
def greaterEqual (w : Condition) (o : Operand) : Condition := w.close .greaterEqual (some o)

/-- Less than the operand. -/
def less (w : Condition) (o : Operand) : Condition := w.close .less (some o)

/-- Less than or equal to the operand. -/
def lessEqual (w : Condition) (o : Operand) : Condition := w.close .lessEqual (some o)

/-- Among the operand: a list, a query or a single operand. -/
def isIn (w : Condition) (o : Operand) : Condition := w.close .isIn (some o)

/-- Not among the operand: a list, a query or a single operand. -/
def notIn (w : Condition) (o : Operand) : Condition := w.close .notIn (some o)

/-- Absent. -/
def isNull (w : Condition) : Condition := w.close .isNull none

/-- Present. -/
def isNotNull (w : Condition) : Condition := w.close .isNotNull none

/-- Equal to the empty string. -/
def isEmpty (w : Condition) : Condition := w.close .isEmpty none

/-- Not equal to the empty string. -/
def isNotEmpty (w : Condition) : Condition := w.close .isNotEmpty none

/-- Between two bounds. -/
def between (w : Condition) (low high : Operand) : Condition :=
  w.close .between (some (.list [low, high]))

/-- Matching a pattern. -/
def like (w : Condition) (o : Operand) : Condition := w.close .like (some o)

/-- Matching a pattern without regard to letter case. -/
def ilike (w : Condition) (o : Operand) : Condition := w.close .ilike (some o)

/-- The query has rows. -/
def holds (w : Condition) (q : Query) : Condition := w.close .exists_ (some (.query q))

/-- And the query has rows. -/
def andHolds (w : Condition) (q : Query) : Condition := (w.conjoin .and none).holds q

/-- Or the query has rows. -/
def orHolds (w : Condition) (q : Query) : Condition := (w.conjoin .or none).holds q

/-- Whether some comparison is attached by `OR`. -/
def hasOr (w : Condition) : Bool := w.comparisons.any fun c => c.conjunction == some .or

end BoundSql.Condition
