import BoundSql.Condition.Chain
import BoundSql.Render.Fragment

/-!
# Forms of comparisons

How a comparison is written: whether its operands stand in it at all, and what
stands between and around them. The form follows from the operator and the shape
of the destination, before any operand is rendered, and a destination that does
not suit the operator is a mistake.
-/

set_option autoImplicit false

namespace BoundSql

open Fragment (plain)

/-- A value in its place: a slot, or in parentheses a text that begins like a query. -/
def Value.fragment : Value → Fragment
  | .text t => if t.isQuery then (Fragment.plain t).parenthesized else [.slot (.text t)]
  | v => [.slot v]

/-- How a comparison is written. -/
inductive Form where
  /-- Without its operands. -/
  | constant
  /-- The source and the symbol. -/
  | suffixed
  /-- The symbol and a query. -/
  | exists_
  /-- The symbol between the source and one operand. -/
  | bare
  /-- The symbol between the source and operands in parentheses. -/
  | enclosed
  /-- The symbol between the source and two bounds. -/
  | range
  deriving DecidableEq, Repr

/-- The operands of a destination behind the symbol. -/
def Form.right (form : Form) (parts : List Fragment) : Fragment :=
  match form with
  | .enclosed => (Fragment.joined ", " parts).parenthesized
  | .range => Fragment.joined " AND " parts
  | _ => Fragment.joined ", " parts

/-- The form of a comparison with a list operator. A query has parentheses of its
own, also as the only item of a list. -/
def Operand.listForm : Operand → Form
  | .list [] => .constant
  | .list [only] => if only.isQuery then .bare else .enclosed
  | d => if d.isQuery then .bare else .enclosed

/-- The form of a comparison with two bounds. -/
def Operand.rangeForm : Operand → Except Fault Form
  | .list [_, _] => .ok .range
  | _ => .error (.missingOperand .wrongBounds)

/-- The form of a comparison of an operator with a destination. -/
def Operator.formWith (op : Operator) (d : Operand) : Except Fault Form :=
  match op.arity with
  | .unary => .ok .suffixed
  | .binary =>
    if op = .exists_ then
      if d.isQuery then .ok .exists_ else .error (.missingOperand .existsWithoutQuery)
    else .ok (if d.isList then .enclosed else .bare)
  | .list => .ok d.listForm
  | .range => d.rangeForm

/-- The form of a comparison; an operator that takes a destination has to have one. -/
def Operator.form (op : Operator) (destination : Option Operand) : Except Fault Form :=
  if op.arity = .unary then .ok .suffixed
  else
    match destination with
    | none => .error (.missingOperand (.noDestination op))
    | some d => op.formWith d

/-- The term for an empty list: nothing is among no values, and everything is not. -/
def Operator.onEmptyList : Operator → Fragment
  | .notIn => plain "1=1"
  | _ => plain "1=0"

/-- A term of two operands with the symbol between them. -/
def Operator.infixed (op : Operator) (source destination : Fragment) : Fragment :=
  source ++ plain (" " ++ op.symbol ++ " ") ++ destination

/-- A term of one operand with what follows it. -/
def Operator.suffixed (op : Operator) (lex : Lexicon) (source : Fragment) : Fragment :=
  match op with
  | .isEmpty | .isNotEmpty => op.infixed source (plain [lex.quotes.value, lex.quotes.value])
  | _ => source ++ plain (" " ++ op.symbol)

/-- The conjunction of a comparison, if it has one, and its term. -/
def Comparison.parts (c : Comparison) (term : Fragment) : List Fragment :=
  match c.conjunction with
  | some conjunction => [plain conjunction.keyword, term]
  | none => [term]

/-- The mistake for which a condition is not rendered: the recorded one, or else a
conjunction at its end. -/
def Condition.objection? (w : Condition) : Option Fault :=
  match w.fault, w.pending with
  | some fault, _ => some fault
  | none, some ⟨some c, _⟩ => some (.missingOperand (.danglingConjunction c))
  | none, _ => none

end BoundSql
