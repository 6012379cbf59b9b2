import BoundSql.Render.Basic

/-!
# Ingredients of a statement

What goes into the SQL of a draft, read off the draft alone: the texts that were
given, the literals that are bound and the drafts within it. They are listed in the
order of the clauses, without a lexicon, without tables to look anything up in and
whether or not the draft can be rendered.

Listed is only what is written. A list operator with an empty list leaves out both
its operands, `EXISTS` leaves out a source, an operator without destinations leaves
out a destination, an INSERT has no filters and a DELETE no assignments.
-/

set_option autoImplicit false

namespace BoundSql

/-- What a given text is for. -/
inductive TextUse where
  /-- A table reference that may hold a table and an alias. -/
  | reference
  /-- One name: a table, an alias, a table expression, a target or an assigned column. -/
  | name
  /-- A column, a list of columns or a whole query. -/
  | sql
  deriving DecidableEq, Repr

/-- Something that goes into the SQL of a statement. -/
inductive Ingredient where
  | text (use : TextUse) (t : Text)
  | value (v : Value)
  /-- A draft written in place; its own ingredients follow it. -/
  | draft (d : Draft)

namespace Ingredient

/-- The literal, if the ingredient is one. -/
def value? : Ingredient → Option Value
  | .value v => some v
  | _ => none

/-- Whether the ingredient has a place of its own in the SQL: texts may be written
more than once or not at all. -/
def isPlaced : Ingredient → Bool
  | .text _ _ => false
  | _ => true

end Ingredient

/-- The literals among some ingredients, in order. -/
def literals (ingredients : List Ingredient) : List Value :=
  ingredients.filterMap Ingredient.value?

/-- A literal, or the query that a text is when it begins like one. -/
def Value.ingredients : Value → List Ingredient
  | .text t => if t.isQuery then [.text .sql t] else [.value (.text t)]
  | v => [.value v]

/-- A literal, or the column of which the value is taken. -/
def Assignment.ingredients : Assignment → List Ingredient
  | .value v => [.value v]
  | .column name => [.text .sql name]

/-- The assigned columns and what is assigned to them. -/
def assignmentIngredients (assignments : List (Text × Assignment)) : List Ingredient :=
  assignments.flatMap fun a => .text .name a.1 :: a.2.ingredients

/-- A table reference. The two parts of a pair are names already. -/
def TableRef.ingredients : TableRef → List Ingredient
  | .raw text => [.text .reference text]
  | .aliased table aliasName => [.text .name table, .text .name aliasName]

/-- The aliases by which the tables of a statement are known. -/
def Registry.ingredients (r : Registry) : List Ingredient :=
  r.entries.map fun e => .text .name e.aliasName

/-- Whether neither operand is written: a list operator has nothing to look among. -/
def Operator.omitsOperands (op : Operator) : Option Operand → Bool
  | some (.list []) => op.arity == .list
  | _ => false

mutual

/-- The ingredients of an operand. -/
def Operand.ingredients : Operand → List Ingredient
  | .column name qualifier => .text .sql name :: qualifier.toList.map (.text .name)
  | .value v => v.ingredients
  | .list items => itemIngredients items
  | .query q => q.ingredients
termination_by structural o => o

/-- The ingredients of the items of a list. -/
def itemIngredients : List Operand → List Ingredient
  | [] => []
  | o :: rest => o.ingredients ++ itemIngredients rest

/-- The ingredients of a query within a statement. -/
def Query.ingredients : Query → List Ingredient
  | .text sql => [.text .sql sql]
  | .drafted d => .draft d :: d.ingredients

/-- The ingredients of one side of a comparison, if it is there. -/
def sideIngredients : Option Operand → List Ingredient
  | none => []
  | some o => o.ingredients

/-- The ingredients of a comparison: the source and then the destination, as far as
the operator has them written. -/
def Comparison.ingredients : Comparison → List Ingredient
  | ⟨_, source, op, destination⟩ =>
    if op.omitsOperands destination then []
    else
      -- What the operator has no place for may be there all the same, and is not written.
      (if op = .exists_ then [] else sideIngredients source) ++
        (if op.arity = .unary then [] else sideIngredients destination)

/-- The ingredients of comparisons in order. -/
def termIngredients : List Comparison → List Ingredient
  | [] => []
  | c :: rest => c.ingredients ++ termIngredients rest

/-- The ingredients of a condition; an operand left open is not written. -/
def Condition.ingredients : Condition → List Ingredient
  | ⟨comparisons, _, _⟩ => termIngredients comparisons

/-- The ingredients of a condition, if it is there. -/
def conditionIngredients : Option Condition → List Ingredient
  | none => []
  | some w => w.ingredients

/-- The ingredients of a join. -/
def Join.ingredients : Join → List Ingredient
  | ⟨ref, _, qualifier⟩ => ref.ingredients ++ conditionIngredients qualifier

/-- The ingredients of joins in order. -/
def joinIngredients : List Join → List Ingredient
  | [] => []
  | j :: rest => j.ingredients ++ joinIngredients rest

/-- The ingredients of filters in order. -/
def filterIngredients : List Condition → List Ingredient
  | [] => []
  | w :: rest => w.ingredients ++ filterIngredients rest

/-- The ingredients of what a selection reads from. -/
def sourceIngredients : Option Source → List Ingredient
  | none => []
  | some (.table name aliasName) =>
    .text .name name :: aliasName.toList.map (.text .name)
  | some (.derived d) =>
    .draft d :: d.ingredients ++ d.aliasName.toList.map (.text .name)

/-- The ingredients of appended queries in order. -/
def unionIngredients : List UnionArm → List Ingredient
  | [] => []
  | ⟨query, _⟩ :: rest => query.ingredients ++ unionIngredients rest

/-- The ingredients of the bodies of table expressions in order. -/
def bodyIngredients : List Query → List Ingredient
  | [] => []
  | q :: rest => q.ingredients ++ bodyIngredients rest

/-- The ingredients of a selection: what it reads from, joins, filters, HAVING and
appended queries, and with them the columns that it lists. -/
def Selection.ingredients : Selection → List Ingredient
  | ⟨columns, source, joins, filters, group, having, order, _, unions⟩ =>
    columns.map (.text .sql) ++ sourceIngredients source ++ joinIngredients joins ++
      filterIngredients filters ++ group.map (.text .sql) ++ conditionIngredients having ++
      unionIngredients unions ++ order.map (.text .sql)

/-- The ingredients of the filters of a mutation. -/
def Mutation.whereIngredients : Mutation → List Ingredient
  | ⟨_, _, filters⟩ => filterIngredients filters

/-- The ingredients of a WITH: the table expressions in order, then the inner SELECT. -/
def WithClause.ingredients : WithClause → List Ingredient
  | ⟨names, bodies, _, _, selection⟩ =>
    names.map (.text .name) ++ bodyIngredients bodies ++ selection.ingredients

/-- The ingredients of a statement. -/
def Statement.ingredients : Statement → List Ingredient
  | .empty => []
  | .select s => s.ingredients
  -- Neither the filters of an INSERT nor the assignments of a DELETE are written.
  | .insert m => .text .name m.target :: assignmentIngredients m.assignments
  | .update m =>
    .text .name m.target :: assignmentIngredients m.assignments ++ m.whereIngredients
  | .delete m => .text .name m.target :: m.whereIngredients
  | .with_ w => w.ingredients

/-- The ingredients of a draft: the aliases of its tables, and those of its statement. -/
def Draft.ingredients : Draft → List Ingredient
  | ⟨_, tables, statement, _, _, _⟩ => tables.ingredients ++ statement.ingredients

end

namespace Draft

/-- The literals that a draft binds, in order. -/
def bound (d : Draft) : List Value := literals d.ingredients

/-- Orders above a total, for a backend of their own. -/
def largeOrders (total : Value) : Draft :=
  { Draft.ofDialect .mysql with
    statement := .select
      { Selection.ofColumns ["user_id"] with
        source := some (.table "orders" none)
        filters := [⟨[⟨none, some (.column "total" none), .greater, some (.value total)⟩],
          none, none⟩] } }

/-- Users from an age on who are among the buyers of large orders. -/
def adultBuyers (age total : Value) : Draft :=
  { Draft.ofDialect .generic with
    statement := .select
      { Selection.ofColumns ["id"] with
        source := some (.table "users" none)
        filters := [⟨[⟨none, some (.column "age" none), .greaterEqual, some (.value age)⟩,
          ⟨some .and, some (.column "id" none), .isIn,
            some (.query (.drafted (largeOrders total)))⟩], none, none⟩] } }

example : (adultBuyers (.int 18) (.int 100)).bound = [.int 18, .int 100] := rfl

end Draft

end BoundSql
