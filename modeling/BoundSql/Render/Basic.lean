import BoundSql.Render.Clause
import BoundSql.Render.Form

/-!
# Rendering

Operands, conditions, joins and statements as fragments of SQL. A statement is
rendered with the lexicon of the outermost one, and a draft within it with the
tables of its own. The first fault met from left to right is the outcome.
-/

set_option autoImplicit false

namespace BoundSql

open Fragment (plain)

mutual

/-- An operand at a side of a comparison. -/
def Operand.render (scope : Scope) (position : Position) : Operand → Except Fault Fragment
  | .column name qualifier => .ok (plain (scope.column position name qualifier))
  | .value v => .ok v.fragment
  | .list items => do
    let parts ← renderItems scope position items
    return (Fragment.joined ", " parts).parenthesized
  | .query q => do
    let sql ← q.render scope.lexicon
    return sql.parenthesized
termination_by structural o => o

/-- The operands of a list in order. -/
def renderItems (scope : Scope) (position : Position) :
    List Operand → Except Fault (List Fragment)
  | [] => .ok []
  | o :: rest => do
    let first ← o.render scope position
    let later ← renderItems scope position rest
    return first :: later

/-- A query within a statement, without parentheses. -/
def Query.render (lex : Lexicon) : Query → Except Fault Fragment
  | .text sql => .ok (plain sql)
  | .drafted d => d.render lex

/-- The source of a comparison, which has to be there. -/
def renderSource (scope : Scope) (op : Operator) : Option Operand → Except Fault Fragment
  | none => .error (.missingOperand (.noSource op))
  | some o => o.render scope .source

/-- The operands of a destination: the items of a list, and else the one operand. -/
def renderDestination (scope : Scope) : Option Operand → Except Fault (List Fragment)
  | none => .ok []
  | some (.list items) => renderItems scope .destination items
  | some o => do
    let only ← o.render scope .destination
    return [only]

/-- One comparison. -/
def Comparison.render (scope : Scope) : Comparison → Except Fault Fragment
  | ⟨_, source, op, destination⟩ => do
    match ← op.form destination with
    | .constant => return op.onEmptyList
    | .suffixed =>
      let left ← renderSource scope op source
      return op.suffixed scope.lexicon left
    | .exists_ =>
      let parts ← renderDestination scope destination
      return plain "EXISTS " ++ Form.exists_.right parts
    | form =>
      let left ← renderSource scope op source
      let parts ← renderDestination scope destination
      return op.infixed left (form.right parts)

/-- The comparisons of a condition with the conjunctions between them. -/
def renderTerms (scope : Scope) : List Comparison → Except Fault (List Fragment)
  | [] => .ok []
  | c :: rest => do
    let first ← c.render scope
    let later ← renderTerms scope rest
    return c.parts first ++ later

/-- A condition; it is empty exactly when it has no comparisons. -/
def Condition.render (scope : Scope) : Condition → Except Fault Fragment
  | ⟨comparisons, pending, fault⟩ =>
    match Condition.objection? ⟨comparisons, pending, fault⟩ with
    | some objection => .error objection
    | none => do
      let terms ← renderTerms scope comparisons
      return Fragment.joined " " terms

/-- A join with its qualifier, which has to be there and not to be empty. -/
def Join.render (scope : Scope) : Join → Except Fault Fragment
  | ⟨ref, _, none⟩ => .error (.missingOperand (.noQualifier (ref.declared scope).1))
  | ⟨ref, kind, some condition⟩ => do
    let (table, aliasName) := ref.declared scope
    let sql ← condition.render (scope.forJoin aliasName)
    if sql.isEmpty then .error (.missingOperand (.emptyQualifier table))
    else return plain (kind.head table aliasName ++ " ON ") ++ sql.parenthesized

/-- The joins of a selection in order. -/
def renderJoins (scope : Scope) : List Join → Except Fault (List Fragment)
  | [] => .ok []
  | j :: rest => do
    let first ← j.render scope
    let later ← renderJoins scope rest
    return first :: later

/-- The filters that have comparisons, in order. -/
def renderFilters (scope : Scope) (several : Bool) :
    List Condition → Except Fault (List Fragment)
  | [] => .ok []
  | w :: rest => do
    let first ← w.render scope
    let later ← renderFilters scope several rest
    return if first.isEmpty then later else w.enclosed several first :: later

/-- The HAVING condition, empty if there is none. -/
def renderHaving (scope : Scope) : Option Condition → Except Fault Fragment
  | none => .ok []
  | some w => w.render scope

/-- What a selection reads from, with its keyword. -/
def renderFrom (lex : Lexicon) : Option Source → Except Fault (List Fragment)
  | none => .ok []
  | some (.table name aliasName) => .ok [plain "FROM", plain (tableSource name aliasName)]
  | some (.derived d) => do
    let sql ← d.render lex
    return [plain "FROM", derivedSource sql d.aliasName]

/-- The appended queries in order, each behind its keyword. -/
def renderUnions (lex : Lexicon) : List UnionArm → Except Fault (List Fragment)
  | [] => .ok []
  | ⟨query, keepsAll⟩ :: rest => do
    let first ← query.render lex
    let later ← renderUnions lex rest
    return plain (unionKeyword keepsAll) :: first :: later

/-- The bodies of the table expressions of a WITH. -/
def renderBodies (lex : Lexicon) : List Query → Except Fault (List Fragment)
  | [] => .ok []
  | q :: rest => do
    let first ← q.render lex
    let later ← renderBodies lex rest
    return first :: later

/-- A selection. Ordering and limit come last, behind the appended queries. -/
def Selection.render (scope : Scope) : Selection → Except Fault Fragment
  | ⟨columns, source, joins, filters, group, having, order, limit, unions⟩ => do
    let readFrom ← renderFrom scope.lexicon source
    let joined ← renderJoins scope joins
    let kept ← renderFilters scope (1 < filters.length) filters
    let having ← renderHaving scope having
    let appended ← renderUnions scope.lexicon unions
    return Fragment.joined " "
      ([plain "SELECT", scope.selectList columns] ++ readFrom ++ joined ++
        clauseOf "WHERE" " AND " kept ++ scope.listClause "GROUP BY" group ++
        clauseOf "HAVING" " " ([having].filter fun sql => !sql.isEmpty) ++ appended ++
        scope.listClause "ORDER BY" order ++ limitClause limit)

/-- The filters of a mutation as a clause. -/
def Mutation.renderWhere (scope : Scope) : Mutation → Except Fault (List Fragment)
  | ⟨_, _, filters⟩ => do
    let kept ← renderFilters scope (1 < filters.length) filters
    return clauseOf "WHERE" " AND " kept

/-- A WITH: as many bodies as names, and the inner SELECT behind them. -/
def WithClause.render (scope : Scope) : WithClause → Except Fault Fragment
  | ⟨names, bodies, recursive, hasSelect, selection⟩ =>
    if names.length ≠ bodies.length then
      .error (.statementState (.unpairedBodies names.length bodies.length))
    else if !hasSelect then .error (.statementState .withoutInnerSelect)
    else do
      let written ← renderBodies scope.lexicon bodies
      let inner ← selection.render scope
      return Fragment.joined " "
        (plain "WITH" :: (if recursive then [plain "RECURSIVE"] else []) ++
          [tableExpressions names written, inner])

/-- A statement in its scope. -/
def Statement.render (scope : Scope) : Statement → Except Fault Fragment
  | .empty => .error (.statementState .noVerb)
  | .select s => s.render scope
  | .insert m =>
    if m.assignments.isEmpty then .error (.statementState (.insertWithoutValues m.target))
    else .ok (m.insertion scope.lexicon)
  | .update m =>
    if m.assignments.isEmpty then .error (.statementState (.updateWithoutValues m.target))
    else do
      let filters ← m.renderWhere scope
      return Fragment.joined " "
        ([plain "UPDATE", plain (m.writtenTarget scope.lexicon), plain "SET", m.settings] ++ filters)
  | .delete m => do
    let filters ← m.renderWhere scope
    return Fragment.joined " "
      ([plain "DELETE FROM", plain (m.writtenTarget scope.lexicon)] ++ filters)
  | .with_ w => w.render scope

/-- A draft with a lexicon: its first mistake, or its statement in its own tables. -/
def Draft.render (lex : Lexicon) : Draft → Except Fault Fragment
  | ⟨_, tables, statement, _, none, _⟩ => statement.render (.ofStatement lex tables)
  | ⟨_, _, _, _, some fault, _⟩ => .error fault

end

/-! ## Finished SQL -/

/-- An operand in a scope, behind values that are already bound. -/
def Operand.rendered (style : Placeholder) (scope : Scope) (position : Position)
    (prior : List Value) (o : Operand) : Except Fault Rendered :=
  (o.render scope position).map (Fragment.rendered style prior)

/-- A condition by itself, in the scope of a statement over some tables. -/
def Condition.rendered (dialect : Dialect) (tables : Registry) (w : Condition) :
    Except Fault Rendered :=
  (w.render (.ofStatement dialect.toLexicon tables)).map
    (Fragment.rendered dialect.placeholder [])

/-- A join by itself, in the scope of a statement over some tables. -/
def Join.rendered (dialect : Dialect) (tables : Registry) (j : Join) : Except Fault Rendered :=
  (j.render (.ofStatement dialect.toLexicon tables)).map
    (Fragment.rendered dialect.placeholder [])

/-- The statement of a draft in a given dialect, behind values that are already bound. -/
def Draft.renderedWithin (dialect : Dialect) (prior : List Value) (d : Draft) :
    Except Fault Rendered :=
  (d.render dialect.toLexicon).map (Fragment.rendered dialect.placeholder prior)

/-- The statement of a draft in its own dialect. -/
def Draft.rendered (d : Draft) : Except Fault Rendered := d.renderedWithin d.dialect []

end BoundSql
