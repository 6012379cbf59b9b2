import BoundSql.Render.Basic

/-!
# Emission

The renderer that threads the list of bound values. A value is pushed onto the one list of
the whole statement at the moment at which its mark is written, and the number in the mark
is the length that the list has then. Operands are emitted in the order in which they are
read, errors end the emission where they are met, and a draft in place goes on with the
list of the statement around it.

`Draft.render` makes fragments instead, whose marks are numbered when the whole statement is
there. `Draft.emittedWithin_eq` says that both have the same outcome for every draft, dialect
and list of values, so whatever is said of the one holds of the other.
-/

set_option autoImplicit false

namespace BoundSql

/-- A computation that writes SQL and pushes the values for its marks onto a list. -/
abbrev Emission := StateT (List Value) (Except Fault)

/-- Pushes a value and gives its number, counted from one. -/
def pushValue (v : Value) : Emission Nat :=
  modifyGet fun params => ((params ++ [v]).length, params ++ [v])

/-- The number of a value is its place in the list. -/
@[simp] theorem pushValue_run (v : Value) (params : List Value) :
    pushValue v params = .ok (params.length + 1, params ++ [v]) :=
  congrArg (fun index => Except.ok (index, params ++ [v])) List.length_append

/-- Pushes a value and gives its mark. -/
def Placeholder.bind (style : Placeholder) (v : Value) : Emission Text := do
  let index ← pushValue v
  return style.token index

/-! ## Texts -/

/-- The text in parentheses. -/
def Text.parenthesized (t : Text) : Text := "(" ++ t ++ ")"

/-- A value in its place: its mark, or in parentheses a text that begins like a query. -/
def Value.emit (style : Placeholder) : Value → Emission Text
  | .text t => if t.isQuery then return t.parenthesized else style.bind (.text t)
  | v => style.bind v

/-- What is assigned to a column: a mark, or the bare name of another column. -/
def Assignment.emit (style : Placeholder) : Assignment → Emission Text
  | .value v => style.bind v
  | .column name => return name

/-- A term of two operands with the symbol between them. -/
def Operator.infixText (op : Operator) (source destination : Text) : Text :=
  source ++ " " ++ op.symbol ++ " " ++ destination

/-- A term of one operand with what follows it. -/
def Operator.suffixText (op : Operator) (lex : Lexicon) (source : Text) : Text :=
  match op with
  | .isEmpty | .isNotEmpty => op.infixText source [lex.quotes.value, lex.quotes.value]
  | _ => source ++ " " ++ op.symbol

/-- The term for an empty list: nothing is among no values, and everything is not. -/
def Operator.emptyListText : Operator → Text
  | .notIn => "1=1"
  | _ => "1=0"

/-- The conjunction of a comparison, if it has one, and its term. -/
def Comparison.texts (c : Comparison) (term : Text) : List Text :=
  match c.conjunction with
  | some conjunction => [conjunction.keyword, term]
  | none => [term]

/-- A condition among several filters is enclosed if it has an `OR`. -/
def Condition.enclosedText (w : Condition) (several : Bool) (sql : Text) : Text :=
  if several && w.hasOr then sql.parenthesized else sql

/-- A keyword and what it governs, or nothing where there is nothing to govern. -/
def clauseTexts (keyword separator : Text) (parts : List Text) : List Text :=
  if parts.isEmpty then [] else [keyword, Text.joined separator parts]

/-- The selected columns, or a star for all of them. -/
def Scope.selectText (scope : Scope) (columns : List Text) : Text :=
  match scope.listItems columns with
  | [] => "*"
  | items => Text.joined ", " items

/-- The LIMIT clause; the number is written out and not pushed. -/
def limitTexts : Option Nat → List Text
  | none => []
  | some n => ["LIMIT " ++ Text.ofNat n]

/-! ## The renderer -/

mutual

/-- An operand at a side of a comparison. -/
def Operand.emit (style : Placeholder) (scope : Scope) (position : Position) :
    Operand → Emission Text
  | .column name qualifier => return scope.column position name qualifier
  | .value v => v.emit style
  | .list items => do
    let parts ← emitItems style scope position items
    return (Text.joined ", " parts).parenthesized
  | .query q => do
    let sql ← q.emit style scope.lexicon
    return sql.parenthesized
termination_by structural o => o

/-- The operands of a list in order. -/
def emitItems (style : Placeholder) (scope : Scope) (position : Position) :
    List Operand → Emission (List Text)
  | [] => return []
  | o :: rest => do
    let first ← o.emit style scope position
    let later ← emitItems style scope position rest
    return first :: later

/-- A query within a statement, without parentheses. -/
def Query.emit (style : Placeholder) (lex : Lexicon) : Query → Emission Text
  | .text sql => return sql
  | .drafted d => d.emit style lex

/-- The source of a comparison, which has to be there. -/
def emitSource (style : Placeholder) (scope : Scope) (op : Operator) :
    Option Operand → Emission Text
  | none => throw (.missingOperand (.noSource op))
  | some o => o.emit style scope .source

/-- A comparison with one operand. `EXISTS` takes a query and no source. -/
def emitBinary (style : Placeholder) (scope : Scope) (op : Operator) (source : Emission Text) :
    Option Operand → Emission Text
  | none => throw (.missingOperand (.noDestination op))
  | some d =>
    if op = .exists_ then
      if d.isQuery then do
        let sql ← d.emit style scope .destination
        return "EXISTS " ++ sql
      else throw (.missingOperand .existsWithoutQuery)
    else do
      let left ← source
      let right ← d.emit style scope .destination
      return op.infixText left right

/-- A comparison with a list, where the empty list does without the source and a query
alone in a list without the parentheses of the list. -/
def emitAmong (style : Placeholder) (scope : Scope) (op : Operator) (source : Emission Text) :
    Option Operand → Emission Text
  | none => throw (.missingOperand (.noDestination op))
  | some (.list []) => return op.emptyListText
  | some (.list [only]) =>
    if only.isQuery then do
      let left ← source
      let right ← only.emit style scope .destination
      return op.infixText left right
    else do
      let left ← source
      let right ← (Operand.list [only]).emit style scope .destination
      return op.infixText left right
  | some d => do
    let left ← source
    let right ← d.emit style scope .destination
    return op.infixText left (if d.isList || d.isQuery then right else right.parenthesized)

/-- A comparison with two bounds. -/
def emitBetween (style : Placeholder) (scope : Scope) (op : Operator) (source : Emission Text) :
    Option Operand → Emission Text
  | none => throw (.missingOperand (.noDestination op))
  | some (.list [low, high]) => do
    let left ← source
    let low ← low.emit style scope .destination
    let high ← high.emit style scope .destination
    return op.infixText left (low ++ " AND " ++ high)
  | some _ => throw (.missingOperand .wrongBounds)

/-- One comparison, by the number of operands that its operator takes. -/
def Comparison.emit (style : Placeholder) (scope : Scope) : Comparison → Emission Text
  | ⟨_, source, op, destination⟩ =>
    match op.arity with
    | .unary => do
      let left ← emitSource style scope op source
      return op.suffixText scope.lexicon left
    | .binary => emitBinary style scope op (emitSource style scope op source) destination
    | .list => emitAmong style scope op (emitSource style scope op source) destination
    | .range => emitBetween style scope op (emitSource style scope op source) destination

/-- The comparisons of a condition with the conjunctions between them. -/
def emitTerms (style : Placeholder) (scope : Scope) : List Comparison → Emission (List Text)
  | [] => return []
  | c :: rest => do
    let first ← c.emit style scope
    let later ← emitTerms style scope rest
    return c.texts first ++ later

/-- A condition, once nothing speaks against it. -/
def Condition.emit (style : Placeholder) (scope : Scope) : Condition → Emission Text
  | ⟨comparisons, pending, fault⟩ =>
    match Condition.objection? ⟨comparisons, pending, fault⟩ with
    | some objection => throw objection
    | none => do
      let terms ← emitTerms style scope comparisons
      return Text.joined " " terms

/-- A join with its qualifier, which has to be there and not to be empty. -/
def Join.emit (style : Placeholder) (scope : Scope) : Join → Emission Text
  | ⟨ref, _, none⟩ => throw (.missingOperand (.noQualifier (ref.declared scope).1))
  | ⟨ref, kind, some condition⟩ => do
    let (table, aliasName) := ref.declared scope
    let sql ← condition.emit style (scope.forJoin aliasName)
    if sql.isEmpty then throw (.missingOperand (.emptyQualifier table))
    else return kind.head table aliasName ++ " ON " ++ sql.parenthesized

/-- The joins of a selection in order. -/
def emitJoins (style : Placeholder) (scope : Scope) : List Join → Emission (List Text)
  | [] => return []
  | j :: rest => do
    let first ← j.emit style scope
    let later ← emitJoins style scope rest
    return first :: later

/-- The filters in order without those that are written as nothing. -/
def emitFilters (style : Placeholder) (scope : Scope) (several : Bool) :
    List Condition → Emission (List Text)
  | [] => return []
  | w :: rest => do
    let sql ← w.emit style scope
    let later ← emitFilters style scope several rest
    return if sql.isEmpty then later else w.enclosedText several sql :: later

/-- The HAVING clause, left out where its condition is written as nothing. -/
def emitHaving (style : Placeholder) (scope : Scope) :
    Option Condition → Emission (List Text)
  | none => return []
  | some w => do
    let sql ← w.emit style scope
    return if sql.isEmpty then [] else ["HAVING", sql]

/-- What a selection reads from, with its keyword. -/
def emitFrom (style : Placeholder) (lex : Lexicon) : Option Source → Emission (List Text)
  | none => return []
  | some (.table name aliasName) => return ["FROM", tableSource name aliasName]
  | some (.derived d) => do
    let sql ← d.emit style lex
    return ["FROM", sql.parenthesized ++ " AS " ++ d.aliasName.getD "not_specified"]

/-- The appended queries in order, each behind its keyword. -/
def emitUnions (style : Placeholder) (lex : Lexicon) : List UnionArm → Emission (List Text)
  | [] => return []
  | ⟨query, keepsAll⟩ :: rest => do
    let first ← query.emit style lex
    let later ← emitUnions style lex rest
    return unionKeyword keepsAll :: first :: later

/-- The table expressions of a WITH, each name with its body. -/
def emitExpressions (style : Placeholder) (lex : Lexicon) :
    List Text → List Query → Emission (List Text)
  | name :: names, q :: bodies => do
    let sql ← q.emit style lex
    let later ← emitExpressions style lex names bodies
    return (name ++ " AS " ++ sql.parenthesized) :: later
  | _, _ => return []

/-- A selection. Ordering and limit come last, behind the appended queries. -/
def Selection.emit (style : Placeholder) (scope : Scope) : Selection → Emission Text
  | ⟨columns, source, joins, filters, group, having, order, limit, unions⟩ => do
    let readFrom ← emitFrom style scope.lexicon source
    let joined ← emitJoins style scope joins
    let kept ← emitFilters style scope (1 < filters.length) filters
    let having ← emitHaving style scope having
    let appended ← emitUnions style scope.lexicon unions
    return Text.joined " "
      ("SELECT" :: scope.selectText columns :: (readFrom ++ joined ++
        clauseTexts "WHERE" " AND " kept ++
        clauseTexts "GROUP BY" ", " (scope.listItems group) ++ having ++ appended ++
        clauseTexts "ORDER BY" ", " (scope.listItems order) ++ limitTexts limit))

/-- The filters of a mutation as a clause. -/
def Mutation.emitWhere (style : Placeholder) (scope : Scope) : Mutation → Emission (List Text)
  | ⟨_, _, filters⟩ => do
    let kept ← emitFilters style scope (1 < filters.length) filters
    return clauseTexts "WHERE" " AND " kept

/-- A WITH: as many bodies as names, and the inner SELECT behind them. -/
def WithClause.emit (style : Placeholder) (scope : Scope) : WithClause → Emission Text
  | ⟨names, bodies, recursive, hasSelect, selection⟩ =>
    if names.length ≠ bodies.length then
      throw (.statementState (.unpairedBodies names.length bodies.length))
    else if !hasSelect then throw (.statementState .withoutInnerSelect)
    else do
      let expressions ← emitExpressions style scope.lexicon names bodies
      let inner ← selection.emit style scope
      let parts : List Text := [Text.joined ", " expressions, inner]
      return Text.joined " " ("WITH" :: if recursive then "RECURSIVE" :: parts else parts)

/-- A statement in its scope. The assignments of an UPDATE come before its filters. -/
def Statement.emit (style : Placeholder) (scope : Scope) : Statement → Emission Text
  | .empty => throw (.statementState .noVerb)
  | .select s => s.emit style scope
  | .insert m =>
    if m.assignments.isEmpty then throw (.statementState (.insertWithoutValues m.target))
    else do
      let values ← m.assignments.mapM fun a => a.2.emit style
      return "INSERT INTO " ++ m.writtenTarget scope.lexicon ++ " " ++
        (Text.joined ", " (m.assignments.map Prod.fst)).parenthesized ++ " VALUES " ++
        (Text.joined ", " values).parenthesized
  | .update m =>
    if m.assignments.isEmpty then throw (.statementState (.updateWithoutValues m.target))
    else do
      let settings ← m.assignments.mapM fun a => do
        let assigned ← a.2.emit style
        return (a.1 ++ " = " ++ assigned : Text)
      let filters ← m.emitWhere style scope
      return Text.joined " "
        ("UPDATE" :: m.writtenTarget scope.lexicon :: "SET" :: Text.joined ", " settings :: filters)
  | .delete m => do
    let filters ← m.emitWhere style scope
    return Text.joined " " ("DELETE FROM" :: m.writtenTarget scope.lexicon :: filters)
  | .with_ w => w.emit style scope

/-- A draft with a lexicon: its first mistake, or its statement in its own tables. -/
def Draft.emit (style : Placeholder) (lex : Lexicon) : Draft → Emission Text
  | ⟨_, tables, statement, _, none, _⟩ => statement.emit style (.ofStatement lex tables)
  | ⟨_, _, _, _, some fault, _⟩ => throw fault

end

/-! ## Finished SQL -/

/-- The SQL that is emitted behind values already bound, and all values bound then. -/
def Emission.finished (prior : List Value) (m : Emission Text) : Except Fault Rendered :=
  (m prior).map fun out => ⟨out.1, out.2⟩

/-- An operand that is emitted behind values already bound. -/
def Operand.emitted (style : Placeholder) (scope : Scope) (position : Position)
    (prior : List Value) (o : Operand) : Except Fault Rendered :=
  (o.emit style scope position).finished prior

/-- A condition that is emitted by itself, in the scope of a statement over some tables. -/
def Condition.emitted (dialect : Dialect) (tables : Registry) (w : Condition) :
    Except Fault Rendered :=
  (w.emit dialect.placeholder (.ofStatement dialect.toLexicon tables)).finished []

/-- A join that is emitted by itself, in the scope of a statement over some tables. -/
def Join.emitted (dialect : Dialect) (tables : Registry) (j : Join) : Except Fault Rendered :=
  (j.emit dialect.placeholder (.ofStatement dialect.toLexicon tables)).finished []

/-- The statement of a draft, emitted in a given dialect behind values already bound. -/
def Draft.emittedWithin (dialect : Dialect) (prior : List Value) (d : Draft) :
    Except Fault Rendered :=
  (d.emit dialect.placeholder dialect.toLexicon).finished prior

/-- The statement of a draft, emitted in its own dialect from an empty list of values. -/
def Draft.emitted (d : Draft) : Except Fault Rendered := d.emittedWithin d.dialect []

end BoundSql
