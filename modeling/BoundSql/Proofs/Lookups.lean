import BoundSql.Render.Basic

/-!
# What rendering looks up

Of the tables in its scope a statement looks up the alias of a given table and the alias of the
origin, and nothing else. Two scopes with the same lexicon and the same answers to these
lookups are alike (`Scope.Alike`), and everything is rendered alike in them, down to the faults
(`Statement.render_congr`). The entries may be in any order.
-/

set_option autoImplicit false

namespace BoundSql

/-- Both scopes have the same lexicon and answer every lookup in the same way. -/
structure Scope.Alike (s t : Scope) : Prop where
  lexicon : s.lexicon = t.lexicon
  source : s.source = t.source
  destination : s.destination = t.destination
  origin : s.tables.originAlias? = t.tables.originAlias?
  aliasOf : ∀ table, s.tables.aliasOf? table = t.tables.aliasOf? table

variable {s t : Scope}

/-! ## Names -/

/-- A column is written alike: its qualifier is looked up, and its default alias is among what
agrees. -/
theorem Scope.Alike.column (h : s.Alike t) (position : Position) (name : Text)
    (qualifier : Option Text) :
    s.column position name qualifier = t.column position name qualifier := by
  have default_ : s.defaultAlias position = t.defaultAlias position := by
    cases position with
    | source => exact h.source
    | destination => exact h.destination
  -- A given qualifier is looked up by table; without one the name alone decides.
  cases qualifier with
  | some qualifier => simp only [Scope.column, Registry.resolve, h.lexicon, h.aliasOf]
  | none => simp only [Scope.column, h.lexicon, default_]

/-- The columns of a list are written alike, since only the origin is looked up for them. -/
theorem Scope.Alike.listItems (h : s.Alike t) (columns : List Text) :
    s.listItems columns = t.listItems columns := by
  have item : s.listItem = t.listItem := by
    funext item
    -- Whether a name is plain is a question for the lexicon alone.
    have plain : s.isPlainName item = t.isPlainName item := by
      rw [Scope.isPlainName, Scope.isPlainName, h.lexicon]
    rw [Scope.listItem, Scope.listItem, h.origin, plain, h.lexicon]
  rw [Scope.listItems, Scope.listItems, item, h.lexicon]

/-- So are the selected columns. -/
theorem Scope.Alike.selectList (h : s.Alike t) (columns : List Text) :
    s.selectList columns = t.selectList columns := by
  rw [Scope.selectList, Scope.selectList, h.listItems]

/-- And so is a clause that lists columns. -/
theorem Scope.Alike.listClause (h : s.Alike t) (keyword : Text) (columns : List Text) :
    s.listClause keyword columns = t.listClause keyword columns := by
  rw [Scope.listClause, Scope.listClause, h.listItems]

/-- A join declares the same table and the same alias. -/
theorem Scope.Alike.declared (h : s.Alike t) (ref : TableRef) :
    ref.declared s = ref.declared t := by
  simp only [TableRef.declared, h.lexicon, h.aliasOf]

/-- A join is written in scopes that are alike again. -/
theorem Scope.Alike.forJoin (h : s.Alike t) (joined : Text) :
    (s.forJoin joined).Alike (t.forJoin joined) :=
  ⟨h.lexicon, rfl, h.origin, h.origin, h.aliasOf⟩

/-! ## Operands and conditions -/

mutual

/-- An operand is rendered alike. A draft in it has tables of its own, and only the lexicon of the
scope reaches it. -/
theorem Operand.render_congr (h : s.Alike t) (position : Position) :
    ∀ o : Operand, o.render s position = o.render t position
  | .column name qualifier => by
    rw [Operand.render, Operand.render, h.column]
  | .value _ => rfl
  | .list items => by
    rw [Operand.render, Operand.render, items_congr h position items]
  | .query q => by
    rw [Operand.render, Operand.render, h.lexicon]
termination_by structural o => o

/-- The items of a list are rendered alike, one by one. -/
theorem items_congr (h : s.Alike t) (position : Position) :
    ∀ items : List Operand, renderItems s position items = renderItems t position items
  | [] => rfl
  | o :: rest => by
    rw [renderItems, renderItems, o.render_congr h position, items_congr h position rest]

end

/-- A source is rendered alike, or is missing from both. -/
theorem source_congr (h : s.Alike t) (op : Operator) (source : Option Operand) :
    renderSource s op source = renderSource t op source := by
  cases source with
  | none => rfl
  | some o => exact o.render_congr h .source

/-- The parts of a destination are rendered alike. -/
theorem destination_congr (h : s.Alike t) (destination : Option Operand) :
    renderDestination s destination = renderDestination t destination := by
  cases destination with
  | none => rfl
  | some o =>
    -- Only a list has parts of its own; any other operand is the one part.
    cases o with
    | list items => exact items_congr h .destination items
    | column | value | query => simp only [renderDestination, Operand.render_congr h]

/-- The form of a comparison does not depend on the scope, and its operands agree. -/
theorem Comparison.render_congr (h : s.Alike t) (c : Comparison) : c.render s = c.render t := by
  rcases c with ⟨conjunction, source, op, destination⟩
  simp only [Comparison.render, h.lexicon, source_congr h, destination_congr h]

/-- The comparisons of a condition are rendered alike, one by one. -/
theorem terms_congr (h : s.Alike t) (comparisons : List Comparison) :
    renderTerms s comparisons = renderTerms t comparisons := by
  induction comparisons with
  | nil => rfl
  | cons c rest ih => rw [renderTerms, renderTerms, c.render_congr h, ih]

/-- A condition has the same objection in both scopes, or the same terms. -/
theorem Condition.render_congr (h : s.Alike t) (w : Condition) : w.render s = w.render t := by
  rcases w with ⟨comparisons, pending, fault⟩
  simp only [Condition.render, terms_congr h]

/-! ## Clauses -/

/-- A join declares the same alias in both scopes, and so its qualifier has scopes that agree
again. -/
theorem Join.render_congr (h : s.Alike t) (j : Join) : j.render s = j.render t := by
  rcases j with ⟨ref, kind, qualifier⟩
  cases qualifier with
  | none => rw [Join.render, Join.render, h.declared]
  | some w => simp only [Join.render, h.declared, w.render_congr (h.forJoin _)]

/-- The joins of a selection are rendered alike, one by one. -/
theorem joins_congr (h : s.Alike t) (joins : List Join) :
    renderJoins s joins = renderJoins t joins := by
  induction joins with
  | nil => rfl
  | cons j rest ih => rw [renderJoins, renderJoins, j.render_congr h, ih]

/-- The same filters are left out, and the others are rendered alike. -/
theorem filters_congr (h : s.Alike t) (several : Bool) (filters : List Condition) :
    renderFilters s several filters = renderFilters t several filters := by
  induction filters with
  | nil => rfl
  | cons w rest ih => rw [renderFilters, renderFilters, w.render_congr h, ih]

/-- A HAVING condition is rendered alike. -/
theorem having_congr (h : s.Alike t) (having : Option Condition) :
    renderHaving s having = renderHaving t having := by
  cases having with
  | none => rfl
  | some w => exact w.render_congr h

/-! ## Statements -/

/-- A selection is rendered alike, clause by clause. -/
theorem Selection.render_congr (h : s.Alike t) (selection : Selection) :
    selection.render s = selection.render t := by
  rcases selection with ⟨columns, source, joins, filters, group, having, order, limit, unions⟩
  simp only [Selection.render, h.lexicon, joins_congr h, filters_congr h, having_congr h,
    h.selectList, h.listClause]

/-- The filters of a mutation are rendered alike. -/
theorem Mutation.renderWhere_congr (h : s.Alike t) (m : Mutation) :
    m.renderWhere s = m.renderWhere t := by
  rcases m with ⟨target, assignments, filters⟩
  rw [Mutation.renderWhere, Mutation.renderWhere, filters_congr h]

/-- The bodies of a WITH are rendered with the lexicon alone, and its selection alike. -/
theorem WithClause.render_congr (h : s.Alike t) (w : WithClause) : w.render s = w.render t := by
  rcases w with ⟨names, bodies, recursive, hasSelect, selection⟩
  rw [WithClause.render, WithClause.render, h.lexicon, selection.render_congr h]

/-- A statement is rendered alike in scopes that are alike. -/
theorem Statement.render_congr (h : s.Alike t) (statement : Statement) :
    statement.render s = statement.render t := by
  cases statement with
  | empty => rfl
  | select selection => exact selection.render_congr h
  | insert m => simp only [Statement.render, h.lexicon]
  | update m => simp only [Statement.render, h.lexicon, m.renderWhere_congr h]
  | delete m => simp only [Statement.render, h.lexicon, m.renderWhere_congr h]
  | with_ w => exact w.render_congr h

/-- In registries with the same origin, the same joined tables and the same entries, the scopes
of statements are alike. -/
theorem Scope.alike_ofStatement {r r' : Registry} (lex : Lexicon) (origin : r.origin? = r'.origin?)
    (joins : r.joins = r'.joins) (found : ∀ table, r.find? table = r'.find? table) :
    (Scope.ofStatement lex r).Alike (.ofStatement lex r') := by
  have originAlias : r.originAlias? = r'.originAlias? := by
    rw [Registry.originAlias?, Registry.originAlias?, origin]
  refine ⟨rfl, originAlias, ?_, originAlias, fun table => ?_⟩
  · show r.joinAlias? = r'.joinAlias?
    rw [Registry.joinAlias?, Registry.joinAlias?, joins]
  · show r.aliasOf? table = r'.aliasOf? table
    rw [Registry.aliasOf?, Registry.aliasOf?, found]

end BoundSql
