import BoundSql.Proofs.Clauses

/-!
# Everything rendered is assembled

`Draft.yields_assembled` is the one induction over the syntax of statements: whatever is
rendered for a draft is assembled from its ingredients, each literal and each nested
draft once and in order. The same is said of every kind of syntax on the way, since an
operand may hold a draft whose conditions hold operands again.
-/

set_option autoImplicit false

namespace BoundSql

open Fragment (plain)

variable {lex : Lexicon} {rule : TextRule lex}

/-- Registered names have no place of their own in the SQL. -/
@[simp] theorem TableRef.placed_ingredients (ref : TableRef) : placed ref.ingredients = [] := by
  cases ref <;> rfl

/-- Nor has anything else in the tables of a draft. -/
@[simp] theorem Registry.placed_ingredients (r : Registry) : placed r.ingredients = [] := by
  simp [placed, Registry.ingredients, List.filter_map, Function.comp_def, Ingredient.isPlaced]

/-- A condition without comparisons has nothing to write, even if an operand waits in it. -/
theorem Condition.ingredients_of_isEmpty {w : Condition} (h : w.comparisons.isEmpty = true) :
    w.ingredients = [] := by
  rcases w with ⟨comparisons, pending, fault⟩
  cases comparisons with
  | nil => rfl
  | cons c rest => cases h

/-- As many bodies are rendered as there are, so that each is met by its name. -/
theorem length_of_renderBodies (lex : Lexicon) (bodies : List Query) :
    Yields (renderBodies lex bodies) fun written => written.length = bodies.length := by
  induction bodies with
  | nil => exact yields_ok rfl
  | cons q rest ih =>
    apply yields_bind
    intro first _
    apply yields_bind
    intro later hlater
    apply yields_ok
    rw [List.length_cons, List.length_cons, ih later hlater]

mutual

/-- An operand at either side. A column is a leaf, and a query brings the assembly of its draft. -/
theorem Operand.yields_assembled {scope : Scope} (hs : rule.CoversScope scope)
    (position : Position) : ∀ o : Operand, rule.Covers o.ingredients →
      Yields (o.render scope position) (Assembled rule (placed o.ingredients))
  | .column name qualifier, h => by
    simp only [Operand.ingredients, TextRule.covers_text, TextRule.covers_map_text] at h
    simp only [Operand.render, Operand.ingredients, placed_text, placed_map_text]
    exact yields_ok (Scope.column_assembled hs position h.1 (by simpa using h.2))
  | .value v, h => yields_ok (v.assembled h)
  | .list items, h => by
    -- The parentheses are a node of the grammar, around the items as one row.
    apply yields_bind
    intro parts hparts
    apply yields_ok
    have all := yields_items hs position items h parts hparts
    exact .enclosed (all.joined (by decide))
  | .query q, h => by
    apply yields_bind
    intro sql hsql
    -- The query is rendered with the lexicon of the scope, which is the one of the rule.
    rw [hs.lexicon] at hsql
    apply yields_ok
    exact .enclosed (q.yields_assembled h sql hsql)
termination_by structural o => o

/-- The items of a list, whose literals follow one another in the order of the items. -/
theorem yields_items {scope : Scope} (hs : rule.CoversScope scope) (position : Position) :
    ∀ items : List Operand, rule.Covers (itemIngredients items) →
      Yields (renderItems scope position items) (AssembledAll rule (placed (itemIngredients items)))
  | [], _ => yields_ok .nil
  | o :: rest, h => by
    simp only [itemIngredients, TextRule.covers_append, placed_append] at h ⊢
    apply yields_bind
    intro first hfirst
    apply yields_bind
    intro later hlater
    apply yields_ok
    have head := o.yields_assembled hs position h.1 first hfirst
    exact .cons head (yields_items hs position rest h.2 later hlater)

/-- A given text is a leaf under its rule, and a draft is nested with the statement that it stands
for. -/
theorem Query.yields_assembled : ∀ q : Query, rule.Covers q.ingredients →
    Yields (q.render lex) (Assembled rule (placed q.ingredients))
  | .text _, h => yields_ok (.given (h _ _ List.mem_cons_self))
  | .drafted d, h => by
    simp only [Query.ingredients, TextRule.covers_draft, placed_draft] at h ⊢
    intro sql hsql
    exact .nested hsql (d.yields_assembled h sql hsql)

/-- A source that is there is an operand; one that is missing yields nothing. -/
theorem yields_source {scope : Scope} (hs : rule.CoversScope scope) (op : Operator) :
    ∀ source : Option Operand, rule.Covers (sideIngredients source) →
      Yields (renderSource scope op source) (Assembled rule (placed (sideIngredients source)))
  | none, _ => yields_error _
  | some o, h => o.yields_assembled hs .source h

/-- The parts of a destination, which are the items of a list or the one operand. -/
theorem yields_destination {scope : Scope} (hs : rule.CoversScope scope) :
    ∀ destination : Option Operand, rule.Covers (sideIngredients destination) →
      Yields (renderDestination scope destination)
        (AssembledAll rule (placed (sideIngredients destination)))
  | none, _ => yields_ok .nil
  | some (.list items), h => yields_items hs .destination items h
  -- Any operand but a list is the only one; its cases are those of the renderer.
  | some (.column name qualifier), h => by
    apply yields_bind
    intro only honly
    have head := (Operand.column name qualifier).yields_assembled hs .destination h only honly
    exact yields_ok (.single head)
  | some (.value v), h => by
    apply yields_bind
    intro only honly
    have head := (Operand.value v).yields_assembled hs .destination h only honly
    exact yields_ok (.single head)
  | some (.query q), h => by
    apply yields_bind
    intro only honly
    have head := (Operand.query q).yields_assembled hs .destination h only honly
    exact yields_ok (.single head)

/-- A comparison in each of its forms. The operands that a form leaves out are not among its
ingredients, and those that it has keep their order. -/
theorem Comparison.yields_assembled {scope : Scope} (hs : rule.CoversScope scope) :
    ∀ c : Comparison, rule.Covers c.ingredients →
      Yields (c.render scope) (Assembled rule (placed c.ingredients))
  | ⟨conjunction, source, op, destination⟩, h => by
    simp only [Comparison.ingredients] at h ⊢
    -- The form decides which operands are rendered, and the ingredients follow the form.
    cases hf : op.form destination with
    | error fault =>
      rw [Comparison.render_of_error hf]
      exact yields_error fault
    | ok form =>
      cases Operator.formOf hf with
      | constant omits =>
        rw [Comparison.render_of_constant hf, if_pos omits]
        exact yields_ok op.onEmptyList_assembled
      | suffixed unary =>
        have omits := op.omitsOperands_of_arity (by simp [unary]) destination
        have notExists : op ≠ .exists_ := by
          rintro rfl
          cases unary
        simp only [omits, notExists, unary, if_false, if_true, List.append_nil,
          Bool.false_eq_true] at h ⊢
        rw [Comparison.render_of_suffixed hf, hs.lexicon]
        apply yields_bind
        intro left hleft
        apply yields_ok
        exact op.suffixed_assembled (yields_source hs op source h left hleft)
      | exists_ same =>
        subst same
        have omits := Operator.exists_.omitsOperands_of_arity (by decide) destination
        have notUnary : Operator.exists_.arity ≠ .unary := by decide
        simp only [omits, notUnary, if_false, if_true, List.nil_append,
          Bool.false_eq_true] at h ⊢
        rw [Comparison.render_of_exists hf]
        apply yields_bind
        intro parts hparts
        apply yields_ok
        have query := Form.exists_.right_assembled
          (yields_destination hs destination h parts hparts)
        have keyword : Assembled rule [] (plain "EXISTS") := .word (by decide)
        have blank : isGlue " " = true := by decide
        have row := Assembled.spaced blank keyword query
        exact row
      | infix_ omits notUnary notExists two =>
        simp only [omits, notUnary, notExists, if_false, Bool.false_eq_true,
          TextRule.covers_append, placed_append] at h ⊢
        rw [Comparison.render_of_infix hf two]
        apply yields_bind
        intro left hleft
        apply yields_bind
        intro parts hparts
        apply yields_ok
        have onLeft := yields_source hs op source h.1 left hleft
        have onRight := form.right_assembled (yields_destination hs destination h.2 parts hparts)
        exact op.infixed_assembled onLeft onRight

/-- The terms of a condition with their conjunctions. -/
theorem yields_terms {scope : Scope} (hs : rule.CoversScope scope) :
    ∀ comparisons : List Comparison, rule.Covers (termIngredients comparisons) →
      Yields (renderTerms scope comparisons)
        (AssembledAll rule (placed (termIngredients comparisons)))
  | [], _ => yields_ok .nil
  | c :: rest, h => by
    simp only [termIngredients, TextRule.covers_append, placed_append] at h ⊢
    apply yields_bind
    intro term hterm
    apply yields_bind
    intro later hlater
    apply yields_ok
    have parts := c.parts_assembled (c.yields_assembled hs h.1 term hterm)
    exact parts.append (yields_terms hs rest h.2 later hlater)

/-- A condition is a row of terms, with one blank between each two parts. -/
theorem Condition.yields_assembled {scope : Scope} (hs : rule.CoversScope scope) :
    ∀ w : Condition, rule.Covers w.ingredients →
      Yields (w.render scope) (Assembled rule (placed w.ingredients))
  | ⟨comparisons, pending, fault⟩, h => by
    simp only [Condition.render]
    -- A condition with an objection yields nothing, and there is nothing to show for it.
    split
    · exact yields_error _
    · apply yields_bind
      intro terms hterms
      apply yields_ok
      exact (yields_terms hs comparisons h terms hterms).joined (by decide)

/-- A join binds what its qualifier binds, since the table and its alias are names. -/
theorem Join.yields_assembled {scope : Scope} (hs : rule.CoversScope scope) :
    ∀ j : Join, rule.Covers j.ingredients →
      Yields (j.render scope) (Assembled rule (placed j.ingredients))
  | ⟨_, _, none⟩, _ => yields_error _
  | ⟨ref, kind, some w⟩, h => by
    simp only [Join.ingredients, conditionIngredients, TextRule.covers_append] at h
    obtain ⟨table, aliasName⟩ := hs.declared h.1
    simp only [Join.render, Join.ingredients, conditionIngredients, placed_append,
      TableRef.placed_ingredients, List.nil_append]
    apply yields_bind
    intro sql hsql
    -- An empty qualifier is a mistake, so what is written has one.
    split
    · exact yields_error _
    · apply yields_ok
      have qualifier := w.yields_assembled (hs.forJoin aliasName) h.2 sql hsql
      exact join_assembled kind table aliasName qualifier

/-- The joins of a selection in order. -/
theorem yields_joins {scope : Scope} (hs : rule.CoversScope scope) :
    ∀ joins : List Join, rule.Covers (joinIngredients joins) →
      Yields (renderJoins scope joins) (AssembledAll rule (placed (joinIngredients joins)))
  | [], _ => yields_ok .nil
  | j :: rest, h => by
    simp only [joinIngredients, TextRule.covers_append, placed_append] at h ⊢
    apply yields_bind
    intro first hfirst
    apply yields_bind
    intro later hlater
    apply yields_ok
    have head := j.yields_assembled hs h.1 first hfirst
    exact .cons head (yields_joins hs rest h.2 later hlater)

/-- The filters that are kept have all the literals, because the others have none. -/
theorem yields_filters {scope : Scope} (hs : rule.CoversScope scope) (several : Bool) :
    ∀ filters : List Condition, rule.Covers (filterIngredients filters) →
      Yields (renderFilters scope several filters)
        (AssembledAll rule (placed (filterIngredients filters)))
  | [], _ => yields_ok .nil
  | w :: rest, h => by
    simp only [filterIngredients, TextRule.covers_append, placed_append] at h ⊢
    apply yields_bind
    intro sql hsql
    apply yields_bind
    intro later hlater
    apply yields_ok
    have first := w.yields_assembled hs h.1 sql hsql
    have rest := yields_filters hs several rest h.2 later hlater
    have hempty := w.yields_isEmpty scope sql hsql
    split
    · rename_i dropped
      -- A filter that is dropped has no comparisons, and so it had nothing to write.
      rw [w.ingredients_of_isEmpty (hempty ▸ dropped)]
      exact rest
    · exact .cons (w.enclosed_assembled several first) rest

/-- A HAVING condition counts as a clause only if it is written as something. -/
theorem yields_having {scope : Scope} (hs : rule.CoversScope scope) :
    ∀ having : Option Condition, rule.Covers (conditionIngredients having) →
      Yields (renderHaving scope having) fun sql =>
        AssembledAll rule (placed (conditionIngredients having))
          ([sql].filter fun sql => !sql.isEmpty)
  | none, _ => yields_ok .nil
  | some w, h => by
    intro sql hsql
    have hempty := w.yields_isEmpty scope sql hsql
    cases dropped : sql.isEmpty with
    | true =>
      simp only [conditionIngredients, w.ingredients_of_isEmpty (hempty ▸ dropped),
        List.filter_cons, dropped]
      exact .nil
    | false =>
      simp only [conditionIngredients, List.filter_cons, dropped]
      exact .single (w.yields_assembled hs h sql hsql)

/-- What is read from. A draft keeps its place among the ingredients, nested under its alias. -/
theorem yields_from : ∀ source : Option Source, rule.Covers (sourceIngredients source) →
    Yields (renderFrom lex source) (AssembledAll rule (placed (sourceIngredients source)))
  | none, _ => yields_ok .nil
  | some (.table name aliasName), h => by
    simp only [sourceIngredients, TextRule.covers_text, TextRule.covers_map_text,
      placed_text, placed_map_text] at h ⊢
    have table := tableSource_assembled h.1 (by simpa using h.2)
    have keyword : Assembled rule [] (plain "FROM") := .word (by decide)
    have clause := AssembledAll.cons keyword (.single table)
    exact yields_ok clause
  | some (.derived d), h => by
    simp only [sourceIngredients, List.cons_append, TextRule.covers_draft,
      TextRule.covers_append, TextRule.covers_map_text, placed_draft, placed_append,
      placed_map_text, List.append_nil] at h ⊢
    apply yields_bind
    intro sql hsql
    apply yields_ok
    have inner := Assembled.nested hsql (d.yields_assembled h.1 sql hsql)
    have table := derivedSource_assembled (by simpa using h.2) inner
    have keyword : Assembled rule [] (plain "FROM") := .word (by decide)
    have clause := AssembledAll.cons keyword (.single table)
    simpa using clause

/-- The appended queries, each behind its keyword. -/
theorem yields_unions : ∀ unions : List UnionArm, rule.Covers (unionIngredients unions) →
    Yields (renderUnions lex unions) (AssembledAll rule (placed (unionIngredients unions)))
  | [], _ => yields_ok .nil
  | ⟨query, keepsAll⟩ :: rest, h => by
    simp only [unionIngredients, TextRule.covers_append, placed_append] at h ⊢
    apply yields_bind
    intro first hfirst
    apply yields_bind
    intro later hlater
    apply yields_ok
    have keyword : (unionKeyword keepsAll).all isWordChar = true := by
      cases keepsAll <;> decide
    have arms := AssembledAll.cons (query.yields_assembled h.1 first hfirst)
      (yields_unions rest h.2 later hlater)
    have behind := AssembledAll.cons (.word keyword) arms
    exact behind

/-- The bodies of a WITH in order. -/
theorem yields_bodies : ∀ bodies : List Query, rule.Covers (bodyIngredients bodies) →
    Yields (renderBodies lex bodies) (AssembledAll rule (placed (bodyIngredients bodies)))
  | [], _ => yields_ok .nil
  | q :: rest, h => by
    simp only [bodyIngredients, TextRule.covers_append, placed_append] at h ⊢
    apply yields_bind
    intro first hfirst
    apply yields_bind
    intro later hlater
    apply yields_ok
    have head := q.yields_assembled h.1 first hfirst
    exact .cons head (yields_bodies rest h.2 later hlater)

/-- The clauses of a selection stand in the order in which their ingredients are listed, and are
joined by blanks. -/
theorem Selection.yields_assembled {scope : Scope} (hs : rule.CoversScope scope) :
    ∀ s : Selection, rule.Covers s.ingredients →
      Yields (s.render scope) (Assembled rule (placed s.ingredients))
  | ⟨columns, source, joins, filters, group, having, order, limit, unions⟩, h => by
    simp only [Selection.ingredients, TextRule.covers_append, TextRule.covers_map_text] at h
    obtain ⟨⟨⟨⟨⟨⟨⟨hcolumns, hsource⟩, hjoins⟩, hfilters⟩, hgroup⟩, hhaving⟩, hunions⟩, horder⟩ := h
    simp only [Selection.ingredients, placed_append, placed_map_text, List.append_nil,
      List.nil_append]
    apply yields_bind
    intro readFrom hreadFrom
    apply yields_bind
    intro joined hjoined
    apply yields_bind
    intro kept hkept
    apply yields_bind
    intro having' hhaving'
    apply yields_bind
    intro appended happended
    apply yields_ok
    -- Each clause is assembled by itself, and then they stand side by side.
    rw [hs.lexicon] at hreadFrom happended
    have verb : Assembled rule [] (plain "SELECT") := .word (by decide)
    have head := AssembledAll.cons verb (.single (scope.selectList_assembled hs hcolumns))
    have read := yields_from source hsource readFrom hreadFrom
    have joins := yields_joins hs joins hjoins joined hjoined
    have filters : AssembledAll rule _ (clauseOf "WHERE" " AND " kept) :=
      (yields_filters hs _ filters hfilters kept hkept).clauseOf (by decide) (by decide)
    have group : AssembledAll rule [] (scope.listClause "GROUP BY" group) :=
      scope.listClause_assembled hs (by decide) hgroup
    have having : AssembledAll rule _
        (clauseOf "HAVING" " " ([having'].filter fun sql => !sql.isEmpty)) :=
      (yields_having hs having hhaving having' hhaving').clauseOf (by decide) (by decide)
    have unions := yields_unions unions hunions appended happended
    have order : AssembledAll rule [] (scope.listClause "ORDER BY" order) :=
      scope.listClause_assembled hs (by decide) horder
    have clauses := (((((((head.append read).append joins).append filters).append group).append
      having).append unions).append order).append (limitClause_assembled limit)
    have whole : Assembled rule _ (Fragment.joined " " _) := clauses.joined (by decide)
    simpa only [List.nil_append, List.append_nil] using whole

/-- The filters of a mutation make a clause, or none at all. -/
theorem Mutation.yields_where {scope : Scope} (hs : rule.CoversScope scope) :
    ∀ m : Mutation, rule.Covers m.whereIngredients →
      Yields (m.renderWhere scope) (AssembledAll rule (placed m.whereIngredients))
  | ⟨_, _, filters⟩, h => by
    apply yields_bind
    intro kept hkept
    apply yields_ok
    exact (yields_filters hs _ filters h kept hkept).clauseOf (by decide) (by decide)

/-- A WITH puts its bodies before its selection, and so are their literals. -/
theorem WithClause.yields_assembled {scope : Scope} (hs : rule.CoversScope scope) :
    ∀ w : WithClause, rule.Covers w.ingredients →
      Yields (w.render scope) (Assembled rule (placed w.ingredients))
  | ⟨names, bodies, recursive, hasSelect, selection⟩, h => by
    simp only [WithClause.ingredients, TextRule.covers_append, TextRule.covers_map_text] at h
    obtain ⟨⟨hnames, hbodies⟩, hselection⟩ := h
    simp only [WithClause.ingredients, placed_append, placed_map_text, List.nil_append]
    rw [WithClause.render]
    split
    · exact yields_error _
    split
    · exact yields_error _
    rename_i paired _
    apply yields_bind
    intro written hwritten
    apply yields_bind
    intro inner hinner
    apply yields_ok
    rw [hs.lexicon] at hwritten
    -- The check before rendering compares names with bodies, and no body is lost on the way.
    have length : names.length = written.length := by
      rw [length_of_renderBodies lex bodies written hwritten]
      exact Decidable.not_not.1 paired
    have expressions := tableExpressions_assembled hnames length
      (yields_bodies bodies hbodies written hwritten)
    have select := selection.yields_assembled hs hselection inner hinner
    have keyword : AssembledAll rule [] (if recursive then [plain "RECURSIVE"] else []) := by
      split
      · exact .single (.word (by decide))
      · exact .nil
    have verb : Assembled rule [] (plain "WITH") := .word (by decide)
    have parts := AssembledAll.cons verb (keyword.append (.cons expressions (.single select)))
    exact parts.joined (by decide)

/-- In an UPDATE the assigned values come before the literals of the filters. -/
theorem Statement.yields_assembled {scope : Scope} (hs : rule.CoversScope scope) :
    ∀ s : Statement, rule.Covers s.ingredients →
      Yields (s.render scope) (Assembled rule (placed s.ingredients))
  | .empty, _ => yields_error _
  | .select s, h => s.yields_assembled hs h
  | .insert m, h => by
    simp only [Statement.ingredients, TextRule.covers_text, placed_text] at h ⊢
    rw [Statement.render]
    split
    · exact yields_error _
    · rw [hs.lexicon]
      exact yields_ok (m.insertion_assembled h.1 h.2)
  | .update m, h => by
    simp only [Statement.ingredients, List.cons_append, TextRule.covers_text,
      TextRule.covers_append, placed_text, placed_append] at h ⊢
    rw [Statement.render]
    split
    · exact yields_error _
    apply yields_bind
    intro filters hfilters
    apply yields_ok
    rw [hs.lexicon]
    -- The settings are assembled already; the filters follow them.
    have verb : Assembled rule [] (plain "UPDATE") := .word (by decide)
    have keyword : Assembled rule [] (plain "SET") := .word (by decide)
    have settings : Assembled rule _ m.settings := (settings_assembled h.2.1).joined (by decide)
    have parts := AssembledAll.cons verb (.cons (m.writtenTarget_assembled h.1)
      (.cons keyword (.cons settings (m.yields_where hs h.2.2 filters hfilters))))
    exact parts.joined (by decide)
  | .delete m, h => by
    simp only [Statement.ingredients, TextRule.covers_text, placed_text] at h ⊢
    apply yields_bind
    intro filters hfilters
    apply yields_ok
    rw [hs.lexicon]
    have verb : Assembled rule [] (plain "DELETE FROM") := .word (by decide)
    have parts := AssembledAll.cons verb (.cons (m.writtenTarget_assembled h.1)
      (m.yields_where hs h.2 filters hfilters))
    exact parts.joined (by decide)
  | .with_ w, h => w.yields_assembled hs h

/-- Whatever is rendered for a draft is assembled from its ingredients. -/
theorem Draft.yields_assembled : ∀ d : Draft, rule.Covers d.ingredients →
    Yields (d.render lex) (Assembled rule (placed d.ingredients))
  | ⟨_, tables, statement, _, some fault, _⟩, _ => yields_error fault
  | ⟨_, tables, statement, _, none, _⟩, h => by
    simp only [Draft.ingredients, TextRule.covers_append, placed_append,
      Registry.placed_ingredients, List.nil_append] at h ⊢
    -- The scope of the statement has names from the tables of the draft, which are covered too.
    exact statement.yields_assembled (TextRule.coversScope_ofStatement h.1) h.2

end

/-! ## Finished SQL -/

/-- A mistake in a draft does not depend on the values before it or on the style. -/
theorem Draft.renderedWithin_of_error {d : Draft} {dialect : Dialect} {fault : Fault}
    (h : d.render dialect.toLexicon = .error fault) (prior : List Value) :
    d.renderedWithin dialect prior = .error fault := by
  rw [Draft.renderedWithin, h]
  rfl

/-- The finished SQL of a draft is that of its fragment. -/
theorem Draft.renderedWithin_of_ok {d : Draft} {dialect : Dialect} {f : Fragment}
    (h : d.render dialect.toLexicon = .ok f) (prior : List Value) :
    d.renderedWithin dialect prior = .ok (f.rendered dialect.placeholder prior) := by
  rw [Draft.renderedWithin, h]
  rfl

end BoundSql
