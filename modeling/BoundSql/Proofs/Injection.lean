import BoundSql.Proofs.Blanking
import BoundSql.Proofs.Verdict

/-!
# Literals stay out of the SQL

Rendering commutes with blanking: a draft without its literals is rendered to what the
draft is rendered to, with the literals taken out of its slots (`Draft.render_blanked`).
So two drafts that differ in their literals at most are rendered to the same SQL, or
fail with the same fault.
-/

set_option autoImplicit false

namespace BoundSql

open Fragment (plain)

/-! ## Fragments -/

/-- A cell whose slot, if it is one, holds null. -/
def Cell.emptied : Cell → Cell
  | .char c => .char c
  | .slot _ => .slot .null

namespace Fragment

/-- A fragment whose slots hold null. -/
def emptied (f : Fragment) : Fragment := f.map Cell.emptied

/-- Slots are emptied side by side. -/
@[simp] theorem emptied_append (f g : Fragment) : emptied (f ++ g) = emptied f ++ emptied g :=
  List.map_append

/-- Text without slots has nothing to empty. -/
@[simp] theorem emptied_plain (text : Text) : emptied (plain text) = plain text := by
  simp [emptied, plain, Function.comp_def, Cell.emptied]

/-- Parentheses are text around the slots. -/
@[simp] theorem emptied_parenthesized (f : Fragment) :
    emptied f.parenthesized = (emptied f).parenthesized := by
  simp [parenthesized]

/-- So are the separators between fragments. -/
@[simp] theorem emptied_joined (separator : Text) (fs : List Fragment) :
    emptied (joined separator fs) = joined separator (fs.map emptied) := by
  induction fs with
  | nil => rfl
  | cons f rest ih =>
    cases rest with
    | nil => simp [joined]
    | cons g rest =>
      simp only [joined, List.map_cons, List.intercalate_cons_cons, emptied_append,
        emptied_plain] at ih ⊢
      rw [ih]

/-- Emptying a slot does not remove it. -/
@[simp] theorem isEmpty_emptied (f : Fragment) : (emptied f).isEmpty = f.isEmpty := by
  cases f <;> rfl

/-- The SQL of a fragment shows where its slots are and not what they hold. -/
theorem sql_emptied (style : Placeholder) (prior : Nat) (f : Fragment) :
    (emptied f).sql style prior = f.sql style prior := by
  induction f generalizing prior with
  | nil => rfl
  | cons cell rest ih =>
    cases cell with
    | char c => exact congrArg (c :: ·) (ih prior)
    -- A mark is made of the number of its slot alone.
    | slot v => exact congrArg (style.token (prior + 1) ++ ·) (ih (prior + 1))

end Fragment

open Fragment (emptied)

/-! ## Clauses -/

/-- A value without its literal is still written at the same place. A text that begins like a query
is no literal, and blanking keeps it. -/
theorem Value.fragment_blanked (v : Value) : v.blanked.fragment = emptied v.fragment := by
  cases v with
  | text t =>
    -- A text that begins like a query stands in the SQL itself, and any other text in a slot.
    by_cases h : t.isQuery = true
    · simp [Value.blanked, Value.fragment, h]
    · simp [Value.blanked, Value.fragment, h, emptied, Cell.emptied]
  | null | bool _ | int _ | float _ | uuid _ | timestamp _ | json _ => rfl

/-- So is an assigned value, and an assigned column is kept. -/
theorem Assignment.fragment_blanked (a : Assignment) :
    a.blanked.fragment = emptied a.fragment := by
  cases a with
  | value v => rfl
  | column name => exact (Fragment.emptied_plain name).symm

/-- The parts of a destination stand in the same form. -/
theorem Form.right_blanked (form : Form) (parts : List Fragment) :
    form.right (parts.map emptied) = emptied (form.right parts) := by
  cases form <;> simp [Form.right]

/-- The symbol between two operands binds nothing. -/
theorem Operator.infixed_blanked (op : Operator) (f g : Fragment) :
    op.infixed (emptied f) (emptied g) = emptied (op.infixed f g) := by
  simp [Operator.infixed]

/-- Nor does what follows a single operand. -/
theorem Operator.suffixed_blanked (op : Operator) (lex : Lexicon) (f : Fragment) :
    op.suffixed lex (emptied f) = emptied (op.suffixed lex f) := by
  unfold Operator.suffixed
  split <;> simp [Operator.infixed]

/-- The term for an empty list has no slot to empty. -/
theorem Operator.onEmptyList_blanked (op : Operator) : op.onEmptyList = emptied op.onEmptyList := by
  unfold Operator.onEmptyList
  split <;> exact (Fragment.emptied_plain _).symm

/-- A conjunction is no literal. -/
theorem Comparison.parts_blanked (c : Comparison) (f : Fragment) :
    c.blanked.parts (emptied f) = (c.parts f).map emptied := by
  unfold Comparison.parts
  rw [c.conjunction_blanked]
  split <;> simp

/-- Whether a filter is enclosed depends on its conjunctions, and they are kept. -/
theorem Condition.enclosed_blanked (w : Condition) (several : Bool) (f : Fragment) :
    w.blanked.enclosed several (emptied f) = emptied (w.enclosed several f) := by
  unfold Condition.enclosed
  rw [w.hasOr_blanked]
  split <;> simp

/-- A clause is left out when there are no parts, whatever the parts hold. -/
theorem clauseOf_blanked (keyword separator : Text) (parts : List Fragment) :
    clauseOf keyword separator (parts.map emptied) =
      (clauseOf keyword separator parts).map emptied := by
  cases parts with
  | nil => rfl
  | cons first rest => simp [clauseOf]

/-- Selected columns are texts, and blanking does not reach them. -/
@[simp] theorem Scope.selectList_blanked (scope : Scope) (columns : List Text) :
    emptied (scope.selectList columns) = scope.selectList columns := by
  rw [Scope.selectList]
  split <;> exact Fragment.emptied_plain _

/-- Nor does it reach a clause of listed columns. -/
@[simp] theorem Scope.listClause_blanked (scope : Scope) (keyword : Text) (columns : List Text) :
    (scope.listClause keyword columns).map emptied = scope.listClause keyword columns := by
  rw [Scope.listClause]
  rw [← clauseOf_blanked, List.map_map]
  simp [Function.comp_def]

/-- The number of a LIMIT is written out and not bound, so it is no literal. -/
@[simp] theorem limitClause_blanked (limit : Option Nat) :
    (limitClause limit).map emptied = limitClause limit := by
  cases limit <;> simp [limitClause]

/-- The target of a mutation is a name. -/
theorem Mutation.writtenTarget_blanked (m : Mutation) (lex : Lexicon) :
    m.blanked.writtenTarget lex = m.writtenTarget lex := by
  cases m
  rfl

/-- Blanking an INSERT empties the slots of its values. -/
theorem Mutation.insertion_blanked (m : Mutation) (lex : Lexicon) :
    m.blanked.insertion lex = emptied (m.insertion lex) := by
  simp only [Mutation.insertion, m.writtenTarget_blanked, m.assignments_blanked, List.map_map,
    Function.comp_def, Assignment.fragment_blanked, Fragment.emptied_append,
    Fragment.emptied_plain, Fragment.emptied_parenthesized, Fragment.emptied_joined]

/-- And in an UPDATE it empties those of the settings. -/
theorem Mutation.settings_blanked (m : Mutation) : m.blanked.settings = emptied m.settings := by
  simp only [Mutation.settings, m.assignments_blanked, List.map_map, Function.comp_def,
    Assignment.fragment_blanked, Fragment.emptied_append, Fragment.emptied_plain,
    Fragment.emptied_joined]

/-- The names of table expressions are kept around their bodies. -/
theorem tableExpressions_blanked (names : List Text) (bodies : List Fragment) :
    tableExpressions names (bodies.map emptied) = emptied (tableExpressions names bodies) := by
  simp [tableExpressions, List.map_zipWith, List.zipWith_map_right]

/-- So is the alias of a draft that is read from. -/
theorem derivedSource_blanked (f : Fragment) (aliasName : Option Text) :
    derivedSource (emptied f) aliasName = emptied (derivedSource f aliasName) := by
  simp [derivedSource]

/-! ## Rendering and blanking -/

mutual

/-- An operand without its literals is rendered to the operand with empty slots, or fails alike. -/
theorem Operand.render_mirrors (s : Scope) (p : Position) :
    ∀ o : Operand, Mirrors emptied (o.render s p) (o.blanked.render s p)
  | .column _ _ => mirrors_ok (Fragment.emptied_plain _).symm
  | .value v => mirrors_ok v.fragment_blanked
  | .list items => (items_mirrors s p items).bind_ok fun _ => by simp
  | .query q => (q.render_mirrors s.lexicon).bind_ok fun _ => by simp
termination_by structural o => o

/-- The items of a list fail at the same item, or not at all. -/
theorem items_mirrors (s : Scope) (p : Position) : ∀ items : List Operand,
    Mirrors (List.map emptied) (renderItems s p items) (renderItems s p (blankedItems items))
  | [] => mirrors_ok rfl
  | o :: rest => by
    apply (o.render_mirrors s p).bind
    intro first
    exact (items_mirrors s p rest).bind_ok fun _ => rfl

/-- Given SQL is kept, and a draft is blanked as a whole. -/
theorem Query.render_mirrors (lex : Lexicon) :
    ∀ q : Query, Mirrors emptied (q.render lex) (q.blanked.render lex)
  | .text _ => mirrors_ok (Fragment.emptied_plain _).symm
  | .drafted d => d.render_mirrors lex

/-- A missing source is missing without literals too. -/
theorem source_mirrors (s : Scope) (op : Operator) : ∀ source : Option Operand,
    Mirrors emptied (renderSource s op source) (renderSource s op (blankedSide source))
  | none => mirrors_error _
  | some o => o.render_mirrors s .source

/-- The parts of a destination. Blanking keeps a list a list of as many items. -/
theorem destination_mirrors (s : Scope) : ∀ destination : Option Operand,
    Mirrors (List.map emptied) (renderDestination s destination)
      (renderDestination s (blankedSide destination))
  | none => mirrors_ok rfl
  | some (.list items) => items_mirrors s .destination items
  -- An operand that is no list is the only part, whatever its kind.
  | some (.column name qualifier) =>
    ((Operand.column name qualifier).render_mirrors s .destination).bind_ok fun _ => rfl
  | some (.value v) =>
    ((Operand.value v).render_mirrors s .destination).bind_ok fun _ => rfl
  | some (.query q) =>
    ((Operand.query q).render_mirrors s .destination).bind_ok fun _ => rfl

/-- A comparison has the same form without its literals, since the form asks for the shape of the
destination and for texts that begin like queries. -/
theorem Comparison.render_mirrors (s : Scope) :
    ∀ c : Comparison, Mirrors emptied (c.render s) (c.blanked.render s)
  | ⟨conjunction, source, op, destination⟩ => by
    have left := source_mirrors s op source
    have parts := destination_mirrors s destination
    have same := op.form_blanked destination
    show Mirrors emptied _
      (Comparison.render s ⟨conjunction, blankedSide source, op, blankedSide destination⟩)
    -- The form is the same on both sides, so both renderings take the same branch.
    cases hf : op.form destination with
    | error fault =>
      rw [Comparison.render_of_error hf, Comparison.render_of_error (same.trans hf)]
      exact mirrors_error fault
    | ok form =>
      cases Operator.formOf hf with
      | constant _ =>
        rw [Comparison.render_of_constant hf, Comparison.render_of_constant (same.trans hf)]
        exact mirrors_ok op.onEmptyList_blanked
      | suffixed _ =>
        rw [Comparison.render_of_suffixed hf, Comparison.render_of_suffixed (same.trans hf)]
        exact left.bind_ok fun _ => op.suffixed_blanked _ _
      | exists_ _ =>
        rw [Comparison.render_of_exists hf, Comparison.render_of_exists (same.trans hf)]
        apply parts.bind_ok
        intro parts
        rw [Form.right_blanked, Fragment.emptied_append, Fragment.emptied_plain]
      | infix_ _ _ _ two =>
        rw [Comparison.render_of_infix hf two, Comparison.render_of_infix (same.trans hf) two]
        apply left.bind
        intro left
        apply parts.bind_ok
        intro parts
        rw [Form.right_blanked, Operator.infixed_blanked]

/-- The terms of a condition in order. -/
theorem terms_mirrors (s : Scope) : ∀ comparisons : List Comparison,
    Mirrors (List.map emptied) (renderTerms s comparisons)
      (renderTerms s (blankedTerms comparisons))
  | [] => mirrors_ok rfl
  | c :: rest => by
    apply (c.render_mirrors s).bind
    intro term
    apply (terms_mirrors s rest).bind_ok
    intro later
    rw [c.parts_blanked, List.map_append]

/-- What speaks against a condition was recorded when it was put together, and blanking keeps it. -/
theorem Condition.render_mirrors (s : Scope) :
    ∀ w : Condition, Mirrors emptied (w.render s) (w.blanked.render s)
  | ⟨comparisons, pending, fault⟩ => by
    have same := Condition.objection?_blanked ⟨comparisons, pending, fault⟩
    simp only [Condition.blanked] at same
    simp only [Condition.blanked, Condition.render, same]
    split
    · exact mirrors_error _
    · exact (terms_mirrors s comparisons).bind_ok fun _ => by simp

/-- The qualifier of a join is empty without its literals only if it was empty with them. -/
theorem Join.render_mirrors (s : Scope) :
    ∀ j : Join, Mirrors emptied (j.render s) (j.blanked.render s)
  | ⟨_, _, none⟩ => mirrors_error _
  | ⟨ref, kind, some w⟩ => by
    simp only [Join.blanked, blankedCondition, Join.render]
    apply (w.render_mirrors _).bind
    intro sql
    -- The qualifier is empty on both sides or on neither.
    rw [Fragment.isEmpty_emptied]
    split
    · exact mirrors_error _
    · exact mirrors_ok (by simp)

/-- The joins of a selection in order. -/
theorem joins_mirrors (s : Scope) : ∀ joins : List Join,
    Mirrors (List.map emptied) (renderJoins s joins) (renderJoins s (blankedJoins joins))
  | [] => mirrors_ok rfl
  | j :: rest => by
    apply (j.render_mirrors s).bind
    intro first
    exact (joins_mirrors s rest).bind_ok fun _ => rfl

/-- The same filters are left out with their literals and without. -/
theorem filters_mirrors (s : Scope) (several : Bool) : ∀ filters : List Condition,
    Mirrors (List.map emptied) (renderFilters s several filters)
      (renderFilters s several (blankedFilters filters))
  | [] => mirrors_ok rfl
  | w :: rest => by
    apply (w.render_mirrors s).bind
    intro sql
    apply (filters_mirrors s several rest).bind_ok
    intro later
    -- A filter is left out on both sides or on neither.
    rw [Fragment.isEmpty_emptied, w.enclosed_blanked]
    split <;> rfl

/-- A HAVING condition, or none. -/
theorem having_mirrors (s : Scope) : ∀ having : Option Condition,
    Mirrors emptied (renderHaving s having) (renderHaving s (blankedCondition having))
  | none => mirrors_ok rfl
  | some w => w.render_mirrors s

/-- What is read from, under the same name. -/
theorem from_mirrors (lex : Lexicon) : ∀ source : Option Source,
    Mirrors (List.map emptied) (renderFrom lex source) (renderFrom lex (blankedSource source))
  | none => mirrors_ok rfl
  | some (.table _ _) => mirrors_ok (by simp)
  | some (.derived d) => by
      apply (d.render_mirrors lex).bind_ok
      intro sql
      rw [d.aliasName_blanked, derivedSource_blanked, List.map_cons, List.map_singleton,
        Fragment.emptied_plain]

/-- The appended queries, behind the same keywords. -/
theorem unions_mirrors (lex : Lexicon) : ∀ unions : List UnionArm,
    Mirrors (List.map emptied) (renderUnions lex unions) (renderUnions lex (blankedUnions unions))
  | [] => mirrors_ok rfl
  | ⟨query, _⟩ :: rest => by
    apply (query.render_mirrors lex).bind
    intro first
    apply (unions_mirrors lex rest).bind_ok
    intro later
    rw [List.map_cons, List.map_cons, Fragment.emptied_plain]

/-- The bodies of a WITH in order. -/
theorem bodies_mirrors (lex : Lexicon) : ∀ bodies : List Query,
    Mirrors (List.map emptied) (renderBodies lex bodies) (renderBodies lex (blankedBodies bodies))
  | [] => mirrors_ok rfl
  | q :: rest => by
    apply (q.render_mirrors lex).bind
    intro first
    exact (bodies_mirrors lex rest).bind_ok fun _ => rfl

/-- A selection clause by clause. There are as many filters as before, so the same ones are
enclosed. -/
theorem Selection.render_mirrors (s : Scope) :
    ∀ x : Selection, Mirrors emptied (x.render s) (x.blanked.render s)
  | ⟨columns, source, joins, filters, group, having, order, limit, unions⟩ => by
    simp only [Selection.blanked, Selection.render, length_blankedFilters]
    -- The clauses one after the other, in the order in which they are rendered.
    apply (from_mirrors s.lexicon source).bind
    intro readFrom
    apply (joins_mirrors s joins).bind
    intro joined
    apply (filters_mirrors s _ filters).bind
    intro filtered
    apply (having_mirrors s having).bind
    intro sql
    apply (unions_mirrors s.lexicon unions).bind_ok
    intro appended
    -- Emptying slots leaves no condition empty that was not empty before.
    have kept : ([emptied sql].filter fun sql => !sql.isEmpty) =
        ([sql].filter fun sql => !sql.isEmpty).map emptied := by
      cases sql <;> rfl
    simp only [kept, clauseOf_blanked, Fragment.emptied_joined, List.map_append, List.map_cons,
      List.map_nil, Fragment.emptied_plain, Scope.selectList_blanked, Scope.listClause_blanked,
      limitClause_blanked]

/-- The filters of a mutation. -/
theorem Mutation.where_mirrors (s : Scope) :
    ∀ m : Mutation, Mirrors (List.map emptied) (m.renderWhere s) (m.blanked.renderWhere s)
  | ⟨_, _, filters⟩ => by
    simp only [Mutation.blanked, Mutation.renderWhere, length_blankedFilters]
    apply (filters_mirrors s _ filters).bind_ok
    intro kept
    exact clauseOf_blanked _ _ kept

/-- A WITH has as many bodies without its literals, and so the same complaint about its names. -/
theorem WithClause.render_mirrors (s : Scope) :
    ∀ w : WithClause, Mirrors emptied (w.render s) (w.blanked.render s)
  | ⟨names, bodies, recursive, hasSelect, selection⟩ => by
    simp only [WithClause.blanked, WithClause.render, length_blankedBodies]
    -- Both checks come before anything is rendered, and both count what blanking keeps.
    split
    · exact mirrors_error _
    split
    · exact mirrors_error _
    · apply (bodies_mirrors s.lexicon bodies).bind
      intro written
      apply (selection.render_mirrors s).bind_ok
      intro inner
      rw [tableExpressions_blanked]
      cases recursive <;> simp

/-- A statement of any kind. The mutations refuse a lack of assignments, which blanking does not
cause. -/
theorem Statement.render_mirrors (s : Scope) :
    ∀ x : Statement, Mirrors emptied (x.render s) (x.blanked.render s)
  | .empty => mirrors_error _
  | .select x => x.render_mirrors s
  | .insert m => by
    simp only [Statement.blanked, Statement.render, m.assignments_blanked, m.target_blanked,
      List.isEmpty_map, m.insertion_blanked]
    split
    · exact mirrors_error _
    · exact mirrors_ok rfl
  | .update m => by
    simp only [Statement.blanked, Statement.render, m.assignments_blanked, m.target_blanked,
      List.isEmpty_map, m.writtenTarget_blanked, m.settings_blanked]
    split
    · exact mirrors_error _
    · exact (m.where_mirrors s).bind_ok fun _ => by simp
  | .delete m => by
    simp only [Statement.blanked, Statement.render, m.writtenTarget_blanked]
    exact (m.where_mirrors s).bind_ok fun _ => by simp
  | .with_ w => w.render_mirrors s

/-- A draft without its literals is rendered to what the draft is rendered to with empty slots, or
fails with the same fault. -/
theorem Draft.render_mirrors (lex : Lexicon) :
    ∀ d : Draft, Mirrors emptied (d.render lex) (d.blanked.render lex)
  | ⟨_, _, statement, _, none, _⟩ => statement.render_mirrors _
  | ⟨_, _, _, _, some fault, _⟩ => mirrors_error fault

end

/-! ## Drafts that differ in their literals -/

/-- Two drafts that differ in their literals at most are rendered to the same SQL in every
dialect and behind any values, or fail with the same fault. Their ingredients agree place
by place, and each binds the literals among its own. -/
theorem Draft.renderedWithin_of_alike {d e : Draft} (alike : d.Alike e) (dialect : Dialect)
    (prior : List Value) :
    d.ingredients.map Ingredient.blanked = e.ingredients.map Ingredient.blanked ∧
      match d.renderedWithin dialect prior, e.renderedWithin dialect prior with
      | .ok r, .ok s =>
        r.sql = s.sql ∧ r.params = prior ++ d.bound ∧ s.params = prior ++ e.bound ∧
          d.bound.length = e.bound.length
      | .error f, .error g => f = g
      | _, _ => False := by
  have same : d.ingredients.map Ingredient.blanked = e.ingredients.map Ingredient.blanked := by
    rw [← d.ingredients_blanked, ← e.ingredients_blanked, alike]
  have lengths : d.bound.length = e.bound.length := by
    have counted := congrArg (fun ps => (literals ps).length) same
    rw [length_literals_blanked, length_literals_blanked] at counted
    exact counted
  -- Both are rendered to what their common remains are rendered to, the slots aside.
  have first : d.blanked.render _ = _ := d.render_mirrors dialect.toLexicon
  have second : e.blanked.render _ = _ := e.render_mirrors dialect.toLexicon
  have both : (d.render dialect.toLexicon).map emptied =
      (e.render dialect.toLexicon).map emptied := by
    rw [← first, ← second, alike]
  -- What is left is to compare the two outcomes.
  refine ⟨same, ?_⟩
  cases hf : d.render dialect.toLexicon with
  | error fault =>
    cases hg : e.render dialect.toLexicon with
    | error other =>
      rw [hf, hg] at both
      rw [Draft.renderedWithin_of_error hf, Draft.renderedWithin_of_error hg]
      exact Except.error.inj both
    | ok g =>
      rw [hf, hg] at both
      cases both
  | ok f =>
    cases hg : e.render dialect.toLexicon with
    | error other =>
      rw [hf, hg] at both
      cases both
    | ok g =>
      rw [hf, hg] at both
      rw [Draft.renderedWithin_of_ok hf, Draft.renderedWithin_of_ok hg]
      have slots : emptied f = emptied g := Except.ok.inj both
      refine ⟨?_, congrArg (prior ++ ·) (d.yields_bound _ f hf),
        congrArg (prior ++ ·) (e.yields_bound _ g hg), lengths⟩
      show f.sql _ _ = g.sql _ _
      rw [← Fragment.sql_emptied, slots, Fragment.sql_emptied]

/-- A number and a text that looks like SQL are bound at the same place of the same SQL. -/
theorem Draft.renderedWithin_of_alike_adultBuyers :
    ∃ r s, (Draft.adultBuyers (.int 18) (.int 100)).renderedWithin .generic [] = .ok r ∧
      (Draft.adultBuyers (.text "18 OR 1=1") .null).renderedWithin .generic [] = .ok s ∧
      r.sql = s.sql ∧ s.params = [.text "18 OR 1=1", .null] := by
  have alike : (Draft.adultBuyers (.int 18) (.int 100)).Alike
      (Draft.adultBuyers (.text "18 OR 1=1") .null) := rfl
  have outcome := (Draft.renderedWithin_of_alike alike .generic []).2
  have succeeds : ((Draft.adultBuyers (.int 18) (.int 100)).renderedWithin
      .generic []).toOption.isSome = true := by decide +kernel
  revert outcome succeeds
  split
  · rename_i r s hr hs
    exact fun outcome _ => ⟨r, s, hr, hs, outcome.1, outcome.2.2.1⟩
  · rename_i hr _
    exact fun _ succeeds => by
      rw [hr] at succeeds
      cases succeeds
  · exact fun outcome => outcome.elim

end BoundSql
