import BoundSql.Proofs.Terms

/-!
# Blanking literals

What remains of a statement when its literals are taken out: each is replaced by null.
Two drafts are alike, whatever they are about, when they are equal after that.

A text that begins like a query is no literal at a side of a comparison, since it is
written into the SQL there, and so it is kept. In an assignment it is a literal like any
other. Nothing else is kept or lost: operands left open, clauses that are not written and
drafts within the draft are blanked as well.
-/

set_option autoImplicit false

namespace BoundSql

open Fragment (plain)

/-! ## Syntax -/

/-- What remains of a value at a side of a comparison. -/
def Value.blanked : Value → Value
  | .text t => if t.isQuery then .text t else .null
  | _ => .null

/-- What remains of an assignment. -/
def Assignment.blanked : Assignment → Assignment
  | .value _ => .value .null
  | .column name => .column name

mutual

/-- What remains of an operand. -/
def Operand.blanked : Operand → Operand
  | .column name qualifier => .column name qualifier
  | .value v => .value v.blanked
  | .list items => .list (blankedItems items)
  | .query q => .query q.blanked
termination_by structural o => o

/-- What remains of the items of a list. -/
def blankedItems : List Operand → List Operand
  | [] => []
  | o :: rest => o.blanked :: blankedItems rest

/-- What remains of a query within a statement. -/
def Query.blanked : Query → Query
  | .text sql => .text sql
  | .drafted d => .drafted d.blanked

/-- What remains of one side of a comparison, if it is there. -/
def blankedSide : Option Operand → Option Operand
  | none => none
  | some o => some o.blanked

/-- What remains of a comparison. -/
def Comparison.blanked : Comparison → Comparison
  | ⟨conjunction, source, op, destination⟩ =>
    ⟨conjunction, blankedSide source, op, blankedSide destination⟩

/-- What remains of comparisons in order. -/
def blankedTerms : List Comparison → List Comparison
  | [] => []
  | c :: rest => c.blanked :: blankedTerms rest

/-- What remains of an operand left open. -/
def blankedPending : Option PendingOperand → Option PendingOperand
  | none => none
  | some ⟨conjunction, source⟩ => some ⟨conjunction, blankedSide source⟩

/-- What remains of a condition. -/
def Condition.blanked : Condition → Condition
  | ⟨comparisons, pending, fault⟩ => ⟨blankedTerms comparisons, blankedPending pending, fault⟩

/-- What remains of a condition, if it is there. -/
def blankedCondition : Option Condition → Option Condition
  | none => none
  | some w => some w.blanked

/-- What remains of a join. -/
def Join.blanked : Join → Join
  | ⟨ref, kind, qualifier⟩ => ⟨ref, kind, blankedCondition qualifier⟩

/-- What remains of joins in order. -/
def blankedJoins : List Join → List Join
  | [] => []
  | j :: rest => j.blanked :: blankedJoins rest

/-- What remains of filters in order. -/
def blankedFilters : List Condition → List Condition
  | [] => []
  | w :: rest => w.blanked :: blankedFilters rest

/-- What remains of what a selection reads from. -/
def blankedSource : Option Source → Option Source
  | none => none
  | some (.table name aliasName) => some (.table name aliasName)
  | some (.derived d) => some (.derived d.blanked)

/-- What remains of appended queries in order. -/
def blankedUnions : List UnionArm → List UnionArm
  | [] => []
  | ⟨query, keepsAll⟩ :: rest => ⟨query.blanked, keepsAll⟩ :: blankedUnions rest

/-- What remains of the bodies of table expressions in order. -/
def blankedBodies : List Query → List Query
  | [] => []
  | q :: rest => q.blanked :: blankedBodies rest

/-- What remains of a selection. -/
def Selection.blanked : Selection → Selection
  | ⟨columns, source, joins, filters, group, having, order, limit, unions⟩ =>
    ⟨columns, blankedSource source, blankedJoins joins, blankedFilters filters, group,
      blankedCondition having, order, limit, blankedUnions unions⟩

/-- What remains of a mutation. -/
def Mutation.blanked : Mutation → Mutation
  | ⟨target, assignments, filters⟩ =>
    ⟨target, assignments.map fun a => (a.1, a.2.blanked), blankedFilters filters⟩

/-- What remains of a WITH. -/
def WithClause.blanked : WithClause → WithClause
  | ⟨names, bodies, recursive, hasSelect, selection⟩ =>
    ⟨names, blankedBodies bodies, recursive, hasSelect, selection.blanked⟩

/-- What remains of a statement. -/
def Statement.blanked : Statement → Statement
  | .empty => .empty
  | .select s => .select s.blanked
  | .insert m => .insert m.blanked
  | .update m => .update m.blanked
  | .delete m => .delete m.blanked
  | .with_ w => .with_ w.blanked

/-- What remains of a draft. -/
def Draft.blanked : Draft → Draft
  | ⟨dialect, tables, statement, aliasName, fault, logLimit⟩ =>
    ⟨dialect, tables, statement.blanked, aliasName, fault, logLimit⟩

end

/-- Two drafts differ in their literals at most. -/
def Draft.Alike (d e : Draft) : Prop := d.blanked = e.blanked

/-! ## What literals do not decide -/

/-- A text that begins like a query is no literal, so an operand stays a query or not. -/
theorem Operand.isQuery_blanked (o : Operand) : o.blanked.isQuery = o.isQuery := by
  cases o with
  | column name qualifier => rfl
  | value v =>
    cases v with
    | text t =>
      by_cases h : t.isQuery = true
      · simp [Operand.blanked, Value.blanked, Operand.isQuery, h]
      · simp [Operand.blanked, Value.blanked, Operand.isQuery, h]
    | null | bool _ | int _ | float _ | uuid _ | timestamp _ | json _ => rfl
  | list items => rfl
  | query q => rfl

/-- A list stays a list. -/
theorem Operand.isList_blanked (o : Operand) : o.blanked.isList = o.isList := by
  cases o <;> rfl

/-- And it keeps the form that it has behind a list operator. -/
theorem Operand.listForm_blanked (o : Operand) : o.blanked.listForm = o.listForm := by
  cases o with
  | column name qualifier => rfl
  | value v =>
    have query := Operand.isQuery_blanked (.value v)
    simp only [Operand.blanked] at query
    simp only [Operand.blanked, Operand.listForm, query]
  | list items =>
    cases items with
    | nil => rfl
    | cons first rest =>
      cases rest with
      | nil => simp only [Operand.blanked, blankedItems, Operand.listForm, first.isQuery_blanked]
      | cons second rest => rfl
  | query q => rfl

/-- It keeps its two bounds, or the fault for having others. -/
theorem Operand.rangeForm_blanked (o : Operand) : o.blanked.rangeForm = o.rangeForm := by
  cases o with
  | list items =>
    rcases items with _ | ⟨first, _ | ⟨second, _ | ⟨third, rest⟩⟩⟩ <;> rfl
  | column name qualifier | value v | query q => rfl

/-- The form of a comparison does not depend on literals. -/
theorem Operator.form_blanked (op : Operator) (destination : Option Operand) :
    op.form (blankedSide destination) = op.form destination := by
  cases destination with
  | none => rfl
  | some d =>
    simp only [blankedSide, Operator.form, Operator.formWith, d.isQuery_blanked,
      d.isList_blanked, d.listForm_blanked, d.rangeForm_blanked]

/-- Only the empty list leaves the operands out, and it has no literals. -/
theorem Operator.omitsOperands_blanked (op : Operator) (destination : Option Operand) :
    op.omitsOperands (blankedSide destination) = op.omitsOperands destination := by
  rcases destination with _ | (_ | _ | (_ | _) | _) <;> rfl

/-- What speaks against a condition is no literal. -/
theorem Condition.objection?_blanked (w : Condition) : w.blanked.objection? = w.objection? := by
  rcases w with ⟨comparisons, _ | ⟨_ | conjunction, source⟩, _ | fault⟩ <;> rfl

/-- Nor is a conjunction. -/
theorem Comparison.conjunction_blanked (c : Comparison) :
    c.blanked.conjunction = c.conjunction := by
  cases c
  rfl

/-- So a condition has an `OR` with its literals or without. -/
theorem Condition.hasOr_blanked (w : Condition) : w.blanked.hasOr = w.hasOr := by
  rcases w with ⟨comparisons, pending, fault⟩
  show (blankedTerms comparisons).any _ = comparisons.any _
  induction comparisons with
  | nil => rfl
  | cons c rest ih =>
    rw [blankedTerms, List.any_cons, List.any_cons, c.conjunction_blanked, ih]

/-- No filter is lost. -/
theorem length_blankedFilters (filters : List Condition) :
    (blankedFilters filters).length = filters.length := by
  induction filters with
  | nil => rfl
  | cons w rest ih => exact congrArg Nat.succ ih

/-- Nor is a body of a WITH. -/
theorem length_blankedBodies (bodies : List Query) :
    (blankedBodies bodies).length = bodies.length := by
  induction bodies with
  | nil => rfl
  | cons q rest ih => exact congrArg Nat.succ ih

/-- The target of a mutation is a name. -/
theorem Mutation.target_blanked (m : Mutation) : m.blanked.target = m.target := by
  cases m
  rfl

theorem Mutation.assignments_blanked (m : Mutation) :
    m.blanked.assignments = m.assignments.map fun a => (a.1, a.2.blanked) := by
  cases m
  rfl

/-- So is the alias of a draft. -/
theorem Draft.aliasName_blanked (d : Draft) : d.blanked.aliasName = d.aliasName := by
  cases d
  rfl

/-! ## Ingredients -/

/-- What remains of an ingredient; that it is a literal remains. -/
def Ingredient.blanked : Ingredient → Ingredient
  | .text use t => .text use t
  | .value _ => .value .null
  | .draft d => .draft d.blanked

/-- A text among the ingredients is no literal. -/
@[simp] theorem Ingredient.blanked_comp_text (use : TextUse) :
    Ingredient.blanked ∘ Ingredient.text use = Ingredient.text use := rfl

/-- As many literals are bound, each of them null. -/
theorem length_literals_blanked (ps : List Ingredient) :
    (literals (ps.map Ingredient.blanked)).length = (literals ps).length := by
  induction ps with
  | nil => rfl
  | cons i rest ih =>
    cases i with
    | text use t => exact ih
    | value v => exact congrArg Nat.succ ih
    | draft d => exact ih

/-- The names of tables are no literals. -/
theorem TableRef.ingredients_blanked (ref : TableRef) :
    ref.ingredients.map Ingredient.blanked = ref.ingredients := by
  cases ref <;> rfl

/-- Nor are the names in a registry. -/
theorem Registry.ingredients_blanked (r : Registry) :
    r.ingredients.map Ingredient.blanked = r.ingredients := by
  rw [Registry.ingredients, List.map_map]
  rfl

/-- A value is blanked in place, and a text that begins like a query is kept in place. -/
theorem Value.ingredients_blanked (v : Value) :
    v.blanked.ingredients = v.ingredients.map Ingredient.blanked := by
  cases v with
  | text t =>
    by_cases h : t.isQuery = true
    · simp [Value.blanked, Value.ingredients, h, Ingredient.blanked]
    · simp [Value.blanked, Value.ingredients, h, Ingredient.blanked]
  | null | bool _ | int _ | float _ | uuid _ | timestamp _ | json _ => rfl

theorem assignmentIngredients_blanked (assignments : List (Text × Assignment)) :
    assignmentIngredients (assignments.map fun a => (a.1, a.2.blanked)) =
      (assignmentIngredients assignments).map Ingredient.blanked := by
  induction assignments with
  | nil => rfl
  | cons a rest ih =>
    have later : List.flatMap _ _ = List.map _ (List.flatMap _ _) := ih
    simp only [assignmentIngredients, List.map_cons, List.flatMap_cons, List.map_append, later]
    rcases a with ⟨column, _ | _⟩ <;> rfl

mutual

/-- An operand and its blanked form have the same ingredients, literals aside. The induction runs
over all the syntax, since an operand may hold a draft. -/
theorem Operand.ingredients_blanked :
    ∀ o : Operand, o.blanked.ingredients = o.ingredients.map Ingredient.blanked
  | .column name qualifier => by
    simp [Operand.blanked, Operand.ingredients, Ingredient.blanked]
  | .value v => v.ingredients_blanked
  | .list items => itemIngredients_blanked items
  | .query q => q.ingredients_blanked
termination_by structural o => o

theorem itemIngredients_blanked : ∀ items : List Operand,
    itemIngredients (blankedItems items) = (itemIngredients items).map Ingredient.blanked
  | [] => rfl
  | o :: rest => by
    rw [blankedItems, itemIngredients, itemIngredients, o.ingredients_blanked,
      itemIngredients_blanked rest, List.map_append]

theorem Query.ingredients_blanked :
    ∀ q : Query, q.blanked.ingredients = q.ingredients.map Ingredient.blanked
  | .text _ => rfl
  | .drafted d => congrArg (Ingredient.draft d.blanked :: ·) d.ingredients_blanked

/-- A missing side has no ingredients. -/
theorem sideIngredients_blanked : ∀ side : Option Operand,
    sideIngredients (blankedSide side) = (sideIngredients side).map Ingredient.blanked
  | none => rfl
  | some o => o.ingredients_blanked

/-- The operands that a comparison leaves out are left out of both. -/
theorem Comparison.ingredients_blanked :
    ∀ c : Comparison, c.blanked.ingredients = c.ingredients.map Ingredient.blanked
  | ⟨_, source, op, destination⟩ => by
    -- Which operands count is decided by the operator and the shape of the destination.
    simp only [Comparison.blanked, Comparison.ingredients, op.omitsOperands_blanked,
      sideIngredients_blanked source, sideIngredients_blanked destination]
    split
    · rfl
    · rw [List.map_append, apply_ite (List.map Ingredient.blanked),
        apply_ite (List.map Ingredient.blanked), List.map_nil]

theorem termIngredients_blanked : ∀ comparisons : List Comparison,
    termIngredients (blankedTerms comparisons) =
      (termIngredients comparisons).map Ingredient.blanked
  | [] => rfl
  | c :: rest => by
    rw [blankedTerms, termIngredients, termIngredients, c.ingredients_blanked,
      termIngredients_blanked rest, List.map_append]

theorem Condition.ingredients_blanked :
    ∀ w : Condition, w.blanked.ingredients = w.ingredients.map Ingredient.blanked
  | ⟨comparisons, _, _⟩ => termIngredients_blanked comparisons

theorem conditionIngredients_blanked : ∀ condition : Option Condition,
    conditionIngredients (blankedCondition condition) =
      (conditionIngredients condition).map Ingredient.blanked
  | none => rfl
  | some w => w.ingredients_blanked

theorem Join.ingredients_blanked :
    ∀ j : Join, j.blanked.ingredients = j.ingredients.map Ingredient.blanked
  | ⟨ref, _, qualifier⟩ => by
    rw [Join.blanked, Join.ingredients, Join.ingredients, conditionIngredients_blanked qualifier,
      List.map_append, ref.ingredients_blanked]

theorem joinIngredients_blanked : ∀ joins : List Join,
    joinIngredients (blankedJoins joins) = (joinIngredients joins).map Ingredient.blanked
  | [] => rfl
  | j :: rest => by
    rw [blankedJoins, joinIngredients, joinIngredients, j.ingredients_blanked,
      joinIngredients_blanked rest, List.map_append]

theorem filterIngredients_blanked : ∀ filters : List Condition,
    filterIngredients (blankedFilters filters) =
      (filterIngredients filters).map Ingredient.blanked
  | [] => rfl
  | w :: rest => by
    rw [blankedFilters, filterIngredients, filterIngredients, w.ingredients_blanked,
      filterIngredients_blanked rest, List.map_append]

theorem sourceIngredients_blanked : ∀ source : Option Source,
    sourceIngredients (blankedSource source) = (sourceIngredients source).map Ingredient.blanked
  | none => rfl
  | some (.table name aliasName) => by
    simp [blankedSource, sourceIngredients, Ingredient.blanked]
  | some (.derived d) => by
    simp [blankedSource, sourceIngredients, Ingredient.blanked, d.ingredients_blanked,
      d.aliasName_blanked]

theorem unionIngredients_blanked : ∀ unions : List UnionArm,
    unionIngredients (blankedUnions unions) = (unionIngredients unions).map Ingredient.blanked
  | [] => rfl
  | ⟨query, _⟩ :: rest => by
    rw [blankedUnions, unionIngredients, unionIngredients, query.ingredients_blanked,
      unionIngredients_blanked rest, List.map_append]

theorem bodyIngredients_blanked : ∀ bodies : List Query,
    bodyIngredients (blankedBodies bodies) = (bodyIngredients bodies).map Ingredient.blanked
  | [] => rfl
  | q :: rest => by
    rw [blankedBodies, bodyIngredients, bodyIngredients, q.ingredients_blanked,
      bodyIngredients_blanked rest, List.map_append]

/-- The clauses of a selection, in the order in which they are written. -/
theorem Selection.ingredients_blanked :
    ∀ s : Selection, s.blanked.ingredients = s.ingredients.map Ingredient.blanked
  | ⟨_, source, joins, filters, _, having, _, _, unions⟩ => by
    simp [Selection.blanked, Selection.ingredients, sourceIngredients_blanked source,
      joinIngredients_blanked joins, filterIngredients_blanked filters,
      conditionIngredients_blanked having, unionIngredients_blanked unions]

theorem Mutation.whereIngredients_blanked :
    ∀ m : Mutation, m.blanked.whereIngredients = m.whereIngredients.map Ingredient.blanked
  | ⟨_, _, filters⟩ => filterIngredients_blanked filters

theorem WithClause.ingredients_blanked :
    ∀ w : WithClause, w.blanked.ingredients = w.ingredients.map Ingredient.blanked
  | ⟨_, bodies, _, _, selection⟩ => by
    simp [WithClause.blanked, WithClause.ingredients, bodyIngredients_blanked bodies,
      selection.ingredients_blanked]

/-- A statement of any kind. -/
theorem Statement.ingredients_blanked :
    ∀ s : Statement, s.blanked.ingredients = s.ingredients.map Ingredient.blanked
  | .empty => rfl
  | .select s => s.ingredients_blanked
  | .insert m => by
    simp [Statement.blanked, Statement.ingredients, m.target_blanked, m.assignments_blanked,
      assignmentIngredients_blanked, Ingredient.blanked]
  | .update m => by
    simp [Statement.blanked, Statement.ingredients, m.target_blanked, m.assignments_blanked,
      assignmentIngredients_blanked, m.whereIngredients_blanked, Ingredient.blanked]
  | .delete m => by
    simp [Statement.blanked, Statement.ingredients, m.target_blanked,
      m.whereIngredients_blanked, Ingredient.blanked]
  | .with_ w => w.ingredients_blanked

/-- A draft without its literals has the ingredients of the draft, place by place. -/
theorem Draft.ingredients_blanked :
    ∀ d : Draft, d.blanked.ingredients = d.ingredients.map Ingredient.blanked
  | ⟨_, tables, statement, _, _, _⟩ => by
    rw [Draft.blanked, Draft.ingredients, Draft.ingredients, statement.ingredients_blanked,
      List.map_append, tables.ingredients_blanked]

end

end BoundSql
