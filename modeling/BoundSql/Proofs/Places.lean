import BoundSql.Proofs.OwnDialect

/-!
# Places for a query

A query stands in a statement as an operand of a condition, possibly deep within lists, as a
union arm, as the body of a table expression or as the table that is read from. A place is one
of these with all that is around it in the same step (`Place`), and filled with a draft it is
that step (`Place.step`). How an operand, a comparison or a condition is written depends on the
query in it only by how the query itself is written (`ConditionPlace.render_holding`).
-/

set_option autoImplicit false

namespace BoundSql

/-- A place in an operand: the operand itself, or a place in one item of a list. -/
inductive OperandPlace where
  | whole
  | item (before : List Operand) (place : OperandPlace) (after : List Operand)

/-- A place on either side of a comparison. -/
inductive ComparisonPlace where
  | left (conjunction : Option Conjunction) (place : OperandPlace) (operator : Operator)
      (destination : Option Operand)
  | right (conjunction : Option Conjunction) (source : Option Operand) (operator : Operator)
      (place : OperandPlace)

/-- A place in a condition: in one of its comparisons, or in the operand that waits for one. -/
inductive ConditionPlace where
  | compared (before : List Comparison) (place : ComparisonPlace) (after : List Comparison)
      (pending : Option PendingOperand) (fault : Option Fault)
  | awaiting (comparisons : List Comparison) (conjunction : Option Conjunction)
      (place : OperandPlace) (fault : Option Fault)

/-- A place in a step. -/
inductive Place where
  | filter (place : ConditionPlace)
  | having (place : ConditionPlace)
  | join (table : TableRef) (kind : JoinKind) (place : ConditionPlace)
  | union (keepsAll : Bool)
  | body (next : Option Text)
  | derived

/-- The operand with a query in the place. -/
def OperandPlace.holding (q : Query) : OperandPlace → Operand
  | .whole => .query q
  | .item before place after => .list (before ++ place.holding q :: after)

/-- The comparison with a query in the place. -/
def ComparisonPlace.holding (q : Query) : ComparisonPlace → Comparison
  | .left conjunction place operator destination =>
    ⟨conjunction, some (place.holding q), operator, destination⟩
  | .right conjunction source operator place =>
    ⟨conjunction, source, operator, some (place.holding q)⟩

/-- The condition with a query in the place. -/
def ConditionPlace.holding (q : Query) : ConditionPlace → Condition
  | .compared before place after pending fault =>
    ⟨before ++ place.holding q :: after, pending, fault⟩
  | .awaiting comparisons conjunction place fault =>
    ⟨comparisons, some ⟨conjunction, some (place.holding q)⟩, fault⟩

/-- The step with a draft in the place. -/
def Place.step (d : Draft) : Place → Step
  | .filter place => .filter (place.holding (.drafted d))
  | .having place => .having (place.holding (.drafted d))
  | .join table kind place => .join ⟨table, kind, some (place.holding (.drafted d))⟩
  | .union keepsAll => .union ⟨.drafted d, keepsAll⟩
  | .body next => .body (.drafted d) next
  | .derived => .source (.derived d)

/-! ## Forms -/

/-- Of the items of a list, the form of its comparison depends only on which are queries. -/
theorem Operand.listForm_congr {items items' : List Operand}
    (h : items.map Operand.isQuery = items'.map Operand.isQuery) :
    (Operand.list items).listForm = (Operand.list items').listForm := by
  match items, items' with
  | [], [] => rfl
  | [only], [only'] =>
    have same : only.isQuery = only'.isQuery := by simpa using h
    simp only [Operand.listForm, same]
  | _ :: _ :: _, _ :: _ :: _ => rfl
  | [_], _ :: _ :: _ | _ :: _ :: _, [_] => simp at h

/-- Whether a list has two bounds is a question of its length. -/
theorem Operand.rangeForm_congr {items items' : List Operand}
    (h : items.length = items'.length) :
    (Operand.list items).rangeForm = (Operand.list items').rangeForm := by
  match items, items' with
  | [], [] => rfl
  | [_], [_] => rfl
  | [_, _], [_, _] => rfl
  | _ :: _ :: _ :: _, _ :: _ :: _ :: _ => rfl

namespace OperandPlace

variable (q q' : Query) (place : OperandPlace)

/-- An operand around a place for queries is a query whichever query it holds. -/
theorem isQuery_holding : (place.holding q).isQuery = (place.holding q').isQuery := by
  cases place <;> rfl

/-- It is a list or not whichever query it holds. -/
theorem isList_holding : (place.holding q).isList = (place.holding q').isList := by
  cases place <;> rfl

/-- It has the same form behind a list operator. -/
theorem listForm_holding : (place.holding q).listForm = (place.holding q').listForm := by
  cases place with
  | whole => rfl
  | item before place after =>
    apply Operand.listForm_congr
    simp only [List.map_append, List.map_cons, place.isQuery_holding q q']

/-- It has the same form as a pair of bounds, or the same fault. -/
theorem rangeForm_holding : (place.holding q).rangeForm = (place.holding q').rangeForm := by
  cases place with
  | whole => rfl
  | item before place after =>
    apply Operand.rangeForm_congr
    simp only [List.length_append, List.length_cons]

/-- The form of a comparison does not depend on which query is compared. -/
theorem form_holding (op : Operator) :
    op.form (some (place.holding q)) = op.form (some (place.holding q')) := by
  simp only [Operator.form, Operator.formWith, place.isQuery_holding q q',
    place.isList_holding q q', place.listForm_holding q q', place.rangeForm_holding q q']

end OperandPlace

/-! ## Queries that are written alike -/

section Alike

variable {scope : Scope} {q q' : Query} (h : q.render scope.lexicon = q'.render scope.lexicon)

/-- One item of a list may be exchanged for another that is rendered alike. -/
theorem renderItems_congr_at {position : Position} {o o' : Operand}
    (same : o.render scope position = o'.render scope position) (before after : List Operand) :
    renderItems scope position (before ++ o :: after) =
      renderItems scope position (before ++ o' :: after) := by
  induction before with
  | nil => rw [List.nil_append, List.nil_append, renderItems, renderItems, same]
  | cons first rest ih => rw [List.cons_append, List.cons_append, renderItems, renderItems, ih]

/-- So may one comparison, if it has the same conjunction. -/
theorem renderTerms_congr_at {c c' : Comparison} (same : c.render scope = c'.render scope)
    (conjunction : c.conjunction = c'.conjunction) (before after : List Comparison) :
    renderTerms scope (before ++ c :: after) = renderTerms scope (before ++ c' :: after) := by
  induction before with
  | nil =>
    rw [List.nil_append, List.nil_append, renderTerms, renderTerms, same]
    simp only [Comparison.parts, conjunction]
  | cons first rest ih => rw [List.cons_append, List.cons_append, renderTerms, renderTerms, ih]

include h

/-- Queries that are rendered alike may be exchanged within an operand. -/
theorem OperandPlace.render_holding (position : Position) (place : OperandPlace) :
    (place.holding q).render scope position = (place.holding q').render scope position := by
  induction place with
  | whole => rw [holding, holding, Operand.render, Operand.render, h]
  | item before place after ih =>
    rw [holding, holding, Operand.render, Operand.render, renderItems_congr_at ih]

/-- So they may among the parts of a destination. -/
theorem OperandPlace.renderDestination_holding (place : OperandPlace) :
    renderDestination scope (some (place.holding q)) =
      renderDestination scope (some (place.holding q')) := by
  cases place with
  | whole =>
    have only := OperandPlace.whole.render_holding h .destination
    simp only [holding] at only
    simp only [holding, renderDestination, only]
  | item before place after =>
    exact renderItems_congr_at (place.render_holding h .destination) before after

/-- And on either side of a comparison, whose form does not depend on them. -/
theorem ComparisonPlace.render_holding (place : ComparisonPlace) :
    (place.holding q).render scope = (place.holding q').render scope := by
  -- The place is on one side, and the other side stays as it is.
  cases place with
  | left conjunction place operator destination =>
    simp only [holding, Comparison.render, renderSource, place.render_holding h]
  | right conjunction source operator place =>
    simp only [holding, Comparison.render, place.form_holding q q',
      place.renderDestination_holding h]

/-- A condition is written in the same way with two queries that are. -/
theorem ConditionPlace.render_holding (place : ConditionPlace) :
    (place.holding q).render scope = (place.holding q').render scope := by
  cases place with
  | compared before place after pending fault =>
    have conjunction : (place.holding q).conjunction = (place.holding q').conjunction := by
      cases place <;> rfl
    have terms := renderTerms_congr_at (place.render_holding h) conjunction before after
    simp only [holding, Condition.render, terms]
    rfl
  | awaiting comparisons conjunction place fault =>
    -- An operand that waits is not written. That it waits behind a conjunction is a mistake.
    cases conjunction <;> cases fault <;> rfl

end Alike

/-- The conjunctions of a condition are outside its places for queries. -/
theorem ConditionPlace.hasOr_holding (q q' : Query) (place : ConditionPlace) :
    (place.holding q).hasOr = (place.holding q').hasOr := by
  cases place with
  | awaiting => rfl
  | compared before place after pending fault =>
    have conjunction : (place.holding q).conjunction = (place.holding q').conjunction := by
      cases place <;> rfl
    simp only [holding, Condition.hasOr, List.any_append, List.any_cons, conjunction]

end BoundSql
