import BoundSql.Proofs.Chains
import BoundSql.Proofs.Nesting

/-!
# Among one operand, or among a list of one

`IN` and `NOT IN` take a list, and where they are given one operand that is no list they look among
that operand alone. Both comparisons are written with one pair of parentheses around the operand: a
query brings its own, and any other operand is given them, in a list or not
(`Comparison.render_of_single`, `Comparison.render_of_listed`). Conditions with the one or the other
stay alike through whatever calls follow (`Condition.Alike.apply`), so the one may be written for
the other wherever the comparison stands in a chain, and wherever the condition stands in a
statement (`Condition.among_single`).

The items of a list within a list keep parentheses of their own, and so a list may not be exchanged
for the list of it.
-/

set_option autoImplicit false

namespace BoundSql

open List (Forall₂)

/-! ## Chains that are alike -/

/-- Both comparisons have the same conjunction before them and are written alike in every scope. -/
structure Comparison.Alike (c c' : Comparison) : Prop where
  conjunction : c.conjunction = c'.conjunction
  render : ∀ scope : Scope, c.render scope = c'.render scope

/-- Both conditions have comparisons that are alike, with the same operand waiting and the same
mistake. -/
structure Condition.Alike (w w' : Condition) : Prop where
  comparisons : Forall₂ Comparison.Alike w.comparisons w'.comparisons
  pending : w.pending = w'.pending
  fault : w.fault = w'.fault

theorem renderTerms_of_alike (scope : Scope) {cs cs' : List Comparison}
    (h : Forall₂ Comparison.Alike cs cs') : renderTerms scope cs = renderTerms scope cs' := by
  induction h with
  | nil => rfl
  | cons first _ ih =>
    rw [renderTerms, renderTerms, first.render scope, ih]
    simp only [Comparison.parts, first.conjunction]

namespace Condition

variable {w w' : Condition}

theorem Alike.refl (w : Condition) : w.Alike w :=
  ⟨List.forall₂_same.2 fun _ _ => ⟨rfl, fun _ => rfl⟩, rfl, rfl⟩

theorem Alike.render (h : w.Alike w') (scope : Scope) : w.render scope = w'.render scope := by
  have terms := renderTerms_of_alike scope h.comparisons
  rcases w with ⟨comparisons, pending, fault⟩
  rcases w' with ⟨comparisons', pending', fault'⟩
  obtain rfl := h.pending
  obtain rfl := h.fault
  have objection : objection? ⟨comparisons, pending, fault⟩ =
      objection? ⟨comparisons', pending, fault⟩ := rfl
  simp only at terms
  rw [Condition.render, Condition.render, objection, terms]

theorem Alike.matches (h : w.Alike w') (lex : Lexicon) : w.Matches lex w' := by
  refine ⟨fun scope _ => h.render scope, ?_⟩
  rw [hasOr, hasOr]
  have comparisons := h.comparisons
  generalize w.comparisons = cs, w'.comparisons = cs' at comparisons ⊢
  induction comparisons with
  | nil => rfl
  | cons first _ ih => rw [List.any_cons, List.any_cons, first.conjunction, ih]

/-- Conditions that are alike stay so where both are closed by comparisons that are alike. -/
theorem Alike.close (h : w.Alike w') (op : Operator) {destination destination' : Option Operand}
    (same : ∀ conjunction source, Comparison.Alike ⟨conjunction, source, op, destination⟩
      ⟨conjunction, source, op, destination'⟩) :
    (w.close op destination).Alike (w'.close op destination') where
  comparisons := by
    -- Whether a term is open does not depend on what closes it.
    cases waits : w.pending with
    | none =>
      have waits' : w'.pending = none := h.pending.symm.trans waits
      simp only [Condition.close, waits, waits']
      exact h.comparisons
    | some p =>
      have waits' : w'.pending = some p := h.pending.symm.trans waits
      rw [comparisons_close waits, comparisons_close waits']
      exact forall₂_concat h.comparisons (same p.conjunction p.source)
  pending := (Move.pending_apply w (.close op destination)).trans
    (Move.pending_apply w' (.close op destination')).symm
  fault := by
    have left := Move.fault_apply w (.close op destination)
    have right := Move.fault_apply w' (.close op destination')
    rw [← h.fault, ← h.pending] at right
    exact left.trans right.symm

/-- A move leaves conditions that are alike so. -/
theorem Alike.move (h : w.Alike w') (m : Move) : (m.apply w).Alike (m.apply w') := by
  have fault : (m.apply w).fault = (m.apply w').fault := by
    rw [Move.fault_apply, Move.fault_apply, h.fault, h.pending]
  cases m with
  | conjoin c source =>
    refine ⟨?_, rfl, fault⟩
    show Forall₂ _ (w.conjoin c source).comparisons (w'.conjoin c source).comparisons
    rw [comparisons_conjoin, comparisons_conjoin]
    exact h.comparisons
  | close op destination => exact h.close op fun _ _ => ⟨rfl, fun _ => rfl⟩
  | unknown name => exact ⟨h.comparisons, rfl, fault⟩

theorem Alike.apply (h : w.Alike w') (call : Call) : (call.apply w).Alike (call.apply w') := by
  rw [Call.apply_eq_foldl_moves, Call.apply_eq_foldl_moves]
  generalize call.moves = moves
  induction moves generalizing w w' with
  | nil => exact h
  | cons m rest ih => exact ih (h.move m)

/-- Whatever calls follow, conditions that are alike stay so. -/
theorem Alike.applyAll (h : w.Alike w') (calls : List Call) :
    (calls.foldl Call.apply w).Alike (calls.foldl Call.apply w') := by
  induction calls generalizing w w' with
  | nil => exact h
  | cons call rest ih => exact ih (h.apply call)

/-! ## One operand for the list of it -/

/-- A call that compares by `IN` or by `NOT IN`. -/
def Call.among (negated : Bool) (o : Operand) : Call := if negated then .notIn o else .isIn o

/-- Where a condition stands in a step. -/
inductive Standing where
  | filter
  | having
  | qualifier (table : TableRef) (kind : JoinKind)

/-- The step with a condition standing in it. -/
def Standing.step (w : Condition) : Standing → Step
  | .filter => .filter w
  | .having => .having w
  | .qualifier table kind => .join ⟨table, kind, some w⟩

theorem Alike.step (h : w.Alike w') (lex : Lexicon) (standing : Standing) :
    (standing.step w).Matches lex (standing.step w') := by
  cases standing with
  | filter => exact .filter (h.matches lex)
  | having => exact .having (h.matches lex)
  | qualifier table kind =>
    refine .join ⟨rfl, fun scope _ => ?_⟩
    simp only [Join.render, h.render]

theorem alike_among {o : Operand} (single : o.isList = false) (negated : Bool) (w : Condition) :
    ((Call.among negated o).apply w).Alike ((Call.among negated (.list [o])).apply w) := by
  have same (op : Operator) (list : op.arity = .list) (conjunction : Option Conjunction)
      (source : Option Operand) : Comparison.Alike ⟨conjunction, source, op, some o⟩
        ⟨conjunction, source, op, some (.list [o])⟩ := by
    refine ⟨rfl, fun scope => ?_⟩
    rw [Comparison.render_of_single list single, Comparison.render_of_listed list]
  cases negated with
  | false => exact (Alike.refl w).close .isIn (same .isIn rfl)
  | true => exact (Alike.refl w).close .notIn (same .notIn rfl)

/-- A comparison by `IN` or `NOT IN` with one operand that is no list may be made with the list of
that operand: whatever calls come before and after it, and behind whatever values it is rendered,
the condition is written with the same SQL and the same values, or fails with the same fault.
Wherever the condition stands in a statement, the two statements may stand for each other. -/
theorem among_single (opening : Opening) (before after : List Call) {o : Operand}
    (single : o.isList = false) (negated : Bool) :
    let holding := fun d => built opening (before ++ Call.among negated d :: after)
    (∀ scope style prior,
      ((holding o).render scope).map (Fragment.rendered style prior) =
        ((holding (.list [o])).render scope).map (Fragment.rendered style prior)) ∧
    ∀ (lex : Lexicon) (dialect : Dialect) (earlier later : List Step) (standing : Standing),
      let statement := fun d => ((Draft.ofDialect dialect).run
        (earlier ++ standing.step (holding d) :: later)).1
      Draft.Interchangeable lex (statement o) (statement (.list [o])) := by
  intro holding
  have alike : (holding o).Alike (holding (.list [o])) := by
    simp only [holding, built, List.foldl_append, List.foldl_cons]
    exact (alike_among single negated _).applyAll after
  refine ⟨fun scope style prior => ?_, fun lex dialect earlier later standing => ?_⟩
  · rw [alike.render scope]
  · simp only [Draft.run_append]
    -- Up to the condition the two runs are one.
    have placed := (Draft.Matches.refl ((Draft.ofDialect dialect).run earlier).1).after_step
      (alike.step lex standing)
    exact (placed.after_run later).interchangeable

/-- Not among one value, or not among the list of it, between other comparisons. -/
theorem among_single_of_value :
    let holding := fun d => built (.column "id")
      ([.isNull, .or "id"] ++ Call.among true d :: [.and "n", .greater (.value (.int 2))])
    (Operand.value (.int 7)).isList = false ∧
      (holding (.value (.int 7))).rendered .postgres .empty =
        (holding (.list [.value (.int 7)])).rendered .postgres .empty ∧
      ((holding (.value (.int 7))).rendered .postgres .empty).toOption.map Rendered.sql =
        some "id IS NULL OR id NOT IN (%s) AND n > %s".toList := by
  intro holding
  have exchanged := among_single (.column "id") [.isNull, .or "id"]
    [.and "n", .greater (.value (.int 2))] (o := .value (.int 7)) rfl true
  exact ⟨rfl, exchanged.1 _ _ [], by decide⟩

-- A list is something else than the list of it.
example :
    let sql := fun d => ((built (.column "id") [.isIn d]).rendered .generic .empty).toOption.map
      Rendered.sql
    sql (.list [.value (.int 7)]) = some "id IN (?)".toList ∧
      sql (.list [.list [.value (.int 7)]]) = some "id IN ((?))".toList := by
  decide

end Condition

end BoundSql
