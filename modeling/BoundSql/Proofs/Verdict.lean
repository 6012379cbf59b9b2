import BoundSql.Proofs.Rendering

/-!
# Verdicts and bound values

What a dialect cannot decide about a draft: whether it can be rendered, of which kind the
fault is if it cannot, and which values are bound if it can. All three are in the draft
itself. A lexicon may put another table name into the words of a fault, and that is all.

Two renderings `Concur` when both succeed or both fail with faults of one kind. The
induction compares the renderings of one piece of syntax in two scopes that need not have
anything in common (`Draft.render_concur`), since a scope decides on the text that is
written and never on whether there is one.
-/

set_option autoImplicit false

namespace BoundSql

/-! ## Kinds of faults -/

/-- What a fault is about, without its particulars. -/
inductive FaultKind where
  | configuration
  | duplicateOrigin
  | duplicateAlias
  | duplicateTable
  | unsupportedOperator
  | missingOperand
  | statementState
  deriving DecidableEq, Repr

/-- The kind of a fault. The three conflicts of tables are kinds of their own. -/
def Fault.kind : Fault → FaultKind
  | .configuration _ => .configuration
  | .conflict (.secondOrigin _ _) => .duplicateOrigin
  | .conflict (.sharedAlias _ _ _) => .duplicateAlias
  | .conflict (.repeatedTable _) => .duplicateTable
  | .unsupportedOperator _ => .unsupportedOperator
  | .missingOperand _ => .missingOperand
  | .statementState _ => .statementState

/-- Both computations succeed, or both fail with faults of one kind. -/
def Concur {α β : Type} : Except Fault α → Except Fault β → Prop
  | .ok _, .ok _ => True
  | .error f, .error g => f.kind = g.kind
  | _, _ => False

section Steps

variable {α β γ δ : Type} {x : Except Fault α} {y : Except Fault β}

/-- Two successes agree, whatever they succeed with. -/
theorem concur_ok (a : α) (b : β) : Concur (.ok a) (.ok b) := trivial

/-- Two failures agree if they have the same fault. -/
theorem concur_error (fault : Fault) :
    Concur (.error fault : Except Fault α) (.error fault : Except Fault β) := rfl

/-- What concurs and goes on with concurring steps concurs. -/
theorem Concur.bind {k : α → Except Fault γ} {l : β → Except Fault δ} (h : Concur x y)
    (hk : ∀ a b, x = .ok a → y = .ok b → Concur (k a) (l b)) : Concur (x >>= k) (y >>= l) := by
  cases x with
  | error f =>
    cases y with
    | error g => exact h
    | ok b => cases h
  | ok a =>
    cases y with
    | error g => cases h
    | ok b => exact hk a b rfl rfl

/-- What concurs and is finished by a plain step concurs. -/
theorem Concur.bind_ok (h : Concur x y) (f : α → γ) (g : β → δ) :
    Concur (x >>= fun a => .ok (f a)) (y >>= fun b => .ok (g b)) :=
  h.bind fun a b _ _ => concur_ok (f a) (g b)

end Steps

/-! ## One piece of syntax in two scopes -/

mutual

/-- An operand fails in one scope as it does in any other. Names are looked up without failing. -/
theorem Operand.render_concur (s t : Scope) (p q : Position) :
    ∀ o : Operand, Concur (o.render s p) (o.render t q)
  | .column _ _ => concur_ok _ _
  | .value _ => concur_ok _ _
  | .list items => (items_concur s t p q items).bind_ok _ _
  | .query query => (query.render_concur s.lexicon t.lexicon).bind_ok _ _
termination_by structural o => o

/-- The items of a list fail at the same item. -/
theorem items_concur (s t : Scope) (p q : Position) :
    ∀ items : List Operand, Concur (renderItems s p items) (renderItems t q items)
  | [] => concur_ok _ _
  | o :: rest => by
    apply (o.render_concur s t p q).bind
    intro first other _ _
    exact (items_concur s t p q rest).bind_ok _ _

/-- Given SQL never fails, and a draft fails in every lexicon alike. -/
theorem Query.render_concur (l m : Lexicon) : ∀ q : Query, Concur (q.render l) (q.render m)
  | .text _ => concur_ok _ _
  | .drafted d => d.render_concur l m

/-- A missing source is missing in every scope. -/
theorem source_concur (s t : Scope) (op : Operator) :
    ∀ source : Option Operand, Concur (renderSource s op source) (renderSource t op source)
  | none => concur_error _
  | some o => o.render_concur s t .source .source

/-- The parts of a destination, which is a list in both scopes or in neither. -/
theorem destination_concur (s t : Scope) : ∀ destination : Option Operand,
    Concur (renderDestination s destination) (renderDestination t destination)
  | none => concur_ok _ _
  | some (.list items) => items_concur s t .destination .destination items
  | some (.column name qualifier) =>
    ((Operand.column name qualifier).render_concur s t .destination .destination).bind_ok _ _
  | some (.value v) =>
    ((Operand.value v).render_concur s t .destination .destination).bind_ok _ _
  | some (.query q) =>
    ((Operand.query q).render_concur s t .destination .destination).bind_ok _ _

/-- The form of a comparison does not depend on its scope. -/
theorem Comparison.render_concur (s t : Scope) :
    ∀ c : Comparison, Concur (c.render s) (c.render t)
  | ⟨conjunction, source, op, destination⟩ => by
    have left := source_concur s t op source
    have parts := destination_concur s t destination
    -- The form is found from the operator and the destination, before any scope comes in.
    cases hf : op.form destination with
    | error fault =>
      rw [Comparison.render_of_error hf, Comparison.render_of_error hf]
      exact concur_error fault
    | ok form =>
      cases Operator.formOf hf with
      | constant _ =>
        rw [Comparison.render_of_constant hf, Comparison.render_of_constant hf]
        exact concur_ok _ _
      | suffixed _ =>
        rw [Comparison.render_of_suffixed hf, Comparison.render_of_suffixed hf]
        exact left.bind_ok _ _
      | exists_ _ =>
        rw [Comparison.render_of_exists hf, Comparison.render_of_exists hf]
        exact parts.bind_ok _ _
      | infix_ _ _ _ two =>
        rw [Comparison.render_of_infix hf two, Comparison.render_of_infix hf two]
        apply left.bind
        intro first other _ _
        exact parts.bind_ok _ _

/-- The terms of a condition in order. -/
theorem terms_concur (s t : Scope) : ∀ comparisons : List Comparison,
    Concur (renderTerms s comparisons) (renderTerms t comparisons)
  | [] => concur_ok _ _
  | c :: rest => by
    apply (c.render_concur s t).bind
    intro first other _ _
    exact (terms_concur s t rest).bind_ok _ _

/-- What speaks against a condition does not depend on its scope. -/
theorem Condition.render_concur (s t : Scope) :
    ∀ w : Condition, Concur (w.render s) (w.render t)
  | ⟨comparisons, pending, fault⟩ => by
    simp only [Condition.render]
    split
    · exact concur_error _
    · exact (terms_concur s t comparisons).bind_ok _ _

/-- A join names its table in the fault, which may differ, but not in the kind of the fault. -/
theorem Join.render_concur (s t : Scope) : ∀ j : Join, Concur (j.render s) (j.render t)
  | ⟨_, _, none⟩ => rfl
  | ⟨ref, kind, some w⟩ => by
    simp only [Join.render]
    apply (w.render_concur _ _).bind
    intro sql other hsql hother
    -- Both scopes find the qualifier empty exactly when it has no comparisons.
    rw [w.yields_isEmpty _ sql hsql, w.yields_isEmpty _ other hother]
    split
    · rfl
    · exact concur_ok _ _

/-- The joins of a selection in order. -/
theorem joins_concur (s t : Scope) : ∀ joins : List Join,
    Concur (renderJoins s joins) (renderJoins t joins)
  | [] => concur_ok _ _
  | j :: rest => by
    apply (j.render_concur s t).bind
    intro first other _ _
    exact (joins_concur s t rest).bind_ok _ _

/-- The filters in order, until one fails. Leaving out the empty ones never fails. -/
theorem filters_concur (s t : Scope) (several : Bool) : ∀ filters : List Condition,
    Concur (renderFilters s several filters) (renderFilters t several filters)
  | [] => concur_ok _ _
  | w :: rest => by
    apply (w.render_concur s t).bind
    intro first other _ _
    exact (filters_concur s t several rest).bind_ok _ _

/-- A HAVING condition, or none. -/
theorem having_concur (s t : Scope) : ∀ having : Option Condition,
    Concur (renderHaving s having) (renderHaving t having)
  | none => concur_ok _ _
  | some w => w.render_concur s t

/-- Only a draft that is read from can fail. -/
theorem from_concur (l m : Lexicon) : ∀ source : Option Source,
    Concur (renderFrom l source) (renderFrom m source)
  | none => concur_ok _ _
  | some (.table _ _) => concur_ok _ _
  | some (.derived d) => (d.render_concur l m).bind_ok _ _

/-- The appended queries in order. -/
theorem unions_concur (l m : Lexicon) : ∀ unions : List UnionArm,
    Concur (renderUnions l unions) (renderUnions m unions)
  | [] => concur_ok _ _
  | ⟨query, _⟩ :: rest => by
    apply (query.render_concur l m).bind
    intro first other _ _
    exact (unions_concur l m rest).bind_ok _ _

/-- The bodies of a WITH in order. -/
theorem bodies_concur (l m : Lexicon) : ∀ bodies : List Query,
    Concur (renderBodies l bodies) (renderBodies m bodies)
  | [] => concur_ok _ _
  | q :: rest => by
    apply (q.render_concur l m).bind
    intro first other _ _
    exact (bodies_concur l m rest).bind_ok _ _

/-- Column lists never fail, so the other clauses decide. -/
theorem Selection.render_concur (s t : Scope) :
    ∀ x : Selection, Concur (x.render s) (x.render t)
  | ⟨_, source, joins, filters, _, having, _, _, unions⟩ => by
    apply (from_concur s.lexicon t.lexicon source).bind
    intro readFrom readFrom' _ _
    apply (joins_concur s t joins).bind
    intro joined joined' _ _
    apply (filters_concur s t _ filters).bind
    intro kept kept' _ _
    apply (having_concur s t having).bind
    intro sql sql' _ _
    exact (unions_concur s.lexicon t.lexicon unions).bind_ok _ _

/-- The filters of a mutation. -/
theorem Mutation.where_concur (s t : Scope) :
    ∀ m : Mutation, Concur (m.renderWhere s) (m.renderWhere t)
  | ⟨_, _, filters⟩ => (filters_concur s t _ filters).bind_ok _ _

/-- The checks of a WITH count names and bodies and look at nothing else. -/
theorem WithClause.render_concur (s t : Scope) :
    ∀ w : WithClause, Concur (w.render s) (w.render t)
  | ⟨_, bodies, _, _, selection⟩ => by
    simp only [WithClause.render]
    split
    · exact concur_error _
    split
    · exact concur_error _
    · apply (bodies_concur s.lexicon t.lexicon bodies).bind
      intro written written' _ _
      exact (selection.render_concur s t).bind_ok _ _

/-- A statement of any kind has the same verdict in both scopes. -/
theorem Statement.render_concur (s t : Scope) :
    ∀ x : Statement, Concur (x.render s) (x.render t)
  | .empty => concur_error _
  | .select x => x.render_concur s t
  | .insert m => by
    simp only [Statement.render]
    split
    · exact concur_error _
    · exact concur_ok _ _
  | .update m => by
    simp only [Statement.render]
    split
    · exact concur_error _
    · exact (m.where_concur s t).bind_ok _ _
  | .delete m => (m.where_concur s t).bind_ok _ _
  | .with_ w => w.render_concur s t

/-- Any two lexicons agree on whether a draft can be rendered, and on the kind of its
fault if it cannot. -/
theorem Draft.render_concur (l m : Lexicon) : ∀ d : Draft, Concur (d.render l) (d.render m)
  | ⟨_, _, statement, _, none, _⟩ => statement.render_concur _ _
  | ⟨_, _, _, _, some fault, _⟩ => concur_error fault

end

/-! ## The values of a draft -/

/-- Whatever the lexicon, what is rendered for a draft binds the literals of the draft. -/
theorem Draft.yields_bound (lex : Lexicon) (d : Draft) :
    Yields (d.render lex) fun f => f.values = d.bound := by
  intro f hf
  have assembled : Assembled (.any lex) (placed d.ingredients) f :=
    d.yields_assembled (fun _ _ _ => trivial) f hf
  rw [assembled.values_eq, literals_placed]
  rfl

/-- Two renderings of a draft, in any dialects and behind any values, both append the
values that the draft binds, or both fail with faults of one kind. -/
theorem Draft.renderedWithin_concur (d : Draft) (first second : Dialect)
    (prior other : List Value) :
    match d.renderedWithin first prior, d.renderedWithin second other with
    | .ok r, .ok s => r.params = prior ++ d.bound ∧ s.params = other ++ d.bound
    | .error f, .error g => f.kind = g.kind
    | _, _ => False := by
  -- Both renderings fail or neither does, so one case each is left where they differ.
  have concur := d.render_concur first.toLexicon second.toLexicon
  cases hx : d.render first.toLexicon with
  | error f =>
    cases hy : d.render second.toLexicon with
    | error g =>
      rw [hx, hy] at concur
      rw [Draft.renderedWithin_of_error hx, Draft.renderedWithin_of_error hy]
      exact concur
    | ok b =>
      rw [hx, hy] at concur
      cases concur
  | ok a =>
    cases hy : d.render second.toLexicon with
    | error g =>
      rw [hx, hy] at concur
      cases concur
    | ok b =>
      rw [Draft.renderedWithin_of_ok hx, Draft.renderedWithin_of_ok hy]
      exact ⟨congrArg (prior ++ ·) (d.yields_bound _ a hx),
        congrArg (other ++ ·) (d.yields_bound _ b hy)⟩

end BoundSql
