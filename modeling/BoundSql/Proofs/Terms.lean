import BoundSql.Proofs.Ingredients

/-!
# Outcomes of rendering

What can be said of a rendering that succeeds, step by step, and the shapes that one
comparison can take. A comparison is written in one of four ways, and which one it is
depends on its operator and its destination only (`Operator.formOf`). Every later
argument over the renderer takes the four ways as its cases.

A comparison is never written as nothing (`Comparison.yields_ne_nil`), so a condition is
empty exactly when it has no comparisons (`Condition.yields_isEmpty`).
-/

set_option autoImplicit false

namespace BoundSql

open Fragment (plain)

/-! ## Successful runs -/

/-- Whatever the computation succeeds with satisfies `P`. -/
def Yields {α : Type} (x : Except Fault α) (P : α → Prop) : Prop := ∀ a, x = .ok a → P a

/-- A computation that succeeds yields what holds of its result. -/
theorem yields_ok {α : Type} {P : α → Prop} {a : α} (h : P a) :
    Yields (.ok a : Except Fault α) P := by
  intro b hb
  cases hb
  exact h

/-- A computation that fails yields anything. -/
theorem yields_error {α : Type} {P : α → Prop} (fault : Fault) :
    Yields (.error fault : Except Fault α) P := by
  intro b hb
  cases hb

/-- A second step may use what the first one has succeeded with. -/
theorem yields_bind {α β : Type} {x : Except Fault α} {k : α → Except Fault β} {P : β → Prop}
    (h : ∀ a, x = .ok a → Yields (k a) P) : Yields (x >>= k) P := by
  intro b hb
  -- A first step that fails never comes to the second one.
  cases hx : x with
  | error fault =>
    rw [hx] at hb
    cases hb
  | ok a =>
    rw [hx] at hb
    exact h a hx b hb

/-- A computation in two steps succeeds when both do. -/
theorem bind_eq_ok_iff {α β : Type} {x : Except Fault α} {k : α → Except Fault β} {b : β} :
    (x >>= k) = .ok b ↔ ∃ a, x = .ok a ∧ k a = .ok b := by
  cases x with
  | error fault =>
    constructor
    · intro h
      cases h
    · rintro ⟨a, h, -⟩
      cases h
  | ok a =>
    constructor
    · exact fun h => ⟨a, rfl, h⟩
    · rintro ⟨a', h, hk⟩
      cases h
      exact hk

/-! ## Computations that run alike -/

/-- The second computation runs as the first one does, and where that succeeds it succeeds
with `f` of the result. -/
def Mirrors {α β : Type} (f : α → β) (x : Except Fault α) (y : Except Fault β) : Prop :=
  y = x.map f

section Steps

variable {α β γ δ : Type} {f : α → β} {g : γ → δ} {x : Except Fault α} {y : Except Fault β}

/-- Two results mirror each other if the one is `f` of the other. -/
theorem mirrors_ok {a : α} {b : β} (h : b = f a) : Mirrors f (.ok a) (.ok b) :=
  congrArg Except.ok h

/-- Mistakes mirror each other if they are the same. -/
theorem mirrors_error (fault : Fault) : Mirrors f (.error fault) (.error fault) := rfl

/-- Two steps mirror two steps if the first ones do, and the second ones for every result of the
first. -/
theorem Mirrors.bind {k : α → Except Fault γ} {l : β → Except Fault δ} (h : Mirrors f x y)
    (hk : ∀ a, Mirrors g (k a) (l (f a))) : Mirrors g (x >>= k) (y >>= l) := by
  rw [Mirrors] at h
  rw [h]
  cases x with
  | error fault => exact mirrors_error fault
  | ok a => exact hk a

/-- What mirrors and is finished by a plain step mirrors. -/
theorem Mirrors.bind_ok {k : α → γ} {l : β → δ} (h : Mirrors f x y) (hk : ∀ a, l (f a) = g (k a)) :
    Mirrors g (x >>= fun a => .ok (k a)) (y >>= fun b => .ok (l b)) :=
  h.bind fun a => mirrors_ok (hk a)

end Steps

/-! ## The form of a comparison -/

/-- The forms that have the symbol between two operands. -/
def Form.isInfix : Form → Bool
  | .bare | .enclosed | .range => true
  | _ => false

/-- What the form of a comparison says of its operator and its destination. -/
inductive FormOf (op : Operator) (destination : Option Operand) : Form → Prop where
  | constant (omits : op.omitsOperands destination = true) : FormOf op destination .constant
  | suffixed (unary : op.arity = .unary) : FormOf op destination .suffixed
  | exists_ (same : op = .exists_) : FormOf op destination .exists_
  | infix_ {form : Form} (omits : op.omitsOperands destination = false)
      (notUnary : op.arity ≠ .unary) (notExists : op ≠ .exists_) (two : form.isInfix = true) :
      FormOf op destination form

/-- Only a list operator ever leaves its operands out. -/
theorem Operator.omitsOperands_of_arity {op : Operator} (h : op.arity ≠ .list)
    (destination : Option Operand) : op.omitsOperands destination = false := by
  unfold Operator.omitsOperands
  split
  · exact beq_false_of_ne h
  · rfl

/-- The form of a list operator: without its operands for the empty list, and else
with the symbol between them. -/
theorem Operator.formOf_list {op : Operator} (h : op.arity = .list) (d : Operand) :
    FormOf op (some d) d.listForm := by
  have notUnary : op.arity ≠ .unary := by simp [h]
  have notExists : op ≠ .exists_ := by
    rintro rfl
    cases h
  -- The destination is the empty list, a list of one item, or anything else.
  unfold Operand.listForm
  split
  · exact .constant (by simp [Operator.omitsOperands, h])
  · refine .infix_ rfl notUnary notExists ?_
    split <;> rfl
  · rename_i nonempty _
    refine .infix_ ?_ notUnary notExists (by split <;> rfl)
    unfold Operator.omitsOperands
    split
    · rename_i hd
      cases hd
      exact absurd rfl nonempty
    · rfl

/-- A form comes with what it says of its operator and its destination. -/
theorem Operator.formOf {op : Operator} {destination : Option Operand} {form : Form}
    (h : op.form destination = .ok form) : FormOf op destination form := by
  unfold Operator.form at h
  split at h
  · rename_i unary
    cases h
    exact .suffixed unary
  · rename_i notUnary
    -- Every other operator has to have a destination, and its arity decides what it does with it.
    cases destination with
    | none => cases h
    | some d =>
      simp only [Operator.formWith] at h
      cases ha : op.arity with
      | unary => exact absurd ha notUnary
      | list =>
        rw [ha] at h
        cases h
        exact op.formOf_list ha d
      | binary =>
        rw [ha] at h
        have omits := op.omitsOperands_of_arity (by simp [ha]) (some d)
        by_cases he : op = .exists_
        · simp only [he, if_true] at h
          split at h
          · cases h
            exact .exists_ he
          · cases h
        · simp only [he, if_false] at h
          cases h
          exact .infix_ omits notUnary he (by split <;> rfl)
      | range =>
        rw [ha] at h
        have omits := op.omitsOperands_of_arity (by simp [ha]) (some d)
        have notExists : op ≠ .exists_ := by
          rintro rfl
          cases ha
        simp only [Operand.rangeForm] at h
        split at h
        · cases h
          exact .infix_ omits notUnary notExists rfl
        · cases h

section Terms

variable {scope : Scope} {conjunction : Option Conjunction} {source : Option Operand}
  {op : Operator} {destination : Option Operand}

/-- A destination that does not suit its operator is reported before anything is rendered. -/
theorem Comparison.render_of_error {fault : Fault} (h : op.form destination = .error fault) :
    Comparison.render scope ⟨conjunction, source, op, destination⟩ = .error fault := by
  simp only [Comparison.render, h]
  rfl

/-- In the form for the empty list neither operand is rendered. -/
theorem Comparison.render_of_constant (h : op.form destination = .ok .constant) :
    Comparison.render scope ⟨conjunction, source, op, destination⟩ = .ok op.onEmptyList := by
  simp only [Comparison.render, h]
  rfl

/-- Without a destination only the source is rendered. -/
theorem Comparison.render_of_suffixed (h : op.form destination = .ok .suffixed) :
    Comparison.render scope ⟨conjunction, source, op, destination⟩ =
      (renderSource scope op source >>= fun left => .ok (op.suffixed scope.lexicon left)) := by
  simp only [Comparison.render, h]
  rfl

/-- Behind `EXISTS` only the destination is rendered. -/
theorem Comparison.render_of_exists (h : op.form destination = .ok .exists_) :
    Comparison.render scope ⟨conjunction, source, op, destination⟩ =
      (renderDestination scope destination >>= fun parts =>
        .ok (plain "EXISTS " ++ Form.exists_.right parts)) := by
  simp only [Comparison.render, h]
  rfl

/-- In all other forms the source is rendered first, and then the destination. -/
theorem Comparison.render_of_infix {form : Form} (h : op.form destination = .ok form)
    (two : form.isInfix = true) :
    Comparison.render scope ⟨conjunction, source, op, destination⟩ =
      (renderSource scope op source >>= fun left =>
        renderDestination scope destination >>= fun parts =>
          .ok (op.infixed left (form.right parts))) := by
  cases form with
  | bare | enclosed | range =>
    simp only [Comparison.render, h]
    rfl
  | constant | suffixed | exists_ => cases two

end Terms

/-! ## A comparison among one operand -/

namespace Comparison

variable {scope : Scope} {conjunction : Option Conjunction} {source : Option Operand}
  {op : Operator} {o : Operand}

/-- A comparison among one operand, with one pair of parentheses around it. -/
def renderAmong (scope : Scope) (source : Option Operand) (op : Operator) (o : Operand) :
    Except Fault Fragment := do
  let left ← renderSource scope op source
  let right ← o.render scope .destination
  return op.infixed left (if o.isQuery then right else right.parenthesized)

/-- A list operator takes every destination. -/
theorem form_of_list (list : op.arity = .list) (d : Operand) :
    op.form (some d) = .ok d.listForm := by
  have notUnary : op.arity ≠ .unary := by simp [list]
  rw [Operator.form, if_neg notUnary]
  simp only [Operator.formWith, list]

/-- Behind one operand in the form of a list there is one part, with or without parentheses. -/
theorem right_single (right : Fragment) :
    (if o.isQuery then Form.bare else .enclosed).right [right] =
      if o.isQuery then right else right.parenthesized := by
  split <;> simp [Form.right, Fragment.joined]

/-- One operand is written behind the symbol whether it brings parentheses or not. -/
theorem isInfix_single : (if o.isQuery then Form.bare else .enclosed).isInfix = true := by
  split <;> rfl

/-- Whatever has one operand for its only destination is written alike. -/
theorem render_of_only {d : Operand} (list : op.arity = .list)
    (listForm : d.listForm = if o.isQuery then .bare else .enclosed)
    (only : renderDestination scope (some d) = o.render scope .destination >>= fun right =>
      .ok [right]) :
    render scope ⟨conjunction, source, op, some d⟩ = renderAmong scope source op o := by
  have form := form_of_list list d
  rw [listForm] at form
  rw [Comparison.render_of_infix form isInfix_single, only, renderAmong]
  congr 1
  funext left
  rw [bind_assoc]
  congr 1
  funext right
  exact congrArg (fun written => Except.ok (op.infixed left written)) (right_single right)

/-- One operand that is no list is written with one pair of parentheses. -/
theorem render_of_single (list : op.arity = .list) (single : o.isList = false) :
    render scope ⟨conjunction, source, op, some o⟩ = renderAmong scope source op o := by
  cases o with
  | list items => cases single
  | column | value | query => exact render_of_only list rfl rfl

/-- So is one operand in a list. -/
theorem render_of_listed (list : op.arity = .list) :
    render scope ⟨conjunction, source, op, some (.list [o])⟩ =
      renderAmong scope source op o := by
  have only : renderDestination scope (some (.list [o])) =
      o.render scope .destination >>= fun right => .ok [right] := by
    simp only [renderDestination, renderItems]
    rfl
  exact render_of_only list rfl only

end Comparison

/-! ## Conditions that are written as nothing -/

/-- A term with a symbol is not empty. -/
theorem Operator.infixed_ne_nil (op : Operator) (left right : Fragment) :
    op.infixed left right ≠ [] := by
  simp [Operator.infixed, plain]

theorem Operator.suffixed_ne_nil (op : Operator) (lex : Lexicon) (left : Fragment) :
    op.suffixed lex left ≠ [] := by
  unfold Operator.suffixed
  split
  · exact Operator.infixed_ne_nil _ _ _
  · exact Operator.infixed_ne_nil _ _ _
  · simp [plain]

/-- Nor is the term for an empty list. -/
theorem Operator.onEmptyList_ne_nil (op : Operator) : op.onEmptyList ≠ [] := by
  unfold Operator.onEmptyList
  split <;> simp [plain]

/-- A comparison is never written as nothing. -/
theorem Comparison.yields_ne_nil (scope : Scope) (c : Comparison) :
    Yields (c.render scope) (· ≠ []) := by
  rcases c with ⟨conjunction, source, op, destination⟩
  -- One case for each way of writing a comparison; all of them write the symbol.
  cases hf : op.form destination with
  | error fault =>
    rw [Comparison.render_of_error hf]
    exact yields_error fault
  | ok form =>
    cases Operator.formOf hf with
    | constant _ =>
      rw [Comparison.render_of_constant hf]
      exact yields_ok op.onEmptyList_ne_nil
    | suffixed _ =>
      rw [Comparison.render_of_suffixed hf]
      apply yields_bind
      intro left _
      exact yields_ok (op.suffixed_ne_nil _ left)
    | exists_ _ =>
      rw [Comparison.render_of_exists hf]
      apply yields_bind
      intro parts _
      exact yields_ok (by simp [plain])
    | infix_ _ _ _ two =>
      rw [Comparison.render_of_infix hf two]
      apply yields_bind
      intro left _
      apply yields_bind
      intro parts _
      exact yields_ok (op.infixed_ne_nil left (form.right parts))

/-- A row of fragments is not empty if its first one is not. -/
theorem Fragment.joined_ne_nil {separator : Text} {first : Fragment} (h : first ≠ [])
    (rest : List Fragment) : Fragment.joined separator (first :: rest) ≠ [] := by
  cases rest with
  | nil => simpa [Fragment.joined] using h
  | cons second rest => simp [Fragment.joined, List.intercalate_cons_cons, h]

/-- The first part of a term is its conjunction or the term itself, and neither is empty. -/
theorem Comparison.parts_eq_cons (c : Comparison) {term : Fragment} (h : term ≠ []) :
    ∃ first rest, c.parts term = first :: rest ∧ first ≠ [] := by
  rw [Comparison.parts]
  split
  · rename_i conjunction _
    refine ⟨_, _, rfl, ?_⟩
    -- Both keywords have letters.
    cases conjunction <;> simp [plain, Conjunction.keyword]
  · exact ⟨term, [], rfl, h⟩

/-- Some comparisons are not written as nothing. -/
theorem yields_terms_ne_nil (scope : Scope) (c : Comparison) (rest : List Comparison) :
    Yields (renderTerms scope (c :: rest)) fun terms => Fragment.joined " " terms ≠ [] := by
  apply yields_bind
  intro term hterm
  apply yields_bind
  intro later _
  apply yields_ok
  obtain ⟨first, more, hparts, hne⟩ :=
    c.parts_eq_cons (c.yields_ne_nil scope term hterm)
  rw [hparts]
  exact Fragment.joined_ne_nil hne _

/-- A condition that can be rendered is written as nothing exactly when it has no
comparisons. -/
theorem Condition.yields_isEmpty (scope : Scope) (w : Condition) :
    Yields (w.render scope) fun sql => sql.isEmpty = w.comparisons.isEmpty := by
  rcases w with ⟨comparisons, pending, fault⟩
  simp only [Condition.render]
  split
  · exact yields_error _
  · apply yields_bind
    intro terms hterms
    apply yields_ok
    -- Without comparisons there are no terms, and with one there is a term that is not empty.
    cases comparisons with
    | nil =>
      cases hterms
      rfl
    | cons c rest =>
      have hne := yields_terms_ne_nil scope c rest terms hterms
      simpa [List.isEmpty_iff] using hne

end BoundSql
