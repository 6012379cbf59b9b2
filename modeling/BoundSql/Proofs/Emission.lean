import BoundSql.Proofs.Terms
import BoundSql.Render.Emission

/-!
# What is emitted is what is rendered

The renderer that threads the list of bound values has the same outcome as the one that makes
fragments and numbers their marks at the end, for every draft, dialect and list of values
already bound (`Draft.emittedWithin_eq`), and so it is for conditions and joins by themselves.

The list behind a fragment holds what it held before and the values in the slots of the
fragment (`Fragment.pushed`). Of two fragments side by side the second is emitted with the
list that the first one leaves, which is why the number of a mark, taken when its value is
pushed, is its place among all slots of the statement.
-/

set_option autoImplicit false

namespace BoundSql

open Fragment (plain)

/-! ## What is emitted for a fragment -/

namespace Fragment

variable (style : Placeholder)

/-- The SQL of a fragment behind some bound values, and the list with its own values. -/
def pushed (prior : List Value) (f : Fragment) : Text × List Value :=
  (f.sql style prior.length, prior ++ f.values)

/-- The texts of some fragments, each behind the values of those before it. -/
def pushedAll : List Value → List Fragment → List Text × List Value
  | prior, [] => ([], prior)
  | prior, f :: rest =>
    ((f.pushed style prior).1 :: (pushedAll (f.pushed style prior).2 rest).1,
      (pushedAll (f.pushed style prior).2 rest).2)

variable {style} (prior : List Value)

/-- Text without slots leaves the list as it is. -/
@[simp] theorem pushed_plain (text : Text) : (plain text).pushed style prior = (text, prior) := by
  simp [pushed]

@[simp] theorem pushed_nil : pushed style prior [] = ([], prior) :=
  pushed_plain prior []

/-- The second of two fragments is emitted with the list that the first one leaves. -/
theorem pushed_append (f g : Fragment) : (f ++ g).pushed style prior =
    ((f.pushed style prior).1 ++ (g.pushed style (f.pushed style prior).2).1,
      (g.pushed style (f.pushed style prior).2).2) := by
  simp [pushed, sql_append, values_append]

@[simp] theorem pushed_parenthesized (f : Fragment) : f.parenthesized.pushed style prior =
    ((f.pushed style prior).1.parenthesized, (f.pushed style prior).2) := by
  simp [parenthesized, pushed_append, Text.parenthesized]

/-- Of two rows of fragments the second is emitted with the list that the first one leaves. -/
@[simp] theorem pushedAll_append (fs gs : List Fragment) : pushedAll style prior (fs ++ gs) =
    ((pushedAll style prior fs).1 ++ (pushedAll style (pushedAll style prior fs).2 gs).1,
      (pushedAll style (pushedAll style prior fs).2 gs).2) := by
  induction fs generalizing prior with
  | nil => rfl
  | cons f rest ih =>
    rw [List.cons_append, pushedAll, ih]
    rfl

/-- Texts without slots are emitted as they are. -/
@[simp] theorem pushedAll_map_plain (texts : List Text) :
    pushedAll style prior (texts.map plain) = (texts, prior) := by
  induction texts with
  | nil => rfl
  | cons text rest ih => rw [List.map_cons, pushedAll, pushed_plain, ih]

/-- Fragments with separators between them are emitted one after the other. -/
@[simp] theorem pushed_joined (separator : Text) (parts : List Fragment) :
    (joined separator parts).pushed style prior =
      (Text.joined separator (pushedAll style prior parts).1,
        (pushedAll style prior parts).2) := by
  induction parts generalizing prior with
  | nil => exact pushed_nil prior
  | cons f rest ih =>
    cases rest with
    | nil => simp [joined, pushedAll, Text.joined]
    | cons g rest =>
      have later := ih (f.pushed style prior).2
      simp only [joined, Text.joined, pushedAll] at later ⊢
      simp only [List.intercalate_cons_cons, pushed_append, pushed_plain, later]

/-- No mark is empty, and so only the empty fragment is emitted as nothing. -/
theorem isEmpty_pushed (f : Fragment) : (f.pushed style prior).1.isEmpty = f.isEmpty := by
  cases f with
  | nil => rfl
  | cons cell rest =>
    cases cell with
    | char c => rfl
    | slot v => cases style <;> rfl

end Fragment
/-! ## Comparisons by the arity of their operators -/

namespace Comparison

variable {scope : Scope} {conjunction : Option Conjunction} {source : Option Operand}
  {op : Operator}

/-- An operator without a destination does not look at one that is there. -/
theorem render_of_unary (unary : op.arity = .unary) (destination : Option Operand) :
    render scope ⟨conjunction, source, op, destination⟩ =
      renderSource scope op source >>= fun left => .ok (op.suffixed scope.lexicon left) :=
  render_of_suffixed (if_pos unary)

/-- Any other operator asks for its destination before its source is rendered. -/
theorem render_of_noDestination (notUnary : op.arity ≠ .unary) :
    render scope ⟨conjunction, source, op, none⟩ =
      .error (.missingOperand (.noDestination op)) :=
  render_of_error (if_neg notUnary)

/-- The parts of a destination, in parentheses if it is a list, are the destination itself. -/
theorem renderDestination_right (d : Operand) (k : Fragment → Except Fault Fragment) :
    (renderDestination scope (some d) >>= fun parts =>
        k ((if d.isList then Form.enclosed else .bare).right parts)) =
      d.render scope .destination >>= k := by
  have single (only : Fragment) : Form.bare.right [only] = only := by
    simp [Form.right, Fragment.joined]
  cases d with
  | list items =>
    exact (bind_assoc (renderItems scope .destination items)
      (fun parts => .ok (Fragment.joined ", " parts).parenthesized) k).symm
  | column | value | query =>
    refine (bind_assoc _ _ _).trans ?_
    congr 1
    funext only
    exact congrArg k (single only)

/-- With a form that encloses lists and nothing else, both operands stand as they are. -/
theorem render_of_both {d : Operand}
    (form : op.form (some d) = .ok (if d.isList then .enclosed else .bare)) :
    render scope ⟨conjunction, source, op, some d⟩ =
      renderSource scope op source >>= fun left =>
        d.render scope .destination >>= fun right => .ok (op.infixed left right) := by
  rw [Comparison.render_of_infix form (by split <;> rfl)]
  congr 1
  funext left
  exact renderDestination_right d fun right => .ok (op.infixed left right)

/-- An operator of two operands writes a list in parentheses and any other operand bare. -/
theorem form_of_binary (binary : op.arity = .binary) (notExists : op ≠ .exists_) (d : Operand) :
    op.form (some d) = .ok (if d.isList then .enclosed else .bare) := by
  have notUnary : op.arity ≠ .unary := by simp [binary]
  rw [Operator.form, if_neg notUnary]
  simp only [Operator.formWith, binary, if_neg notExists]

/-- `EXISTS` stands before the query, and the source is never rendered. -/
theorem render_of_query {d : Operand} (query : d.isQuery = true) :
    render scope ⟨conjunction, source, .exists_, some d⟩ =
      d.render scope .destination >>= fun sql => .ok (plain "EXISTS " ++ sql) := by
  have form : Operator.exists_.form (some d) = .ok .exists_ := if_pos query
  have notList : d.isList = false := by cases d <;> first | rfl | cases query
  have parts : _ = d.render scope .destination >>= fun sql => .ok (plain "EXISTS " ++ sql) :=
    renderDestination_right d _
  rw [notList] at parts
  rw [render_of_exists form]
  exact parts

/-- `EXISTS` takes nothing but a query. -/
theorem render_of_noQuery {d : Operand} (query : d.isQuery = false) :
    render scope ⟨conjunction, source, .exists_, some d⟩ =
      .error (.missingOperand .existsWithoutQuery) := by
  have form : Operator.exists_.form (some d) = .error (.missingOperand .existsWithoutQuery) := by
    simp [Operator.form, Operator.formWith, Operator.arity, query]
  exact render_of_error form

/-- The source and both bounds are rendered in the order in which they stand. -/
theorem render_of_bounds (range : op.arity = .range) (low high : Operand) :
    render scope ⟨conjunction, source, op, some (.list [low, high])⟩ =
      renderSource scope op source >>= fun left =>
        low.render scope .destination >>= fun low =>
          high.render scope .destination >>= fun high =>
            .ok (op.infixed left (low ++ plain " AND " ++ high)) := by
  have form : op.form (some (.list [low, high])) = .ok .range := by
    simp [Operator.form, Operator.formWith, range, Operand.rangeForm]
  rw [Comparison.render_of_infix form rfl]
  congr 1
  funext left
  simp only [renderDestination, renderItems, bind_assoc]
  congr 1
  funext low
  congr 1
  funext high
  show Except.ok (op.infixed left (Fragment.joined " AND " [low, high])) = _
  rw [Fragment.joined, List.intercalate_cons_cons, List.intercalate_singleton]

/-- Whatever is not a list of two is refused, whether the source is there or not. -/
theorem render_of_noBounds (range : op.arity = .range) {d : Operand}
    (bounds : ∀ low high, d ≠ .list [low, high]) :
    render scope ⟨conjunction, source, op, some d⟩ = .error (.missingOperand .wrongBounds) := by
  refine render_of_error ?_
  have notUnary : op.arity ≠ .unary := by simp [range]
  rw [Operator.form, if_neg notUnary]
  simp only [Operator.formWith, range, Operand.rangeForm]

end Comparison

/-! ## Clauses -/

section Clauses

variable {style : Placeholder} (prior : List Value)

open Fragment (pushed pushedAll)

/-- A value that is bound is emitted as the slot that holds it. -/
theorem pushed_slot (v : Value) :
    style.bind v prior = .ok (pushed style prior [.slot v]) := by
  show (pushValue v prior >>= fun out => .ok (style.token out.1, out.2)) = _
  rw [pushValue_run, pushed, Fragment.sql, Fragment.sql, List.append_nil]
  rfl

/-- The source of a term is emitted before its destination. -/
theorem Operator.pushed_infixed (op : Operator) (f g : Fragment) :
    pushed style prior (op.infixed f g) =
      (op.infixText (pushed style prior f).1 (pushed style (pushed style prior f).2 g).1,
        (pushed style (pushed style prior f).2 g).2) := by
  simp [Operator.infixed, Operator.infixText, Fragment.pushed_append]

theorem Operator.pushed_suffixed (op : Operator) (lex : Lexicon) (f : Fragment) :
    pushed style prior (op.suffixed lex f) =
      (op.suffixText lex (pushed style prior f).1, (pushed style prior f).2) := by
  simp only [Operator.suffixed, Operator.suffixText]
  split
  · simp [Operator.pushed_infixed]
  · simp [Operator.pushed_infixed]
  · simp [Fragment.pushed_append]

theorem Operator.pushed_onEmptyList (op : Operator) :
    pushed style prior op.onEmptyList = (op.emptyListText, prior) := by
  cases op <;> exact Fragment.pushed_plain prior _

/-- A conjunction pushes nothing. -/
theorem Comparison.pushedAll_parts (c : Comparison) (f : Fragment) :
    pushedAll style prior (c.parts f) =
      (c.texts (pushed style prior f).1, (pushed style prior f).2) := by
  simp only [Comparison.parts, Comparison.texts]
  cases c.conjunction <;> simp [pushedAll]

/-- Parentheses around a filter push nothing. -/
theorem Condition.pushed_enclosed (w : Condition) (several : Bool) (f : Fragment) :
    pushed style prior (w.enclosed several f) =
      (w.enclosedText several (pushed style prior f).1, (pushed style prior f).2) := by
  simp only [Condition.enclosed, Condition.enclosedText]
  split
  · exact Fragment.pushed_parenthesized prior f
  · rfl

/-- A clause is left out of the texts where it is left out of the fragments. -/
@[simp] theorem pushedAll_clauseOf (keyword separator : Text) (parts : List Fragment) :
    pushedAll style prior (clauseOf keyword separator parts) =
      (clauseTexts keyword separator (pushedAll style prior parts).1,
        (pushedAll style prior parts).2) := by
  cases parts with
  | nil => rfl
  | cons first rest => simp [clauseOf, clauseTexts, pushedAll]

@[simp] theorem Scope.pushed_selectList (scope : Scope) (columns : List Text) :
    pushed style prior (scope.selectList columns) = (scope.selectText columns, prior) := by
  simp only [Scope.selectList, Scope.selectText]
  cases scope.listItems columns <;> exact Fragment.pushed_plain prior _

@[simp] theorem Scope.pushedAll_listClause (scope : Scope) (keyword : Text)
    (columns : List Text) : pushedAll style prior (scope.listClause keyword columns) =
      (clauseTexts keyword ", " (scope.listItems columns), prior) := by
  simp [Scope.listClause]

@[simp] theorem pushedAll_limitClause (limit : Option Nat) :
    pushedAll style prior (limitClause limit) = (limitTexts limit, prior) := by
  cases limit <;> simp [limitClause, limitTexts, pushedAll]

/-- An assignment cannot fail. -/
theorem Assignment.emit_eq (a : Assignment) :
    a.emit style prior = .ok (pushed style prior a.fragment) := by
  cases a with
  | value v => exact pushed_slot prior v
  | column name => exact congrArg Except.ok (Fragment.pushed_plain prior name).symm

/-- Nor can an item of an UPDATE, whose column pushes nothing. -/
theorem Assignment.emit_setting (a : Assignment) (column : Text) (prior : List Value) :
    (a.emit style >>= fun assigned => pure (column ++ " = " ++ assigned)) prior =
      .ok (pushed style prior (plain (column ++ " = ") ++ a.fragment)) := by
  show (a.emit style prior >>= fun out => _) = _
  rw [a.emit_eq, Fragment.pushed_append, Fragment.pushed_plain]
  rfl

/-- What is emitted item by item without mistakes is emitted for all items in order. -/
theorem pushedAll_mapM {α : Type} {emit : α → Emission Text} {fragment : α → Fragment}
    (each : ∀ a prior, emit a prior = .ok (pushed style prior (fragment a))) (items : List α) :
    items.mapM emit prior = .ok (pushedAll style prior (items.map fragment)) := by
  induction items generalizing prior with
  | nil => rfl
  | cons a rest ih =>
    rw [List.mapM_cons]
    -- A computation that is bound to another is run with the list that it leaves.
    show (emit a prior >>= fun first => rest.mapM emit first.2 >>= fun later => _) = _
    rw [each]
    show (rest.mapM emit (pushed style prior (fragment a)).2 >>= fun later => _) = _
    rw [ih]
    rfl

end Clauses

/-! ## Every rendering is an emission -/

/-- Whatever the list of values is, `m` emits what is rendered by `x`. -/
def Emits (style : Placeholder) (x : Except Fault Fragment) (m : Emission Text) : Prop :=
  ∀ prior, Mirrors (Fragment.pushed style prior) x (m prior)

/-- Whatever the list of values is, `m` emits the fragments that are rendered by `x`. -/
def EmitsAll (style : Placeholder) (x : Except Fault (List Fragment)) (m : Emission (List Text)) :
    Prop :=
  ∀ prior, Mirrors (Fragment.pushedAll style prior) x (m prior)

section Steps

variable {α β γ δ : Type} {prior : List Value} {x : Except Fault α}
  {y : Except Fault γ} {m : Emission β} {v : α → β × List Value} {w : γ → δ × List Value}

/-- A further step is emitted with the list that the first one leaves. -/
theorem Mirrors.emits {k : α → Except Fault γ} {l : β → Emission δ} (h : Mirrors v x (m prior))
    (hk : ∀ a, Mirrors w (k a) (l (v a).1 (v a).2)) : Mirrors w (x >>= k) ((m >>= l) prior) :=
  h.bind hk

/-- A last step that pushes nothing is a step on the text alone. -/
theorem Mirrors.emits_ok {k : α → γ} {l : β → δ} (h : Mirrors v x (m prior))
    (hk : ∀ a, (l (v a).1, (v a).2) = w (k a)) :
    Mirrors w (x >>= fun a => .ok (k a)) ((m >>= fun b => pure (l b)) prior) :=
  h.emits fun a => mirrors_ok (hk a)

/-- A first step that is emitted without mistakes may have been rendered before. -/
theorem mirrors_after {l : β → Emission δ} {out : β × List Value} (first : m prior = .ok out)
    (rest : Mirrors w y (l out.1 out.2)) : Mirrors w y ((m >>= l) prior) := by
  show Mirrors w y (m prior >>= fun out => l out.1 out.2)
  rw [first]
  exact rest

/-- What is rendered in one step may be emitted in two. -/
theorem Mirrors.emits_as {w : α → δ × List Value} {l : β → δ} (h : Mirrors v x (m prior))
    (hk : ∀ a, (l (v a).1, (v a).2) = w a) :
    Mirrors w x ((m >>= fun b => pure (l b)) prior) := by
  rw [← bind_pure x]
  exact h.emits_ok hk

end Steps

/-- A text that begins like a query is written out, and every other value is pushed. -/
theorem Value.emits (style : Placeholder) (v : Value) :
    Emits style (.ok v.fragment) (v.emit style) := by
  intro prior
  cases v with
  | text t =>
    by_cases query : t.isQuery = true
    · simp only [Value.fragment, Value.emit, if_pos query]
      exact mirrors_ok (by simp)
    · simp only [Value.fragment, Value.emit, if_neg query]
      exact pushed_slot prior _
  | null | bool _ | int _ | float _ | uuid _ | timestamp _ | json _ => exact pushed_slot prior _

/-- With the source and one operand emitted in order, the symbol stands between them. -/
theorem emits_infix {style : Placeholder} {x y : Except Fault Fragment} {m n : Emission Text}
    (op : Operator) (left : Emits style x m) (right : Emits style y n) :
    Emits style (x >>= fun left => y >>= fun right => .ok (op.infixed left right))
      (m >>= fun left => n >>= fun right => pure (op.infixText left right)) := by
  intro prior
  apply (left prior).emits
  intro f
  apply (right _).emits_ok
  intro g
  rw [op.pushed_infixed]

section Syntax

variable {style : Placeholder}

open Comparison Fragment

/-- Among one operand that is no list, with parentheses unless it has its own. -/
theorem emits_single {scope : Scope} {conjunction : Option Conjunction}
    {source : Option Operand} {op : Operator} {left : Emission Text} {o : Operand}
    (list : op.arity = .list) (single : o.isList = false)
    (hs : Emits style (renderSource scope op source) left)
    (ho : Emits style (o.render scope .destination) (o.emit style scope .destination)) :
    Emits style (render scope ⟨conjunction, source, op, some o⟩)
      (emitAmong style scope op left (some o)) := by
  -- The branch for a list is closed, and the other kinds of operand have one branch.
  have emission : emitAmong style scope op left (some o) = left >>= fun left =>
      o.emit style scope .destination >>= fun right =>
        pure (op.infixText left (if o.isQuery then right else right.parenthesized)) := by
    cases o with
    | list items => cases single
    | column | value | query => rfl
  rw [render_of_single list single, renderAmong, emission]
  intro prior
  apply (hs prior).emits
  intro f
  apply (ho _).emits_ok
  intro g
  rw [op.pushed_infixed]
  split
  · rfl
  · rw [pushed_parenthesized]

mutual

/-- An operand at either side is emitted as it is rendered. -/
theorem Operand.emits (scope : Scope) (position : Position) : ∀ o : Operand,
    Emits style (o.render scope position) (o.emit style scope position)
  | .column _ _ => fun prior => mirrors_ok (pushed_plain prior _).symm
  | .value v => v.emits style
  | .list items => fun prior => (items_emit scope position items prior).emits_ok fun _ => by simp
  | .query q => fun prior => (q.emits scope.lexicon prior).emits_ok fun _ => by simp
termination_by structural o => o

/-- Each item of a list is emitted with the list of values that the item before it leaves. -/
theorem items_emit (scope : Scope) (position : Position) : ∀ items : List Operand,
    EmitsAll style (renderItems scope position items) (emitItems style scope position items)
  | [] => fun _ => mirrors_ok rfl
  | o :: rest => by
    intro prior
    apply (o.emits scope position prior).emits
    intro first
    exact (items_emit scope position rest _).emits_ok fun _ => rfl

/-- A query in place goes on with the values of the statement around it. -/
theorem Query.emits (lex : Lexicon) : ∀ q : Query,
    Emits style (q.render lex) (q.emit style lex)
  | .text _ => fun prior => mirrors_ok (pushed_plain prior _).symm
  | .drafted d => d.emits lex

/-- A missing source is the same mistake for both renderers. -/
theorem source_emits (scope : Scope) (op : Operator) : ∀ source : Option Operand,
    Emits style (renderSource scope op source) (emitSource style scope op source)
  | none => fun _ => mirrors_error _
  | some o => o.emits scope .source

/-- A comparison with one operand, once its source is known to be emitted. -/
theorem binary_emits {scope : Scope} {conjunction : Option Conjunction}
    {source : Option Operand} {op : Operator} {left : Emission Text}
    (binary : op.arity = .binary) (hs : Emits style (renderSource scope op source) left) :
    ∀ destination : Option Operand,
      Emits style (render scope ⟨conjunction, source, op, destination⟩)
        (emitBinary style scope op left destination)
  | none => by
    rw [render_of_noDestination (by simp [binary])]
    exact fun _ => mirrors_error _
  | some d => by
    have operand := d.emits scope .destination
    simp only [emitBinary]
    -- `EXISTS` is looked at first: it does without a source, and takes a query only.
    by_cases same : op = .exists_
    · subst same
      rw [if_pos rfl]
      cases query : d.isQuery with
      | true =>
        rw [render_of_query query]
        exact fun prior => (operand prior).emits_ok fun _ => by simp [pushed_append]
      | false =>
        rw [render_of_noQuery query]
        exact fun _ => mirrors_error _
    · rw [render_of_both (form_of_binary binary same d), if_neg same]
      exact emits_infix op hs operand

/-- A comparison with a list. The empty list ends before the source is looked at, and a query alone
in a list is emitted without the parentheses of the list. -/
theorem among_emits {scope : Scope} {conjunction : Option Conjunction}
    {source : Option Operand} {op : Operator} {left : Emission Text}
    (list : op.arity = .list) (hs : Emits style (renderSource scope op source) left) :
    ∀ destination : Option Operand,
      Emits style (render scope ⟨conjunction, source, op, destination⟩)
        (emitAmong style scope op left destination)
  | none => by
    rw [render_of_noDestination (by simp [list])]
    exact fun _ => mirrors_error _
  | some (.list []) => by
    rw [render_of_constant (form_of_list list _)]
    exact fun prior => mirrors_ok (op.pushed_onEmptyList prior).symm
  | some (.list [only]) => by
    simp only [emitAmong]
    cases query : only.isQuery with
    | true =>
      rw [render_of_listed list, renderAmong, if_pos rfl]
      simp only [query, if_true]
      exact emits_infix op hs (only.emits scope .destination)
    | false =>
      have form := form_of_list list (.list [only])
      rw [Operand.listForm, query] at form
      rw [render_of_both form, if_neg Bool.false_ne_true]
      exact emits_infix op hs ((Operand.list [only]).emits scope .destination)
  | some (.list (first :: second :: rest)) => by
    rw [render_of_both (form_of_list list _)]
    exact emits_infix op hs ((Operand.list (first :: second :: rest)).emits scope .destination)
  -- What is no list goes by its own branch of the emission, the same for the three kinds.
  | some (.column name qualifier) =>
    emits_single list rfl hs ((Operand.column name qualifier).emits scope .destination)
  | some (.value v) =>
    emits_single list rfl hs ((Operand.value v).emits scope .destination)
  | some (.query q) =>
    emits_single list rfl hs ((Operand.query q).emits scope .destination)

/-- A comparison with two bounds. -/
theorem between_emits {scope : Scope} {conjunction : Option Conjunction}
    {source : Option Operand} {op : Operator} {left : Emission Text}
    (range : op.arity = .range) (hs : Emits style (renderSource scope op source) left) :
    ∀ destination : Option Operand,
      Emits style (render scope ⟨conjunction, source, op, destination⟩)
        (emitBetween style scope op left destination)
  | none => by
    rw [render_of_noDestination (by simp [range])]
    exact fun _ => mirrors_error _
  | some (.list [low, high]) => by
    rw [render_of_bounds range]
    intro prior
    apply (hs prior).emits
    intro f
    apply (low.emits scope .destination _).emits
    intro g
    apply (high.emits scope .destination _).emits_ok
    intro h
    rw [op.pushed_infixed, pushed_append, pushed_append, pushed_plain]
  -- The patterns left are those of an operand that is not a list of two.
  | some (.column _ _) | some (.value _) | some (.query _) | some (.list [])
  | some (.list [_]) | some (.list (_ :: _ :: _ :: _)) => by
    rw [render_of_noBounds range (by simp)]
    exact fun _ => mirrors_error _

/-- A comparison, in the four ways in which operators take their destinations. -/
theorem Comparison.emits (scope : Scope) : ∀ c : Comparison,
    Emits style (c.render scope) (c.emit style scope)
  | ⟨conjunction, source, op, destination⟩ => by
    have left : Emits style _ _ := source_emits scope op source
    simp only [Comparison.emit]
    cases arity : op.arity with
    | unary =>
      rw [render_of_unary arity]
      exact fun prior => (left prior).emits_ok fun f => by rw [op.pushed_suffixed]
    | binary => exact binary_emits arity left destination
    | list => exact among_emits arity left destination
    | range => exact between_emits arity left destination

/-- The comparisons of a condition in order, each behind its conjunction. -/
theorem terms_emit (scope : Scope) : ∀ comparisons : List Comparison,
    EmitsAll style (renderTerms scope comparisons) (emitTerms style scope comparisons)
  | [] => fun _ => mirrors_ok rfl
  | c :: rest => by
    intro prior
    apply (c.emits scope prior).emits
    intro term
    apply (terms_emit scope rest _).emits_ok
    intro later
    rw [pushedAll_append, c.pushedAll_parts]

/-- A condition with a mistake is emitted as little as it is rendered. -/
theorem Condition.emits (scope : Scope) : ∀ w : Condition,
    Emits style (w.render scope) (w.emit style scope)
  | ⟨comparisons, pending, fault⟩ => by
    simp only [Condition.render, Condition.emit]
    cases Condition.objection? ⟨comparisons, pending, fault⟩ with
    | some objection => exact fun _ => mirrors_error _
    | none => exact fun prior => (terms_emit scope comparisons prior).emits_ok fun _ => by simp

/-- A join whose qualifier is written as nothing is refused by both renderers. -/
theorem Join.emits (scope : Scope) : ∀ j : Join,
    Emits style (j.render scope) (j.emit style scope)
  | ⟨_, _, none⟩ => fun _ => mirrors_error _
  | ⟨ref, kind, some w⟩ => by
    intro prior
    simp only [Join.render, Join.emit]
    apply (w.emits _ prior).emits
    intro sql
    rw [isEmpty_pushed]
    cases sql.isEmpty with
    | true => exact mirrors_error _
    | false => exact mirrors_ok (by simp [pushed_append])

theorem joins_emit (scope : Scope) : ∀ joins : List Join,
    EmitsAll style (renderJoins scope joins) (emitJoins style scope joins)
  | [] => fun _ => mirrors_ok rfl
  | j :: rest => by
    intro prior
    apply (j.emits scope prior).emits
    intro first
    exact (joins_emit scope rest _).emits_ok fun _ => rfl

/-- Both renderers leave out the same filters. -/
theorem filters_emit (scope : Scope) (several : Bool) : ∀ filters : List Condition,
    EmitsAll style (renderFilters scope several filters)
      (emitFilters style scope several filters)
  | [] => fun _ => mirrors_ok rfl
  | w :: rest => by
    intro prior
    apply (w.emits scope prior).emits
    intro sql
    apply (filters_emit scope several rest _).emits_ok
    intro later
    rw [isEmpty_pushed]
    -- A filter that is left out has pushed nothing.
    cases sql with
    | nil => simp
    | cons cell sql =>
      simp [pushedAll, w.pushed_enclosed]

/-- The HAVING clause is emitted as a clause of its own or not at all. -/
theorem having_emits (scope : Scope) : ∀ having : Option Condition, ∀ prior,
    Mirrors (fun sql => pushedAll style prior
        (clauseOf "HAVING" " " ([sql].filter fun sql => !sql.isEmpty)))
      (renderHaving scope having) (emitHaving style scope having prior)
  | none, _ => mirrors_ok rfl
  | some w, prior => by
    apply (w.emits scope prior).emits_as
    intro sql
    rw [isEmpty_pushed]
    -- A condition that is not empty is the only part of its clause.
    cases sql <;> simp [clauseOf, pushedAll, Fragment.joined]

/-- A draft that is read from is emitted before its alias is written. -/
theorem from_emits (lex : Lexicon) : ∀ source : Option Source,
    EmitsAll style (renderFrom lex source) (emitFrom style lex source)
  | none => fun _ => mirrors_ok rfl
  | some (.table _ _) => fun _ => mirrors_ok (by simp [pushedAll])
  | some (.derived d) => fun prior =>
    (d.emits lex prior).emits_ok fun sql => by simp [pushedAll, derivedSource, pushed_append]

/-- Appended queries are emitted one after the other, each with what those before it leave. -/
theorem unions_emit (lex : Lexicon) : ∀ unions : List UnionArm,
    EmitsAll style (renderUnions lex unions) (emitUnions style lex unions)
  | [] => fun _ => mirrors_ok rfl
  | ⟨query, _⟩ :: rest => by
    intro prior
    apply (query.emits lex prior).emits
    intro first
    apply (unions_emit lex rest _).emits_ok
    intro later
    simp [pushedAll]

/-- With a body for each name the table expressions are emitted in order. -/
theorem expressions_emit (lex : Lexicon) : ∀ (bodies : List Query) (names : List Text),
    names.length = bodies.length → ∀ prior,
      Mirrors (fun written => pushedAll style prior (List.zipWith
          (fun name body => plain (name ++ " AS ") ++ body.parenthesized) names written))
        (renderBodies lex bodies) (emitExpressions style lex names bodies prior)
  | [], [], _, _ => mirrors_ok rfl
  | q :: bodies, name :: names, paired, prior => by
    apply (q.emits lex prior).emits
    intro body
    apply (expressions_emit lex bodies names (Nat.succ.inj paired) _).emits_ok
    intro later
    simp [pushedAll, pushed_append]

/-- A selection pushes its values clause by clause, in the order of the clauses. -/
theorem Selection.emits (scope : Scope) : ∀ s : Selection,
    Emits style (s.render scope) (s.emit style scope)
  | ⟨columns, source, joins, filters, group, having, order, limit, unions⟩ => by
    intro prior
    simp only [Selection.render, Selection.emit]
    apply (from_emits scope.lexicon source prior).emits
    intro readFrom
    apply (joins_emit scope joins _).emits
    intro joined
    apply (filters_emit scope _ filters _).emits
    intro kept
    apply (having_emits scope having _).emits
    intro having
    apply (unions_emit scope.lexicon unions _).emits_ok
    intro appended
    simp [pushedAll]

theorem Mutation.where_emits (scope : Scope) : ∀ m : Mutation,
    EmitsAll style (m.renderWhere scope) (m.emitWhere style scope)
  | ⟨_, _, filters⟩ => fun prior =>
    (filters_emit scope _ filters prior).emits_ok fun _ => by simp

/-- The bodies of a WITH push their values before its inner SELECT does. -/
theorem WithClause.emits (scope : Scope) : ∀ w : WithClause,
    Emits style (w.render scope) (w.emit style scope)
  | ⟨names, bodies, recursive, hasSelect, selection⟩ => by
    intro prior
    simp only [WithClause.render, WithClause.emit]
    -- Names and bodies are walked together, and so they have to be paired before they are.
    by_cases paired : names.length = bodies.length
    · rw [if_neg (not_not_intro paired), if_neg (not_not_intro paired)]
      split
      · exact mirrors_error _
      · apply (expressions_emit scope.lexicon bodies names paired prior).emits
        intro written
        apply (selection.emits scope _).emits_ok
        intro inner
        cases recursive <;> simp [pushedAll, tableExpressions]
    · rw [if_pos paired, if_pos paired]
      exact mirrors_error _

/-- The assignments of a mutation push their values before its filters do. -/
theorem Statement.emits (scope : Scope) : ∀ s : Statement,
    Emits style (s.render scope) (s.emit style scope)
  | .empty => fun _ => mirrors_error _
  | .select s => s.emits scope
  | .insert m => by
    intro prior
    simp only [Statement.render, Statement.emit]
    split
    · exact mirrors_error _
    · apply mirrors_after (pushedAll_mapM prior (fun a => a.2.emit_eq) m.assignments)
      exact mirrors_ok (by simp [Mutation.insertion, pushed_append])
  | .update m => by
    intro prior
    simp only [Statement.render, Statement.emit]
    split
    · exact mirrors_error _
    · apply mirrors_after (pushedAll_mapM prior (fun a => a.2.emit_setting a.1) m.assignments)
      exact (m.where_emits scope _).emits_ok fun _ => by simp [pushedAll, Mutation.settings]
  | .delete m => fun prior => (m.where_emits scope prior).emits_ok fun _ => by simp [pushedAll]
  | .with_ w => w.emits scope

/-- A draft is emitted as it is rendered, or has the same recorded mistake. -/
theorem Draft.emits (lex : Lexicon) : ∀ d : Draft,
    Emits style (d.render lex) (d.emit style lex)
  | ⟨_, _, statement, _, none, _⟩ => statement.emits _
  | ⟨_, _, _, _, some _, _⟩ => fun _ => mirrors_error _

end

end Syntax

/-! ## Finished SQL -/

/-- What is emitted behind some values is what is rendered, with its marks numbered on from
those values. -/
theorem Emits.finished {style : Placeholder} {x : Except Fault Fragment} {m : Emission Text}
    (h : Emits style x m) (prior : List Value) :
    m.finished prior = x.map (Fragment.rendered style prior) := by
  rw [Emission.finished, h prior]
  cases x <;> rfl

/-- An operand is emitted as it is rendered, behind any values. -/
theorem Operand.emitted_eq (style : Placeholder) (scope : Scope) (position : Position)
    (prior : List Value) (o : Operand) :
    o.emitted style scope position prior = o.rendered style scope position prior :=
  (o.emits scope position).finished prior

/-- A condition by itself is emitted as it is rendered. -/
theorem Condition.emitted_eq (dialect : Dialect) (tables : Registry) (w : Condition) :
    w.emitted dialect tables = w.rendered dialect tables :=
  (w.emits _).finished []

/-- A join by itself is emitted as it is rendered. -/
theorem Join.emitted_eq (dialect : Dialect) (tables : Registry) (j : Join) :
    j.emitted dialect tables = j.rendered dialect tables :=
  (j.emits _).finished []

/-- A draft is emitted as it is rendered, in every dialect and behind any values: the same SQL
with the same values, or the same mistake. -/
theorem Draft.emittedWithin_eq (dialect : Dialect) (prior : List Value) (d : Draft) :
    d.emittedWithin dialect prior = d.renderedWithin dialect prior :=
  (d.emits _).finished prior

theorem Draft.emitted_eq (d : Draft) : d.emitted = d.rendered := d.emittedWithin_eq d.dialect []

end BoundSql
