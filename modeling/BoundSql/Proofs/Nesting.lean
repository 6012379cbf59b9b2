import BoundSql.Proofs.Places
import Mathlib.Data.List.Forall2

/-!
# Drafts within drafts

The statement around a draft is built by steps, one of which holds the draft in a place, and that
statement may stand in a place of another (`Frame`, `Draft.within`). Step by step, the statements
around two drafts stay alike in all but how the drafts themselves are written (`Draft.Matches`,
`Draft.Matches.after_run`). So what is rendered in the end depends on a draft by its kind, its
name and how it is written in the lexicon of the outermost statement, and by nothing else
(`Frame.interchangeable_around`).

A draft built in another dialect than the statement is therefore as good as one built in that
dialect, as long as both dialects take its table texts apart alike
(`Draft.rendered_of_readsAlike`). Where they do not, the dialect in which it was built shows
(`Draft.quotedTable_keeps_dialect`).
-/

set_option autoImplicit false

namespace BoundSql

open List (Forall₂)

/-! ## Statements that match -/

section Matching

variable (lex : Lexicon)

/-- Both conditions are written alike in every scope of the lexicon. -/
structure Condition.Matches (w w' : Condition) : Prop where
  render : ∀ scope : Scope, scope.lexicon = lex → w.render scope = w'.render scope
  hasOr : w.hasOr = w'.hasOr

/-- Both joins are of one table and are written alike. -/
structure Join.Matches (j j' : Join) : Prop where
  table : j.table = j'.table
  render : ∀ scope : Scope, scope.lexicon = lex → j.render scope = j'.render scope

/-- Both queries are written alike, behind the same keyword. -/
structure UnionArm.Matches (arm arm' : UnionArm) : Prop where
  query : arm.query.render lex = arm'.query.render lex
  keepsAll : arm.keepsAll = arm'.keepsAll

/-- Both selections have the same columns, and what they read from, their conditions and their
appended queries match. -/
structure Selection.Matches (s s' : Selection) : Prop where
  columns : s.columns = s'.columns
  source : renderFrom lex s.source = renderFrom lex s'.source
  joins : Forall₂ (Join.Matches lex) s.joins s'.joins
  filters : Forall₂ (Condition.Matches lex) s.filters s'.filters
  group : s.group = s'.group
  having : ∀ scope : Scope, scope.lexicon = lex →
    renderHaving scope s.having = renderHaving scope s'.having
  order : s.order = s'.order
  limit : s.limit = s'.limit
  unions : Forall₂ (UnionArm.Matches lex) s.unions s'.unions

/-- Both mutations assign the same values to the same target, and their filters match. -/
structure Mutation.Matches (m m' : Mutation) : Prop where
  target : m.target = m'.target
  assignments : m.assignments = m'.assignments
  filters : Forall₂ (Condition.Matches lex) m.filters m'.filters

/-- Both table expressions have the same names, and their bodies and selections match. -/
structure WithClause.Matches (w w' : WithClause) : Prop where
  names : w.names = w'.names
  bodies : Forall₂ (fun q q' : Query => q.render lex = q'.render lex) w.bodies w'.bodies
  recursive : w.recursive = w'.recursive
  hasSelect : w.hasSelect = w'.hasSelect
  selection : w.selection.Matches lex w'.selection

/-- Both statements are of one kind, with clauses that match. -/
inductive Statement.Matches : Statement → Statement → Prop where
  | empty : Statement.Matches .empty .empty
  | select {s s' : Selection} (h : s.Matches lex s') : Statement.Matches (.select s) (.select s')
  | insert {m m' : Mutation} (h : m.Matches lex m') : Statement.Matches (.insert m) (.insert m')
  | update {m m' : Mutation} (h : m.Matches lex m') : Statement.Matches (.update m) (.update m')
  | delete {m m' : Mutation} (h : m.Matches lex m') : Statement.Matches (.delete m) (.delete m')
  | with_ {w w' : WithClause} (h : w.Matches lex w') : Statement.Matches (.with_ w) (.with_ w')

/-- Both drafts have the same tables, name and mistake, and statements that match. -/
structure Draft.Matches (d d' : Draft) : Prop where
  dialect : d.dialect = d'.dialect
  tables : d.tables = d'.tables
  statement : d.statement.Matches lex d'.statement
  aliasName : d.aliasName = d'.aliasName
  fault : d.fault = d'.fault

/-- Both steps are the same but for parts that are written alike. -/
inductive Step.Matches : Step → Step → Prop where
  | same (step : Step) : Step.Matches step step
  | derived {d d' : Draft} (h : Draft.Interchangeable lex d d') :
    Step.Matches (.source (.derived d)) (.source (.derived d'))
  | join {j j' : Join} (h : j.Matches lex j') : Step.Matches (.join j) (.join j')
  | filter {w w' : Condition} (h : w.Matches lex w') : Step.Matches (.filter w) (.filter w')
  | having {w w' : Condition} (h : w.Matches lex w') : Step.Matches (.having w) (.having w')
  | union {arm arm' : UnionArm} (h : arm.Matches lex arm') :
    Step.Matches (.union arm) (.union arm')
  | body {q q' : Query} (h : q.render lex = q'.render lex) (next : Option Text) :
    Step.Matches (.body q next) (.body q' next)

/-! ### Whatever is the same matches -/

variable {lex}

/-- A condition matches itself, and so does every other piece of syntax. -/
theorem Condition.Matches.refl (w : Condition) : w.Matches lex w := ⟨fun _ _ => rfl, rfl⟩

theorem Join.Matches.refl (j : Join) : j.Matches lex j := ⟨rfl, fun _ _ => rfl⟩

theorem UnionArm.Matches.refl (arm : UnionArm) : arm.Matches lex arm := ⟨rfl, rfl⟩

theorem Selection.Matches.refl (s : Selection) : s.Matches lex s :=
  ⟨rfl, rfl, List.forall₂_same.2 fun j _ => .refl j, List.forall₂_same.2 fun w _ => .refl w, rfl,
    fun _ _ => rfl, rfl, rfl, List.forall₂_same.2 fun arm _ => .refl arm⟩

theorem Mutation.Matches.refl (m : Mutation) : m.Matches lex m :=
  ⟨rfl, rfl, List.forall₂_same.2 fun w _ => .refl w⟩

theorem WithClause.Matches.refl (w : WithClause) : w.Matches lex w :=
  ⟨rfl, List.forall₂_same.2 fun _ _ => rfl, rfl, rfl, .refl w.selection⟩

theorem Statement.Matches.refl (t : Statement) : t.Matches lex t := by
  cases t with
  | empty => exact .empty
  | select s => exact .select (.refl s)
  | insert m => exact .insert (.refl m)
  | update m => exact .update (.refl m)
  | delete m => exact .delete (.refl m)
  | with_ w => exact .with_ (.refl w)

theorem Draft.Matches.refl (d : Draft) : d.Matches lex d := ⟨rfl, rfl, .refl d.statement, rfl, rfl⟩

end Matching

/-! ## What matches is written alike -/

section Writing

variable {scope : Scope}

/-- Joins that match one by one are rendered alike. -/
theorem joins_of_matches {joins joins' : List Join}
    (h : Forall₂ (Join.Matches scope.lexicon) joins joins') :
    renderJoins scope joins = renderJoins scope joins' := by
  induction h with
  | nil => rfl
  | cons first _ ih => rw [renderJoins, renderJoins, first.render scope rfl, ih]

/-- So are filters, and the same ones are left out and enclosed. -/
theorem filters_of_matches (several : Bool) {filters filters' : List Condition}
    (h : Forall₂ (Condition.Matches scope.lexicon) filters filters') :
    renderFilters scope several filters = renderFilters scope several filters' := by
  induction h with
  | nil => rfl
  | cons first _ ih =>
    rw [renderFilters, renderFilters, first.render scope rfl, ih]
    simp only [Condition.enclosed, first.hasOr]

/-- So are appended queries, with their keywords. -/
theorem unions_of_matches {lex : Lexicon} {unions unions' : List UnionArm}
    (h : Forall₂ (UnionArm.Matches lex) unions unions') :
    renderUnions lex unions = renderUnions lex unions' := by
  induction h with
  | nil => rfl
  | @cons arm arm' _ _ first _ ih =>
    rcases arm with ⟨query, keepsAll⟩
    rcases arm' with ⟨query', keepsAll'⟩
    obtain rfl := first.keepsAll
    have same : query.render lex = query'.render lex := first.query
    rw [renderUnions, renderUnions, same, ih]

/-- So are the bodies of a WITH. -/
theorem bodies_of_matches {lex : Lexicon} {bodies bodies' : List Query}
    (h : Forall₂ (fun q q' : Query => q.render lex = q'.render lex) bodies bodies') :
    renderBodies lex bodies = renderBodies lex bodies' := by
  induction h with
  | nil => rfl
  | cons first _ ih => rw [renderBodies, renderBodies, first, ih]

/-- Selections that match are rendered alike in every scope with the lexicon. -/
theorem Selection.Matches.render {s s' : Selection} (h : s.Matches scope.lexicon s') :
    s.render scope = s'.render scope := by
  have joins := joins_of_matches h.joins
  have filters := fun several => filters_of_matches several h.filters
  have count := h.filters.length_eq
  have having := h.having scope rfl
  have unions := unions_of_matches h.unions
  have source := h.source
  rcases s with ⟨columns, readFrom, js, ws, group, w, order, limit, arms⟩
  rcases s' with ⟨columns', readFrom', js', ws', group', w', order', limit', arms'⟩
  obtain rfl := h.columns
  obtain rfl := h.group
  obtain rfl := h.order
  obtain rfl := h.limit
  simp only at joins filters count having unions source
  simp only [Selection.render, joins, filters, count, having, unions, source]

/-- So are the filters of mutations that match. -/
theorem Mutation.Matches.renderWhere {m m' : Mutation} (h : m.Matches scope.lexicon m') :
    m.renderWhere scope = m'.renderWhere scope := by
  have filters := fun several => filters_of_matches several h.filters
  have count := h.filters.length_eq
  rcases m with ⟨target, assignments, ws⟩
  rcases m' with ⟨target', assignments', ws'⟩
  simp only at filters count
  simp only [Mutation.renderWhere, filters, count]

/-- A WITH that matches another has as many bodies, and the same complaint or the same SQL. -/
theorem WithClause.Matches.render {w w' : WithClause} (h : w.Matches scope.lexicon w') :
    w.render scope = w'.render scope := by
  have bodies := bodies_of_matches h.bodies
  have count := h.bodies.length_eq
  have selection := h.selection.render
  rcases w with ⟨names, qs, recursive, hasSelect, s⟩
  rcases w' with ⟨names', qs', recursive', hasSelect', s'⟩
  obtain rfl := h.names
  obtain rfl := h.recursive
  obtain rfl := h.hasSelect
  simp only at bodies count selection
  simp only [WithClause.render, bodies, count, selection]

/-- Statements that match are rendered alike. -/
theorem Statement.Matches.render {t t' : Statement} (h : t.Matches scope.lexicon t') :
    t.render scope = t'.render scope := by
  cases h with
  | empty => rfl
  | select h => exact h.render
  | insert h => simp only [Statement.render, Mutation.insertion, Mutation.writtenTarget, h.target,
      h.assignments]
  | update h => simp only [Statement.render, Mutation.settings, Mutation.writtenTarget, h.target,
      h.assignments, h.renderWhere]
  | delete h => simp only [Statement.render, Mutation.writtenTarget, h.target, h.renderWhere]
  | with_ h => exact h.render

/-- And they are of one kind, so the same steps have a place in them. -/
theorem Statement.Matches.kind {lex : Lexicon} {t t' : Statement} (h : t.Matches lex t') :
    t.kind? = t'.kind? := by
  cases h <;> rfl

/-- Drafts that match may stand for each other. -/
theorem Draft.Matches.interchangeable {lex : Lexicon} {d d' : Draft} (h : d.Matches lex d') :
    Interchangeable lex d d' := by
  refine ⟨?_, h.statement.kind, h.aliasName⟩
  cases recorded : d.fault with
  | some fault => rw [render_of_fault recorded, render_of_fault (h.fault.symm.trans recorded)]
  | none =>
    have matching : d.statement.Matches (Scope.ofStatement lex d.tables).lexicon d'.statement :=
      h.statement
    rw [render_of_sound recorded, render_of_sound (h.fault.symm.trans recorded), ← h.tables]
    exact matching.render

end Writing

/-! ## Steps that match -/

section Filling

variable {lex : Lexicon} {s s' : Selection} {step step' : Step}

/-- Lists that are related one by one stay so with related last elements. -/
theorem forall₂_concat {α : Type} {R : α → α → Prop} {xs xs' : List α} {x x' : α}
    (h : Forall₂ R xs xs') (last : R x x') : Forall₂ R (xs ++ [x]) (xs' ++ [x']) :=
  List.rel_append h (.cons last .nil)

/-- A step filled into selections that match leaves them so. -/
theorem Selection.Matches.filled_same (h : s.Matches lex s') (own : Lexicon) (step : Step) :
    (s.filled own step).Matches lex (s'.filled own step) := by
  cases step with
  | source origin => exact { h with source := rfl }
  | join j => exact { h with joins := forall₂_concat h.joins (.refl j) }
  | filter w => exact { h with filters := forall₂_concat h.filters (.refl w) }
  | group columns => exact { h with group := rfl }
  | having w => exact { h with having := fun _ _ => rfl }
  | order columns => exact { h with order := rfl }
  | limit n => exact { h with limit := rfl }
  | union arm => exact { h with unions := forall₂_concat h.unions (.refl arm) }
  | _ => exact h

/-- A step that matches another one fills the same clause of a selection with what matches. -/
theorem Selection.Matches.filled (h : s.Matches lex s') (steps : step.Matches lex step')
    (own : Lexicon) : (s.filled own step).Matches lex (s'.filled own step') := by
  cases steps with
  | same step => exact h.filled_same own step
  | derived drafts =>
    refine { h with source := ?_ }
    simp only [Selection.filled, Origin.source, renderFrom, drafts.render, drafts.aliasName]
  | join joins => exact { h with joins := forall₂_concat h.joins joins }
  | filter conditions => exact { h with filters := forall₂_concat h.filters conditions }
  | having conditions => exact { h with having := conditions.render }
  | union arms => exact { h with unions := forall₂_concat h.unions arms }
  | body _ _ => exact h

/-- So it does with a mutation. -/
theorem Mutation.Matches.filled {m m' : Mutation} (h : m.Matches lex m')
    (steps : step.Matches lex step') : (m.filled step).Matches lex (m'.filled step') := by
  cases steps with
  | same step =>
    cases step with
    | filter w => exact { h with filters := forall₂_concat h.filters (.refl w) }
    | values assignments | set assignments =>
      refine { h with assignments := ?_ }
      simp only [Mutation.filled, Mutation.assigned, h.assignments]
    | _ => exact h
  | filter conditions => exact { h with filters := forall₂_concat h.filters conditions }
  | derived | join | having | union | body => exact h

/-- So it does with a WITH, in its lists or its selection. -/
theorem WithClause.Matches.filled {w w' : WithClause} (h : w.Matches lex w')
    (steps : step.Matches lex step') (own : Lexicon) :
    (w.filled own step).Matches lex (w'.filled own step') := by
  have selection := h.selection.filled steps own
  cases steps with
  | same step =>
    cases step with
    | body q next =>
      exact { h with
        names := congrArg (· ++ next.toList) h.names
        bodies := forall₂_concat h.bodies rfl }
    | _ => exact { h with selection := selection }
  | body queries next =>
    exact { h with
      names := congrArg (· ++ next.toList) h.names
      bodies := forall₂_concat h.bodies queries }
  | derived | join | filter | having | union => exact { h with selection := selection }

/-- So it does with a statement of any kind. -/
theorem Statement.Matches.filled {t t' : Statement} (h : t.Matches lex t')
    (steps : step.Matches lex step') (own : Lexicon) :
    (t.filled own step).Matches lex (t'.filled own step') := by
  cases h with
  | empty => exact .empty
  | select h => exact .select (h.filled steps own)
  | insert h => exact .insert (h.filled steps)
  | update h => exact .update (h.filled steps)
  | delete h => exact .delete (h.filled steps)
  | with_ h => exact .with_ (h.filled steps own)

end Filling

namespace Draft

section Running

variable {lex : Lexicon} {d d' : Draft} {step step' : Step}

/-- Drafts that match hold statements of one kind. -/
theorem Matches.kind (h : d.Matches lex d') : d.kind? = d'.kind? := h.statement.kind

/-- Steps that match register the same entry. -/
theorem Matches.entryFor? (h : d.Matches lex d') (steps : step.Matches lex step') :
    d.entryFor? step = d'.entryFor? step' := by
  rcases d with ⟨dialect, tables, t, aliasName, fault, limit⟩
  rcases d' with ⟨dialect', tables', t', aliasName', fault', limit'⟩
  obtain rfl := h.dialect
  obtain rfl := h.tables
  cases steps with
  | same step => rfl
  | derived drafts => simp only [Draft.entryFor?, Origin.entryOf?, drafts.aliasName]
  | @join j j' joins =>
    have entry : j.entry = j'.entry := by
      funext own
      rw [Join.entry, Join.entry, joins.table]
    simp only [Draft.entryFor?]
    rw [entry]
  | filter | having | union | body => rfl

/-- What can be told of a step beforehand is the same. -/
theorem Matches.objection? (h : d.Matches lex d') (steps : step.Matches lex step') :
    d.objection? step = d'.objection? step' := by
  have clause : step.clause? = step'.clause? := by
    cases steps with
    | union arms => simp only [Step.clause?, arms.keepsAll]
    | _ => rfl
  have reads : step.readsNoSelect = step'.readsNoSelect := by
    cases steps with
    | derived drafts => simp only [Step.readsNoSelect, drafts.kind]
    | _ => rfl
  have place : d.hasPlaceFor = d'.hasPlaceFor := by
    funext clause
    rw [hasPlaceFor, hasPlaceFor, h.kind]
  have misplaced : d.misplaced = d'.misplaced := by
    funext clause
    rw [Draft.misplaced, Draft.misplaced, h.kind]
  rw [Draft.objection?, Draft.objection?, clause, place, misplaced, reads, h.entryFor? steps,
    h.tables]

/-- A draft that is filled by a step matches one that is filled by a matching step. -/
theorem Matches.filled (h : d.Matches lex d') (steps : step.Matches lex step') :
    (d.filled step).Matches lex (d'.filled step') := by
  refine ⟨h.dialect, ?_, ?_, ?_, h.fault⟩
  · show d.tables.with? (d.entryFor? step) = d'.tables.with? (d'.entryFor? step')
    rw [h.tables, h.entryFor? steps]
  · show (d.statement.filled _ step).Matches lex (d'.statement.filled _ step')
    rw [h.dialect]
    exact h.statement.filled steps _
  · show step.nameAfter d.aliasName = step'.nameAfter d'.aliasName
    rw [h.aliasName]
    cases steps <;> rfl

/-- Both drafts accept the steps, or both refuse them with one fault. -/
theorem Matches.settled (h : d.Matches lex d') (steps : step.Matches lex step') :
    (d.settled step).1.Matches lex (d'.settled step').1 := by
  rw [Draft.settled, Draft.settled, h.objection? steps]
  cases d'.objection? step' with
  | none => exact h.filled steps
  | some fault =>
    show (d.refuse fault).1.Matches lex (d'.refuse fault).1
    rw [refuse_eq, refuse_eq, h.fault]
    exact { h with fault := rfl }

/-- Both wait for the columns of an inner SELECT, or neither does. -/
theorem Matches.awaitsSelect (h : d.Matches lex d') : d.awaitsSelect = d'.awaitsSelect := by
  rcases d with ⟨dialect, tables, t, aliasName, fault, limit⟩
  rcases d' with ⟨dialect', tables', t', aliasName', fault', limit'⟩
  have statement : t.Matches lex t' := h.statement
  cases statement with
  | with_ clauses => simp only [Draft.awaitsSelect, clauses.hasSelect]
  | empty | select | insert | update | delete => rfl

/-- Where both wait, both take the columns. -/
theorem Matches.select_of_awaits (h : d.Matches lex d') {w : WithClause}
    (statement : d.statement = .with_ w) (waits : w.hasSelect = false) (columns : List Text) :
    (d.step (.select columns)).1.Matches lex (d'.step (.select columns)).1 := by
  have both := h.statement
  rw [statement] at both
  cases right : d'.statement with
  | with_ w' =>
    rw [right] at both
    cases both with
    | with_ clauses =>
      have waits' : w'.hasSelect = false := clauses.hasSelect.symm.trans waits
      rw [Draft.select_of_awaits statement waits, Draft.select_of_awaits right waits']
      exact { h with statement := .with_ { clauses with
        hasSelect := rfl, selection := { clauses.selection with columns := rfl } } }
  | empty | select | insert | update | delete =>
    rw [right] at both
    cases both

/-- Steps that match leave drafts matching. -/
theorem Matches.after_step (h : d.Matches lex d') (steps : step.Matches lex step') :
    (d.step step).1.Matches lex (d'.step step').1 := by
  have setters (setter : step.isVerb = false) (setter' : step'.isVerb = false) :
      (d.step step).1.Matches lex (d'.step step').1 := by
    rw [step_of_setter d setter, step_of_setter d' setter']
    exact h.settled steps
  -- A verb stands in both runs as it is. What differs can only be a setter.
  cases steps with
  | same step =>
    rcases d.step_cases step with restarts | ⟨columns, w, rfl, statement, waits⟩ | setter
    · have restarts' : d'.restartsAt step = true := by
        rw [restartsAt, ← h.awaitsSelect]
        exact restarts
      rw [step_of_restarts restarts, step_of_restarts restarts']
      -- Of the drafts before it, a verb keeps no more than the dialect.
      exact ⟨h.dialect, rfl, .refl _, rfl, rfl⟩
    · exact h.select_of_awaits statement waits columns
    · exact setters setter setter
  | derived | join | filter | having | union | body => exact setters rfl rfl

/-- The same steps behind drafts that match lead to drafts that match. -/
theorem Matches.after_run (h : d.Matches lex d') (steps : List Step) :
    (d.run steps).1.Matches lex (d'.run steps).1 := by
  induction steps generalizing d d' with
  | nil => exact h
  | cons step rest ih => exact ih (h.after_step (.same step))

end Running

end Draft

/-! ## Frames -/

/-- The statement around a draft: the steps before the draft comes in, the place that it takes,
and the steps behind it. -/
structure Frame where
  dialect : Dialect
  before : List Step
  place : Place
  after : List Step

/-- The statement of a frame with a draft in its place. -/
def Frame.around (frame : Frame) (d : Draft) : Draft :=
  ((Draft.ofDialect frame.dialect).run (frame.before ++ frame.place.step d :: frame.after)).1

/-- The draft within frames, the innermost of which comes first. -/
def Draft.within (d : Draft) (frames : List Frame) : Draft :=
  frames.foldl (fun inner frame => frame.around inner) d

section Framing

variable {lex : Lexicon} {d d' : Draft}

/-- Interchangeable drafts in one place make steps that match. -/
theorem Place.matches_step (h : Draft.Interchangeable lex d d') (place : Place) :
    (place.step d).Matches lex (place.step d') := by
  have query : (Query.drafted d).render lex = (Query.drafted d').render lex := h.render
  have condition (place : ConditionPlace) :
      (place.holding (.drafted d)).Matches lex (place.holding (.drafted d')) := by
    refine ⟨fun scope own => ?_, place.hasOr_holding _ _⟩
    subst own
    exact place.render_holding query
  cases place with
  | filter place => exact .filter (condition place)
  | having place => exact .having (condition place)
  | join table kind place =>
    refine .join ⟨rfl, fun scope own => ?_⟩
    simp only [Join.render]
    have qualifier := fun joined => (condition place).render (scope.forJoin joined) own
    simp only [qualifier]
  | union keepsAll => exact .union ⟨query, rfl⟩
  | body next => exact .body query next
  | derived => exact .derived h

/-- In a frame, drafts that may stand for each other make statements that may. -/
theorem Frame.interchangeable_around (h : Draft.Interchangeable lex d d') (frame : Frame) :
    Draft.Interchangeable lex (frame.around d) (frame.around d') := by
  rw [around, around, Draft.run_append, Draft.run_append]
  -- Up to the place the two runs are one.
  have before : ((Draft.ofDialect frame.dialect).run frame.before).1.Matches lex
      ((Draft.ofDialect frame.dialect).run frame.before).1 := .refl _
  have placed := before.after_step (frame.place.matches_step h)
  exact (placed.after_run frame.after).interchangeable

/-- Drafts that are interchangeable stay so within any frames, the innermost first. -/
theorem Draft.Interchangeable.within (h : Draft.Interchangeable lex d d') (frames : List Frame) :
    Draft.Interchangeable lex (d.within frames) (d'.within frames) := by
  -- One frame at a time is put around both drafts.
  induction frames generalizing d d' with
  | nil => exact h
  | cons frame rest ih => exact ih (frame.interchangeable_around h)

end Framing

namespace Draft

/-- Interchangeable drafts have the same finished SQL and the same values. -/
theorem Interchangeable.renderedWithin {d d' : Draft} {dialect : Dialect}
    (h : Interchangeable dialect.toLexicon d d') (prior : List Value) :
    d.renderedWithin dialect prior = d'.renderedWithin dialect prior := by
  rw [Draft.renderedWithin, Draft.renderedWithin, h.render]

/-- The same steps in two dialects that take their table texts apart alike make drafts that may
stand for each other, whatever the statement around them is rendered in. -/
theorem interchangeable_of_readsAlike {dialect dialect' : Dialect} {steps : List Step}
    (alike : ReadsAlike dialect.toLexicon dialect'.toLexicon steps) (lex : Lexicon) :
    Interchangeable lex ((ofDialect dialect).run steps).1 ((ofDialect dialect').run steps).1 := by
  have other : ((ofDialect dialect').run steps).1 =
      ((ofDialect dialect).run steps).1.inDialect dialect' :=
    run_inDialect (d := ofDialect dialect) alike
  rw [other]
  exact interchangeable_inDialect lex _ dialect'

/-- Where a draft stands within a statement, at whatever depth, the dialect in which it was built
makes no difference to what is rendered, if its table texts are taken apart as in the other
dialect. -/
theorem rendered_of_readsAlike (dialect dialect' : Dialect) (steps : List Step)
    (alike : ReadsAlike dialect.toLexicon dialect'.toLexicon steps) (frames : List Frame)
    (outer : Frame) :
    let statement := fun own => outer.around (((ofDialect own).run steps).1.within frames)
    (statement dialect).rendered = (statement dialect').rendered ∧
      ∀ other prior,
        (statement dialect).renderedWithin other prior =
          (statement dialect').renderedWithin other prior := by
  intro statement
  have within (other : Dialect) (prior : List Value) :
      (statement dialect).renderedWithin other prior =
        (statement dialect').renderedWithin other prior := by
    have inner := (interchangeable_of_readsAlike alike other.toLexicon).within frames
    exact (outer.interchangeable_around inner).renderedWithin prior
  have own (own : Dialect) : (statement own).dialect = outer.dialect := dialect_run _ _
  refine ⟨?_, within⟩
  rw [rendered, rendered, own, own, within]

/-- A SELECT with a union, the second arm of which is the place. -/
def besideUnion : Frame where
  dialect := .postgres
  before := [.select ["x"], .source (.table (.raw "t"))]
  place := .union false
  after := []

/-- A SELECT from one table, built in a dialect. -/
def idsOf (table : Text) (own : Dialect) : Draft :=
  ((ofDialect own).run [.select ["id"], .source (.table (.raw table))]).1

/-- A generic draft with `users u` is rendered in a union as if it had been built in the dialect
of the union. -/
theorem rendered_of_plainTable :
    ReadsAlike Dialect.postgres.toLexicon Dialect.generic.toLexicon
        [.select ["id"], .source (.table (.raw "users u"))] ∧
      (besideUnion.around (idsOf "users u" .postgres)).rendered =
        (besideUnion.around (idsOf "users u" .generic)).rendered ∧
      (besideUnion.around (idsOf "users u" .generic)).rendered.toOption.map Rendered.sql =
        some "SELECT t.x FROM t UNION SELECT u.id FROM users u".toList := by
  have alike : ReadsAlike Dialect.postgres.toLexicon Dialect.generic.toLexicon
      [.select ["id"], .source (.table (.raw "users u"))] := by
    intro step member text given
    simp only [List.mem_cons, List.not_mem_nil, or_false] at member
    rcases member with rfl | rfl
    · cases given
    · cases given
      decide
  refine ⟨alike, ?_, by decide +kernel⟩
  exact (rendered_of_readsAlike .postgres .generic _ alike [] besideUnion).1

/-- A generic draft with the table text `"my table"` takes it apart at its space, also in a
statement of a dialect that has it in quotes. FROM is written as the text was, and the column
stands behind the half of it that was taken for an alias. -/
theorem quotedTable_keeps_dialect :
    let sql := fun own =>
      (besideUnion.around (idsOf "\"my table\"" own)).rendered.toOption.map Rendered.sql
    sql .postgres =
        some "SELECT t.x FROM t UNION SELECT \"my table\".id FROM \"my table\"".toList ∧
      sql .generic =
        some "SELECT t.x FROM t UNION SELECT table\".id FROM \"my table\"".toList ∧
      sql .postgres ≠ sql .generic := by
  decide +kernel

end Draft

end BoundSql
