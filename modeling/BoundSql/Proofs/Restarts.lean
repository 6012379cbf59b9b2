import BoundSql.Proofs.Mistakes

/-!
# Verbs and what came before

A verb that begins a statement forgets all that came before it: the draft goes on as a new draft
of its dialect would (`Draft.sameStatement_of_verb`). Only the limit of the log is kept, and no
step reads it (`Draft.unlimited_run`). The SELECT that a WITH waits for begins no statement. It
gives the columns and keeps everything else.
-/

set_option autoImplicit false

namespace BoundSql.Draft

/-- The draft without its limit of the log. -/
def unlimited (d : Draft) : Draft := { d with logLimit := none }

/-- All that can be seen of a draft, its log apart, is the same in both. -/
structure SameStatement (d d' : Draft) : Prop where
  kind : d.kind? = d'.kind?
  aliasName : d.aliasName = d'.aliasName
  tables : d.tables = d'.tables
  fault : d.fault = d'.fault
  rendered : d.rendered = d'.rendered
  renderedWithin : ∀ dialect prior, d.renderedWithin dialect prior = d'.renderedWithin dialect prior

variable {d d' : Draft} {step : Step}

/-! ## What a step does not read or change -/

/-- What a step does: it begins a statement, it is the SELECT that a WITH waits for, or it is
settled as a setter. -/
theorem step_cases (d : Draft) (step : Step) :
    d.restartsAt step = true ∨
      (∃ columns w, step = .select columns ∧ d.statement = .with_ w ∧ w.hasSelect = false) ∨
      step.isVerb = false := by
  cases restarts : d.restartsAt step with
  | true => exact .inl rfl
  | false =>
    cases verb : step.isVerb with
    | true => exact .inr (.inl (exists_awaited verb restarts))
    | false => exact .inr (.inr rfl)

/-- What becomes of a draft by a step. -/
inductive Outcome (d : Draft) (step : Step) : Draft → Prop where
  | begins (restarts : d.restartsAt step = true) : Outcome d step (d.restart step.begun)
  /-- The SELECT that a WITH waits for gives the columns. -/
  | awaited {columns : List Text} {w : WithClause} (is : step = .select columns)
      (statement : d.statement = .with_ w) (waits : w.hasSelect = false) :
      Outcome d step { d with statement := .with_ { w with
        hasSelect := true, selection := { w.selection with columns := columns } } }
  | refused {fault : Fault} (objection : d.objection? step = some fault) :
      Outcome d step { d with fault := d.fault <|> some fault }
  | filled (setter : step.isVerb = false) (admitted : d.objection? step = none) :
      Outcome d step (d.filled step)

/-- Every step has one of the three outcomes. -/
theorem outcome_step (d : Draft) (step : Step) : Outcome d step (d.step step).1 := by
  rcases d.step_cases step with restarts | ⟨columns, w, rfl, statement, waits⟩ | setter
  · rw [step_of_restarts restarts]
    exact .begins restarts
  · rw [select_of_awaits statement waits]
    exact .awaited rfl statement waits
  · cases objection : d.objection? step with
    | some fault =>
      rw [step_of_objection objection]
      exact .refused objection
    | none =>
      rw [d.step_of_setter setter, settled, objection]
      exact .filled setter objection

/-- None of them touches the dialect. -/
theorem Outcome.dialect {after : Draft} (h : Outcome d step after) : after.dialect = d.dialect := by
  cases h <;> rfl

/-- A step keeps the dialect of its draft. -/
theorem dialect_step (d : Draft) (step : Step) : (d.step step).1.dialect = d.dialect :=
  (d.outcome_step step).dialect

/-- So does a run. -/
theorem dialect_run (d : Draft) (steps : List Step) : (d.run steps).1.dialect = d.dialect := by
  induction steps generalizing d with
  | nil => rfl
  | cons step rest ih => exact (ih (d.step step).1).trans (d.dialect_step step)

/-- A limit for logged SQL changes nothing but what is logged. -/
theorem unlimited_step (d : Draft) (step : Step) :
    (d.step step).1.unlimited = (d.unlimited.step step).1.unlimited := by
  rcases d.step_cases step with restarts | ⟨columns, w, rfl, statement, waits⟩ | setter
  · have restarts' : d.unlimited.restartsAt step = true := restarts
    rw [step_of_restarts restarts, step_of_restarts restarts']
    rfl
  · have statement' : d.unlimited.statement = .with_ w := statement
    rw [select_of_awaits statement waits, select_of_awaits statement' waits]
    rfl
  · -- Whether a setter is refused depends on the statement and the tables.
    have objection : d.unlimited.objection? step = d.objection? step := rfl
    rw [d.step_of_setter setter, d.unlimited.step_of_setter setter, settled, settled, objection]
    cases d.objection? step with
    | some fault =>
      rw [refuse_eq, refuse_eq]
      rfl
    | none => rfl

/-- No step reads the limit of the log. -/
theorem unlimited_run (d : Draft) (steps : List Step) :
    (d.run steps).1.unlimited = (d.unlimited.run steps).1.unlimited := by
  induction steps generalizing d with
  | nil => rfl
  | cons step rest ih =>
    show ((d.step step).1.run rest).1.unlimited = ((d.unlimited.step step).1.run rest).1.unlimited
    rw [ih (d.step step).1, ih (d.unlimited.step step).1, unlimited_step]

/-- Drafts that differ in the limit only still do so behind the same steps. -/
theorem unlimited_run_congr (h : d.unlimited = d'.unlimited) (steps : List Step) :
    (d.run steps).1.unlimited = (d'.run steps).1.unlimited := by
  rw [unlimited_run, h, ← unlimited_run]

/-- Rendering does not look at the limit. -/
theorem renderedWithin_unlimited (d : Draft) (dialect : Dialect) (prior : List Value) :
    d.unlimited.renderedWithin dialect prior = d.renderedWithin dialect prior := by
  rcases d with ⟨own, tables, t, aliasName, fault, limit⟩
  cases fault <;> rfl

/-- Drafts that differ in the limit only hold the same statement. -/
theorem sameStatement_of_unlimited (h : d.unlimited = d'.unlimited) : SameStatement d d' := by
  have within : ∀ dialect prior,
      d.renderedWithin dialect prior = d'.renderedWithin dialect prior := by
    intro dialect prior
    rw [← d.renderedWithin_unlimited, h, d'.renderedWithin_unlimited]
  have dialect : d.unlimited.dialect = d'.unlimited.dialect := by rw [h]
  refine ⟨?_, ?_, ?_, ?_, ?_, within⟩
  · show d.unlimited.kind? = d'.unlimited.kind?
    rw [h]
  · show d.unlimited.aliasName = d'.unlimited.aliasName
    rw [h]
  · show d.unlimited.tables = d'.unlimited.tables
    rw [h]
  · show d.unlimited.fault = d'.unlimited.fault
    rw [h]
  · show d.renderedWithin d.unlimited.dialect [] = d'.renderedWithin d'.unlimited.dialect []
    rw [dialect, within]

/-! ## Verbs -/

/-- A draft without a statement is begun by any verb. -/
theorem restartsAt_ofDialect (dialect : Dialect) {verb : Step} (is : verb.isVerb = true) :
    (ofDialect dialect).restartsAt verb = true := by
  have idle : (ofDialect dialect).awaitsSelect = false := rfl
  rw [restartsAt, is, idle, Bool.and_false]
  rfl

/-- Behind a verb that begins a statement, what was before it does not matter. -/
theorem unlimited_of_restarts {front : List Step} {verb : Step} (dialect : Dialect)
    (restarts : ((ofDialect dialect).run front).1.restartsAt verb = true) (rest : List Step) :
    ((ofDialect dialect).run (front ++ verb :: rest)).1.unlimited =
      ((ofDialect dialect).run (verb :: rest)).1.unlimited := by
  have is : verb.isVerb = true := (Bool.and_eq_true_iff.1 restarts).1
  have own : ((ofDialect dialect).run front).1.dialect = dialect := dialect_run _ _
  -- The steps before the verb are forgotten at the verb.
  rw [run_append]
  show ((((ofDialect dialect).run front).1.step verb).1.run rest).1.unlimited =
    (((ofDialect dialect).step verb).1.run rest).1.unlimited
  apply unlimited_run_congr
  -- Both begin the same statement, and of what was there only the dialect is left.
  rw [step_of_restarts restarts, step_of_restarts (restartsAt_ofDialect dialect is)]
  simp only [unlimited, restart, own]
  rfl

/-- A verb forgets all that came before it, and the draft goes on as a new one of its dialect
would, unless it is the SELECT that a WITH waits for. That one gives the columns and keeps the
table expressions, the tables, the clauses, the name and the mistake. -/
theorem sameStatement_of_verb (dialect : Dialect) (front rest : List Step) (verb : Step)
    (is : verb.isVerb = true) :
    let d := ((ofDialect dialect).run front).1
    ((verb.isSelect && d.awaitsSelect) = false →
      SameStatement ((ofDialect dialect).run (front ++ verb :: rest)).1
        ((ofDialect dialect).run (verb :: rest)).1) ∧
    ∀ columns w, verb = .select columns → d.statement = .with_ w → w.hasSelect = false →
      (d.step verb).1 = { d with statement := .with_ { w with
        hasSelect := true, selection := { w.selection with columns := columns } } } := by
  intro d
  constructor
  · intro begins
    have restarts : d.restartsAt verb = true := by rw [restartsAt, is, begins]; rfl
    exact sameStatement_of_unlimited (unlimited_of_restarts dialect restarts rest)
  · rintro columns w rfl statement waits
    rw [select_of_awaits statement waits]

/-- A SELECT after a WITH that has its own begins anew. The one that a WITH waits for keeps the
clauses that it finds. -/
theorem sameStatement_after_with :
    SameStatement
        ((ofDialect .generic).run ([.with_ "a" false, .body (.text "SELECT 1") none, .select [],
          .source (.table (.raw "a"))] ++ .select ["x"] :: [.source (.table (.raw "y"))])).1
        ((ofDialect .generic).run [.select ["x"], .source (.table (.raw "y"))]).1 ∧
      (((ofDialect .generic).run [.with_ "a" false, .limit 3]).1.step
        (.select ["x"])).1.selection?.map (fun s => (s.columns, s.limit)) =
          some (["x".toList], some 3) := by
  constructor
  · exact (sameStatement_of_verb .generic _ _ _ rfl).1 rfl
  · obtain ⟨-, awaited⟩ := sameStatement_of_verb .generic [.with_ "a" false, .limit 3] []
      (.select ["x"]) rfl
    rw [awaited _ _ rfl rfl rfl]
    rfl

end BoundSql.Draft
