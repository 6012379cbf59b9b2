import BoundSql.Proofs.Setters

/-!
# The first mistake

A setter that fails leaves a draft as it was, but for the mistake if it is the first
(`Draft.refuse_eq`). What a draft keeps is the earliest mistake since its statement was begun
(`Draft.fault_run`). No later setter replaces or clears it, and rendering fails with it, whatever
else the statement holds (`Draft.fault_eq_firstMistake`).
-/

set_option autoImplicit false

namespace BoundSql.Draft

/-- The mistakes of some steps since the last one that began a statement, in order. The ones made
before the steps count as well, up to the first step that begins a statement. -/
def mistakes (d : Draft) (before : List Fault) : List Step → List Fault
  | [] => before
  | step :: rest =>
    (d.step step).1.mistakes
      (if d.restartsAt step then [] else before ++ (d.objection? step).toList) rest

/-- Whether some step of a run begins another statement. -/
def restartsIn (d : Draft) : List Step → Bool
  | [] => false
  | step :: rest => d.restartsAt step || (d.step step).1.restartsIn rest

/-! ## One step -/

variable {d : Draft} {step : Step} {fault : Fault}

theorem setter_of_objection (h : d.objection? step = some fault) : step.isVerb = false := by
  cases step with
  | select | insert | update | delete | with_ => cases h
  | _ => rfl

/-- A step that fails changes nothing but the recorded mistake. -/
theorem step_of_objection (h : d.objection? step = some fault) :
    (d.step step).1 = { d with fault := d.fault <|> some fault } := by
  rw [d.step_of_setter (setter_of_objection h), settled, h]
  exact d.refuse_eq fault

/-- The one verb that begins no statement is the SELECT that a WITH waits for. -/
theorem exists_awaited (verb : step.isVerb = true) (stays : d.restartsAt step = false) :
    ∃ columns w, step = .select columns ∧ d.statement = .with_ w ∧ w.hasSelect = false := by
  cases step with
  | select columns =>
    have waits : d.awaitsSelect = true := by
      simpa [restartsAt, Step.isVerb, Step.isSelect] using stays
    unfold awaitsSelect at waits
    split at waits
    · rename_i w statement
      exact ⟨columns, w, rfl, statement, by simpa using waits⟩
    · cases waits
  | insert | update | delete | with_ => cases stays
  | _ => cases verb

/-- Only a step that begins a statement clears the mistake, and only the first one is kept. -/
theorem fault_step (d : Draft) (step : Step) :
    (d.step step).1.fault =
      if d.restartsAt step then none else d.fault <|> d.objection? step := by
  cases restarts : d.restartsAt step with
  | true =>
    rw [step_of_restarts restarts]
    rfl
  | false =>
    cases verb : step.isVerb with
    | true =>
      -- A verb that begins nothing is the SELECT that a WITH waits for.
      obtain ⟨columns, w, rfl, statement, waits⟩ := exists_awaited verb restarts
      rw [select_of_awaits statement waits]
      show d.fault = (d.fault <|> none)
      simp
    | false =>
      -- A setter records what speaks against it, or has nothing to record.
      cases objection : d.objection? step with
      | some fault =>
        rw [step_of_objection objection]
        rfl
      | none =>
        rw [d.step_of_setter verb, settled, objection]
        show d.fault = (d.fault <|> none)
        simp

/-! ## Runs -/

/-- A draft keeps the earliest mistake since its statement was begun. -/
theorem fault_run {before : List Fault} (h : d.fault = before.head?) (steps : List Step) :
    (d.run steps).1.fault = (d.mistakes before steps).head? := by
  induction steps generalizing d before with
  | nil => exact h
  | cons step rest ih =>
    show ((d.step step).1.run rest).1.fault = _
    refine ih ?_
    rw [fault_step]
    split
    · rfl
    · rw [h, List.head?_append]
      cases d.objection? step <;> cases before.head? <;> rfl

theorem fault_run_of_stays (h : d.fault = some fault) {steps : List Step}
    (stays : d.restartsIn steps = false) : (d.run steps).1.fault = some fault := by
  induction steps generalizing d with
  | nil => exact h
  | cons step rest ih =>
    obtain ⟨first, later⟩ := Bool.or_eq_false_iff.1 stays
    refine ih (d := (d.step step).1) ?_ later
    rw [fault_step, first, h]
    rfl

theorem render_of_fault (h : d.fault = some fault) (lex : Lexicon) :
    d.render lex = .error fault := by
  rcases d with ⟨own, tables, t, aliasName, first, limit⟩
  cases h
  rfl

theorem render_of_sound (sound : d.fault = none) (lex : Lexicon) :
    d.render lex = d.statement.render (.ofStatement lex d.tables) := by
  rcases d with ⟨own, tables, t, aliasName, first, limit⟩
  cases sound
  rfl

/-- What is rendered has no mistake, and it is the statement in the scope of its tables. -/
theorem statement_of_render {lex : Lexicon} {f : Fragment} (h : d.render lex = .ok f) :
    d.fault = none ∧ d.statement.render (.ofStatement lex d.tables) = .ok f := by
  cases recorded : d.fault with
  | some fault =>
    rw [render_of_fault recorded] at h
    cases h
  | none => exact ⟨rfl, (render_of_sound recorded lex).symm.trans h⟩

theorem renderedWithin_of_fault (h : d.fault = some fault) (dialect : Dialect)
    (prior : List Value) : d.renderedWithin dialect prior = .error fault := by
  rw [renderedWithin, render_of_fault h]
  rfl

/-- After any steps: a setter that fails changes nothing but the recorded mistake, the recorded
mistake is the earliest one since the statement was begun, and however the statement goes on,
that mistake stays and rendering fails with it in any dialect. -/
theorem fault_eq_firstMistake (dialect : Dialect) (steps more : List Step) :
    let d := ((ofDialect dialect).run steps).1
    (∀ step fault, d.objection? step = some fault →
      (d.step step).1 = { d with fault := d.fault <|> some fault }) ∧
    d.fault = ((ofDialect dialect).mistakes [] steps).head? ∧
    ∀ fault, d.fault = some fault → d.restartsIn more = false →
      (d.run more).1.fault = some fault ∧
        ∀ other prior, (d.run more).1.renderedWithin other prior = .error fault := by
  intro d
  refine ⟨?_, ?_, ?_⟩
  · intro step fault objection
    exact step_of_objection objection
  · exact fault_run rfl steps
  · intro fault recorded stays
    have kept := fault_run_of_stays recorded stays
    exact ⟨kept, renderedWithin_of_fault kept⟩

/-- An UPDATE keeps the LIMIT that was asked of it, and neither the FROM after it nor a filter
that fits. -/
theorem limitedUpdate_keeps_limit :
    let d := ((ofDialect .generic).run [.update "t", .limit 5, .source (.table (.raw "a"))]).1
    d.fault = some (.statementState (.wrongClause .limit .update)) ∧
      (d.run [.filter ((Condition.ofColumn "id").isNull)]).1.rendered =
        .error (.statementState (.wrongClause .limit .update)) := by
  intro d
  obtain ⟨-, recorded, kept⟩ := fault_eq_firstMistake .generic
    [.update "t", .limit 5, .source (.table (.raw "a"))]
    [.filter ((Condition.ofColumn "id").isNull)]
  exact ⟨recorded, (kept _ recorded rfl).2 .generic []⟩

end BoundSql.Draft
