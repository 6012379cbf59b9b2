import BoundSql.Proofs.Restarts

/-!
# The log of a draft

The log of a draft tells what became of it. Since its statement was begun, the tables that were
reported are the tables that are registered, in the same order, and the mistake that was reported is
the one that is recorded: an event is reported where the draft changes and nowhere else
(`Draft.Reflects`). What a step does to the draft it also adds to the log, or else it begins another
statement and empties both (`Draft.Reflects.step`). A rendering is reported once, with the number of
values that it returns or the mistake with which it fails, and changes nothing
(`Draft.lines_actAll`). The drafts within a statement are built before the step that takes them
and rendered with the statement, and neither shows in its log.
-/

set_option autoImplicit false

namespace BoundSql

/-! ## What an event says -/

/-- The value of a field of an event. -/
inductive FieldValue where
  | text (t : Text)
  | number (n : Nat)
  deriving DecidableEq, Repr

/-- The fields of a line of the log, by their names. -/
abbrev Fields := List (Text × FieldValue)

/-- The fields of a table that is reported. -/
def TableEntry.fields (e : TableEntry) : Fields :=
  [("table", .text e.table), ("alias", .text e.aliasName), ("role", .text e.role.name)]

/-- The fields of a mistake that is reported. -/
def Fault.fields (fault : Fault) : Fields := [("error", .text fault.message)]

namespace Event

/-- The fields of an event beside its message. -/
def fields : Event → Fields
  | .registered e => e.fields
  | .recorded fault => fault.fields
  | .rendered kind params sql =>
    [("kind", .text (kindName kind)), ("param_count", .number params), ("sql", .text sql)]
  | .failed kind fault => ("kind", .text (kindName kind)) :: fault.fields

/-- What an event says: its message and its fields. -/
def line (e : Event) : Text × Fields := (e.message, e.fields)

/-- Whether an event has a message. -/
def hasMessage (message : Text) (e : Event) : Bool := e.message == message

/-- Whether an event reports a rendering. -/
def isReport (e : Event) : Bool := e.hasMessage "rendered statement" || e.hasMessage "render failed"

/-- The table that an event reports. -/
def entry? : Event → Option TableEntry
  | .registered e => some e
  | _ => none

/-- The mistake that an event reports as recorded. -/
def mistake? : Event → Option Fault
  | .recorded fault => some fault
  | _ => none

/-- The tables that a log reports are in the events with the message for it. -/
theorem fields_of_registered (log : List Event) :
    (log.filter (hasMessage "registered table alias")).map fields =
      (log.filterMap entry?).map TableEntry.fields := by
  induction log with
  | nil => rfl
  | cons e rest ih =>
    cases e with
    | registered entry => exact congrArg (entry.fields :: ·) ih
    | recorded | rendered | failed => exact ih

/-- The mistakes that a log reports as recorded are in the events with the message for it. -/
theorem fields_of_recorded (log : List Event) :
    (log.filter (hasMessage "builder error recorded")).map fields =
      (log.filterMap mistake?).map Fault.fields := by
  induction log with
  | nil => rfl
  | cons e rest ih =>
    cases e with
    | recorded fault => exact congrArg (fault.fields :: ·) ih
    | registered | rendered | failed => exact ih

end Event

/-! ## What is done with a draft -/

/-- What is done with a draft: a step of its building, or a rendering. -/
inductive Act where
  | build (step : Step)
  | render

namespace Draft

/-- The draft after an act, and the events of it. -/
def act (d : Draft) : Act → Draft × List Event
  | .build step => d.step step
  | .render => (d, [d.finish.2])

/-- The draft after some acts, and all their events in order. -/
def actAll (d : Draft) : List Act → Draft × List Event
  | [] => (d, [])
  | a :: rest =>
    let (d, events) := d.act a
    let (d, later) := d.actAll rest
    (d, events ++ later)

/-- Whether an act begins another statement. -/
def restartsWith (d : Draft) : Act → Bool
  | .build step => d.restartsAt step
  | .render => false

/-- The events of some acts since the last one that began a statement, in order. The ones logged
before the acts count as well, up to the first act that begins a statement. -/
def logSince (d : Draft) (before : List Event) : List Act → List Event
  | [] => before
  | a :: rest =>
    (d.act a).1.logSince ((if d.restartsWith a then [] else before) ++ (d.act a).2) rest

/-- What is returned by the renderings among some acts, each with the draft that was rendered. -/
def answers (d : Draft) : List Act → List (Draft × Except Fault Rendered)
  | [] => []
  | .build step :: rest => (d.step step).1.answers rest
  | .render :: rest => (d, d.finish.1) :: d.answers rest

/-- The line that is due for a rendering: the number of the values that are returned, or the mistake
that is. -/
def dueLine (d : Draft) : Except Fault Rendered → Text × Fields
  | .ok r =>
    ("rendered statement", [("kind", .text (Event.kindName d.kind?)),
      ("param_count", .number r.params.length), ("sql", .text (loggedSql d.logLimit r.sql))])
  | .error fault =>
    ("render failed", [("kind", .text (Event.kindName d.kind?)), ("error", .text fault.message)])

/-! ## One act -/

/-- What a step makes of a draft, and what it logs. -/
inductive Logged (d : Draft) (step : Step) : Draft × List Event → Prop where
  | begins (restarts : d.restartsAt step = true) : Logged d step (d.restart step.begun, [])
  /-- The SELECT that a WITH waits for logs nothing. -/
  | awaited (stays : d.restartsAt step = false) (t : Statement) :
      Logged d step ({ d with statement := t }, [])
  | refused (stays : d.restartsAt step = false) (fault : Fault) : Logged d step (d.refuse fault)
  | filled (stays : d.restartsAt step = false) :
      Logged d step (d.filled step, (d.entryFor? step).toList.map .registered)

theorem logged_step (d : Draft) (step : Step) : Logged d step (d.step step) := by
  rcases d.step_cases step with restarts | ⟨columns, w, rfl, statement, waits⟩ | setter
  · rw [step_of_restarts restarts]
    exact .begins restarts
  · rw [select_of_awaits statement waits]
    refine .awaited ?_ _
    simp [restartsAt, Step.isSelect, awaitsSelect, statement, waits]
  · have stays := d.restartsAt_of_setter setter
    rw [d.step_of_setter setter, settled]
    split
    · exact .refused stays _
    · exact .filled stays

/-- A log reports the tables and the mistake of a draft. -/
structure Reflects (d : Draft) (log : List Event) : Prop where
  tables : log.filterMap Event.entry? = d.tables.entries
  fault : log.filterMap Event.mistake? = d.fault.toList

variable {d : Draft} {log : List Event}

/-- A refusal is logged if it is the first. -/
theorem Reflects.refuse (h : d.Reflects log) (fault : Fault) :
    (d.refuse fault).1.Reflects (log ++ (d.refuse fault).2) := by
  unfold Draft.refuse
  split
  · simpa using h
  · rename_i sound
    have none_ : log.filterMap Event.mistake? = [] := by rw [h.fault, sound]; rfl
    constructor
    · rw [List.filterMap_append, h.tables]
      exact List.append_nil _
    · rw [List.filterMap_append, none_]
      rfl

theorem entries_with? (r : Registry) (e : Option TableEntry) :
    (r.with? e).entries = r.entries ++ e.toList := by
  cases e with
  | none => exact (List.append_nil r.entries).symm
  | some e => rfl

/-- A table that a setter registers is logged behind the others. -/
theorem Reflects.filled (h : d.Reflects log) (step : Step) :
    (d.filled step).Reflects (log ++ (d.entryFor? step).toList.map .registered) := by
  constructor
  · show _ = (d.tables.with? (d.entryFor? step)).entries
    rw [List.filterMap_append, h.tables, entries_with?]
    cases d.entryFor? step <;> rfl
  · show _ = d.fault.toList
    rw [List.filterMap_append, h.fault]
    cases d.entryFor? step <;> exact List.append_nil _

/-- A step that begins a statement empties the log with the draft, and any other step adds to the
log what it does to the draft. -/
theorem Reflects.logged (h : d.Reflects log) {step : Step} {after : Draft × List Event}
    (is : Logged d step after) :
    after.1.Reflects ((if d.restartsAt step then [] else log) ++ after.2) := by
  cases is with
  | begins restarts =>
    rw [if_pos restarts]
    exact ⟨rfl, rfl⟩
  | awaited stays t =>
    rw [if_neg (Bool.eq_false_iff.1 stays), List.append_nil]
    exact ⟨h.tables, h.fault⟩
  | refused stays fault =>
    rw [if_neg (Bool.eq_false_iff.1 stays)]
    exact h.refuse fault
  | filled stays =>
    rw [if_neg (Bool.eq_false_iff.1 stays)]
    exact h.filled step

/-- A rendering reports neither a table nor a recorded mistake. -/
theorem Reflects.report (h : d.Reflects log) : d.Reflects (log ++ [d.finish.2]) := by
  unfold finish
  constructor
  · rw [List.filterMap_append, h.tables]
    split <;> exact List.append_nil _
  · rw [List.filterMap_append, h.fault]
    split <;> exact List.append_nil _

theorem Reflects.afterAct (h : d.Reflects log) (a : Act) :
    (d.act a).1.Reflects ((if d.restartsWith a then [] else log) ++ (d.act a).2) := by
  cases a with
  | build step => exact h.logged (d.logged_step step)
  | render => exact h.report

/-! ## Runs -/

/-- The log since the statement was begun reports the tables and the mistake, whatever is done. -/
theorem Reflects.afterActs (h : d.Reflects log) (acts : List Act) :
    (d.actAll acts).1.Reflects (d.logSince log acts) := by
  induction acts generalizing d log with
  | nil => exact h
  | cons a rest ih => exact ih (h.afterAct a)

theorem reports_of_logged {step : Step} {after : Draft × List Event} (is : Logged d step after) :
    after.2.filter Event.isReport = [] := by
  cases is with
  | begins | awaited => rfl
  | refused stays fault =>
    unfold refuse
    split <;> rfl
  | filled => cases d.entryFor? step <;> rfl

/-- A rendering reports itself, in one line. -/
theorem lines_report (d : Draft) :
    ([d.finish.2].filter Event.isReport).map Event.line = [d.dueLine d.finish.1] := by
  unfold finish
  split <;> rfl

/-- Of all that is logged, one line for each rendering reports a rendering, in the same order. -/
theorem lines_actAll (d : Draft) (acts : List Act) :
    ((d.actAll acts).2.filter Event.isReport).map Event.line =
      (d.answers acts).map fun a => a.1.dueLine a.2 := by
  induction acts generalizing d with
  | nil => rfl
  | cons a rest ih =>
    show (((d.act a).2 ++ ((d.act a).1.actAll rest).2).filter Event.isReport).map Event.line = _
    rw [List.filter_append, List.map_append, ih]
    cases a with
    | build step =>
      show ((d.step step).2.filter _).map _ ++ _ = _
      rw [reports_of_logged (d.logged_step step)]
      rfl
    | render =>
      show ([d.finish.2].filter _).map _ ++ _ = _
      rw [lines_report]
      rfl

/-- After any steps and renderings of a draft: since its statement was begun, the tables that were
reported are the registered ones with their aliases and roles, in the same order, and one mistake
was reported if one is recorded, with its words, and none if none is. And in all, each rendering
was reported once, with the number of the values that it returned or the words of the mistake, and
nothing else was reported as a rendering. -/
theorem log_reflects (dialect : Dialect) (acts : List Act) :
    let start := ofDialect dialect
    let d := (start.actAll acts).1
    let log := start.logSince [] acts
    (log.filter (Event.hasMessage "registered table alias")).map Event.fields =
      d.tables.entries.map TableEntry.fields ∧
    (log.filter (Event.hasMessage "builder error recorded")).map Event.fields =
      d.fault.toList.map Fault.fields ∧
    ((start.actAll acts).2.filter fun e =>
        e.hasMessage "rendered statement" || e.hasMessage "render failed").map Event.line =
      (start.answers acts).map fun a => a.1.dueLine a.2 := by
  intro start d log
  have reflects : d.Reflects log := Reflects.afterActs ⟨rfl, rfl⟩ acts
  refine ⟨?_, ?_, start.lines_actAll acts⟩
  · rw [Event.fields_of_registered, reflects.tables]
  · rw [Event.fields_of_recorded, reflects.fault]

end Draft

end BoundSql
