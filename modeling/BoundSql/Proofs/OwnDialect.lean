import BoundSql.Proofs.Restarts

/-!
# What a draft takes from its dialect

A draft is built in a dialect of its own. Of that dialect its steps read one thing: how a table
text is taken apart into a table and an alias. So the same steps in two dialects that take all
these texts apart in the same way lead to drafts that differ in the dialect alone
(`Draft.run_inDialect`), and a draft is rendered without another look at its dialect
(`Draft.interchangeable_inDialect`).
-/

set_option autoImplicit false

namespace BoundSql

/-- The table text that a step takes apart, if it gives one. -/
def Step.tableText? : Step → Option Text
  | .source (.table (.raw text)) => some text
  | .join ⟨.raw text, _, _⟩ => some text
  | _ => none

/-- Two lexicons take the table texts of some steps apart in the same way. -/
def ReadsAlike (lex lex' : Lexicon) (steps : List Step) : Prop :=
  ∀ step ∈ steps, ∀ text ∈ step.tableText?, lex.splitTable text = lex'.splitTable text

/-! ## Steps in another dialect -/

section Reading

variable {lex lex' : Lexicon}

/-- What FROM registers depends on a lexicon only through the way it takes the table text apart. -/
theorem Origin.entryOf?_congr {origin : Origin}
    (h : ∀ text ∈ (Step.source origin).tableText?, lex.splitTable text = lex'.splitTable text) :
    origin.entryOf? lex = origin.entryOf? lex' := by
  cases origin with
  | derived e => rfl
  | table ref =>
    cases ref with
    | aliased table aliasName => rfl
    | raw text => simp only [Origin.entryOf?, TableRef.split, h text rfl]

/-- What FROM reads depends on a lexicon only through the way it takes the table text apart. -/
theorem Origin.source_congr {origin : Origin}
    (h : ∀ text ∈ (Step.source origin).tableText?, lex.splitTable text = lex'.splitTable text) :
    origin.source lex = origin.source lex' := by
  cases origin with
  | derived e => rfl
  | table ref =>
    cases ref with
    | aliased table aliasName => rfl
    | raw text => simp only [Origin.source, TableRef.split, h text rfl]

/-- The entry of a join depends on a lexicon only through the way it takes the table text apart. -/
theorem Join.entry_congr {j : Join}
    (h : ∀ text ∈ (Step.join j).tableText?, lex.splitTable text = lex'.splitTable text) :
    j.entry lex = j.entry lex' := by
  rcases j with ⟨ref, kind, qualifier⟩
  cases ref with
  | aliased table aliasName => rfl
  | raw text => simp only [Join.entry, TableRef.split, h text rfl]

variable {step : Step}
  (h : ∀ text ∈ step.tableText?, lex.splitTable text = lex'.splitTable text)
include h

theorem Selection.filled_congr (s : Selection) : s.filled lex step = s.filled lex' step := by
  cases step with
  | source origin => simp only [Selection.filled, Origin.source_congr h]
  | _ => rfl

/-- A statement is filled alike by two lexicons that take the table text alike apart. -/
theorem Statement.filled_congr (t : Statement) : t.filled lex step = t.filled lex' step := by
  cases t with
  | empty | insert | update | delete => rfl
  | select s => exact congrArg Statement.select (s.filled_congr h)
  | with_ w =>
    cases step with
    | body query next => rfl
    | _ => simp only [Statement.filled, WithClause.filled, w.selection.filled_congr h]

end Reading

namespace Draft

/-- The draft as if it had been begun in another dialect. -/
def inDialect (d : Draft) (dialect : Dialect) : Draft := { d with dialect := dialect }

variable {d : Draft} {dialect : Dialect} {step : Step}

/-- In another dialect that takes the table text alike apart, a step registers the same entry. -/
theorem entryFor?_inDialect (h : ∀ text ∈ step.tableText?,
    d.dialect.toLexicon.splitTable text = dialect.toLexicon.splitTable text) :
    (d.inDialect dialect).entryFor? step = d.entryFor? step := by
  cases step with
  | source origin => exact (Origin.entryOf?_congr h).symm
  | join j =>
    have entry := Join.entry_congr h
    show (if d.tables.contains (j.entry dialect.toLexicon).table then none
      else some (j.entry dialect.toLexicon)) = _
    rw [← entry, entryFor?]
  | _ => rfl

/-- A step reads of the dialect no more than how it takes a table text apart. -/
theorem step_inDialect (h : ∀ text ∈ step.tableText?,
    d.dialect.toLexicon.splitTable text = dialect.toLexicon.splitTable text) :
    ((d.inDialect dialect).step step).1 = (d.step step).1.inDialect dialect := by
  rcases d.step_cases step with restarts | ⟨columns, w, rfl, statement, waits⟩ | setter
  · have restarts' : (d.inDialect dialect).restartsAt step = true := restarts
    rw [step_of_restarts restarts, step_of_restarts restarts']
    rfl
  · have statement' : (d.inDialect dialect).statement = .with_ w := statement
    rw [select_of_awaits statement waits, select_of_awaits statement' waits]
    rfl
  · -- Only the entry and the source depend on how the table text is taken apart, and they are
    -- alike.
    have entry := entryFor?_inDialect h
    have objection : (d.inDialect dialect).objection? step = d.objection? step := by
      simp only [objection?, entry]
      rfl
    rw [step_of_setter _ setter, step_of_setter _ setter, settled, settled, objection]
    cases d.objection? step with
    | some fault =>
      rw [refuse_eq, refuse_eq]
      rfl
    | none =>
      show (d.inDialect dialect).filled step = (d.filled step).inDialect dialect
      simp only [filled, entry]
      simp only [inDialect, Statement.filled_congr h]

/-- The same steps in two dialects that take their table texts apart alike lead to drafts that
differ in the dialect alone. -/
theorem run_inDialect {steps : List Step}
    (h : ReadsAlike d.dialect.toLexicon dialect.toLexicon steps) :
    ((d.inDialect dialect).run steps).1 = (d.run steps).1.inDialect dialect := by
  induction steps generalizing d with
  | nil => rfl
  | cons step rest ih =>
    have later : ReadsAlike (d.step step).1.dialect.toLexicon dialect.toLexicon rest := by
      rw [dialect_step]
      exact fun s hs => h s (List.mem_cons_of_mem step hs)
    show (((d.inDialect dialect).step step).1.run rest).1 = _
    rw [step_inDialect (h step List.mem_cons_self), ih later]
    rfl

/-! ## Drafts that may stand for each other -/

/-- Within a statement of a lexicon, one draft may stand in the place of the other: they are of one
kind, have one name and are rendered alike. -/
structure Interchangeable (lex : Lexicon) (d d' : Draft) : Prop where
  render : d.render lex = d'.render lex
  kind : d.kind? = d'.kind?
  aliasName : d.aliasName = d'.aliasName

/-- A draft is rendered in the dialect of the statement, not in its own. -/
theorem interchangeable_inDialect (lex : Lexicon) (d : Draft) (dialect : Dialect) :
    Interchangeable lex d (d.inDialect dialect) := by
  rcases d with ⟨own, tables, t, aliasName, fault, limit⟩
  cases fault <;> exact ⟨rfl, rfl, rfl⟩

end Draft

end BoundSql
