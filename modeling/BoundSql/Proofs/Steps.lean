import BoundSql.Draft.Step

/-!
# What a step can do

Every step does one of five things to a draft. A verb begins another statement. A step that
has no place in the statement, or whose table cannot be registered, changes nothing but the
recorded mistake. FROM and JOIN change the tables together with the statement. All other
steps fill in clauses and leave the tables, the source and the mistake alone
(`Draft.Effect`). What is true along every run of steps follows from these five cases, and
there are no others (`Draft.effect_step`).
-/

set_option autoImplicit false

namespace BoundSql

/-- What a statement reads from. -/
def Statement.source? : Statement → Option Source
  | .select s => s.source
  | .with_ w => w.selection.source
  | _ => none

/-- Whether a step is a FROM. -/
def Step.isSource : Step → Bool
  | .source _ => true
  | _ => false

namespace Draft

/-- What the statement of a draft reads from. -/
def source? (d : Draft) : Option Source := d.statement.source?

/-- One draft comes from another by filling in clauses. -/
structure Fills (d d' : Draft) : Prop where
  tables : d'.tables = d.tables
  fault : d'.fault = d.fault
  kind : d'.kind? = d.kind?
  source : d'.source? = d.source?

/-- A draft fills itself. -/
theorem Fills.refl (d : Draft) : Fills d d := ⟨rfl, rfl, rfl, rfl⟩

/-- What is filled twice is filled. -/
theorem Fills.trans {d d' d'' : Draft} (h : Fills d d') (h' : Fills d' d'') : Fills d d'' :=
  ⟨h'.tables.trans h.tables, h'.fault.trans h.fault, h'.kind.trans h.kind,
    h'.source.trans h.source⟩

/-- What a step does to a draft. -/
inductive Effect (d : Draft) (step : Step) : Draft → Prop where
  /-- A verb begins a statement that reads from nothing yet. -/
  | begins (t : Statement) (bare : t.source? = none) : Effect d step (d.restart t)
  /-- A step that does not fit is refused. -/
  | refuses (fault : Fault) : Effect d step (d.refuse fault).1
  /-- FROM registers the origin. -/
  | reads {origin : Origin} {s : Selection} {tables : Registry} {source : Source}
      {events : List Event} (is : step = .source origin) (selection : d.selection? = some s)
      (registers : origin.register d.dialect.toLexicon d.tables = .ok (tables, source, events)) :
      Effect d step { d.withSelection { s with source := some source } with tables := tables }
  /-- JOIN registers its table. -/
  | joins {j : Join} {s : Selection} {tables : Registry} {events : List Event}
      (is : step = .join j) (selection : d.selection? = some s)
      (registers : j.register d.dialect.toLexicon d.tables = .ok (tables, events)) :
      Effect d step { d.withSelection { s with joins := s.joins ++ [j] } with tables := tables }
  /-- Any other step fills in a clause. -/
  | fills {d' : Draft} (other : step.isSource = false) (fills : Fills d d') :
      Effect d step d'

variable {d : Draft} {step : Step} {s : Selection}

/-! ## Refusals -/

/-- A refusal keeps the kind of the statement. -/
theorem refuse_kind? (d : Draft) (fault : Fault) : (d.refuse fault).1.kind? = d.kind? := by
  unfold refuse
  split <;> rfl

/-- After a refusal there is a fault, the new one or an older one. -/
theorem refuse_fault_isSome (d : Draft) (fault : Fault) : (d.refuse fault).1.fault.isSome := by
  unfold refuse
  split
  · rename_i h
    rw [h]
    rfl
  · rfl

/-- Only the first mistake is kept, so that a second refusal changes nothing at all. -/
theorem refuse_of_fault (h : d.fault.isSome = true) (fault : Fault) :
    d.refuse fault = (d, []) := by
  obtain ⟨first, h⟩ := Option.isSome_iff_exists.1 h
  rw [refuse, h]

/-- Of several faults the first one is kept. -/
theorem refuse_eq (d : Draft) (fault : Fault) :
    (d.refuse fault).1 = { d with fault := d.fault <|> some fault } := by
  rcases d with ⟨dialect, tables, t, aliasName, first, limit⟩
  cases first <;> rfl

/-! ## Statements and selections -/

/-- A statement of the same kind with the same source fills the draft. -/
theorem fills_statement {t t' : Statement} (h : d.statement = t) (kind : t'.kind? = t.kind?)
    (source : t'.source? = t.source?) : Fills d { d with statement := t' } := by
  subst h
  exact ⟨rfl, rfl, kind, source⟩

/-- A draft with a selection is a SELECT or a WITH. -/
theorem selection?_cases (h : d.selection? = some s) :
    d.statement = .select s ∨ ∃ w, d.statement = .with_ w ∧ w.selection = s := by
  unfold selection? at h
  split at h
  · rename_i statement
    cases h
    exact .inl statement
  · rename_i w statement
    cases h
    exact .inr ⟨w, statement, rfl⟩
  · cases h

/-- What a draft reads from is what its selection reads from. -/
theorem source?_of_selection? (h : d.selection? = some s) : d.source? = s.source := by
  rcases selection?_cases h with statement | ⟨w, statement, rfl⟩
  · rw [source?, statement]
    rfl
  · rw [source?, statement]
    rfl

/-- A selection that is put into a draft is the one that is found there. -/
theorem selection?_withSelection (h : d.selection? = some s) (s' : Selection) :
    (d.withSelection s').selection? = some s' := by
  rcases selection?_cases h with statement | ⟨w, statement, rfl⟩
  · simp [withSelection, selection?, statement]
  · simp [withSelection, selection?, statement]

/-- And it fills the draft if it reads from the same source. -/
theorem fills_withSelection (h : d.selection? = some s) {s' : Selection}
    (same : s'.source = s.source) : Fills d (d.withSelection s') := by
  rcases selection?_cases h with statement | ⟨w, statement, rfl⟩
  · rw [withSelection, statement]
    exact fills_statement statement rfl same
  · rw [withSelection, statement]
    exact fills_statement statement rfl same

/-! ## Steps with an effect of their own -/

/-- SELECT begins a statement, or gives the columns that a WITH waits for. -/
theorem effect_select (other : step.isSource = false) (columns : List Text) :
    Effect d step (d.select columns) := by
  unfold select
  split
  · rename_i w statement
    split
    · exact .begins _ rfl
    · exact .fills other (fills_statement statement rfl rfl)
  · exact .begins _ rfl

/-- FROM registers what is read from, or is refused. -/
theorem effect_source (d : Draft) (origin : Origin) :
    Effect d (.source origin) (d.source origin).1 := by
  unfold source
  split
  · exact .refuses _
  · rename_i s selection
    split
    · rename_i tables source events registers
      exact .reads rfl selection registers
    · exact .refuses _

/-- JOIN registers its table unless it is known, or is refused. -/
theorem effect_join (d : Draft) (j : Join) : Effect d (.join j) (d.join j).1 := by
  unfold join
  split
  · exact .refuses _
  · rename_i s selection
    split
    · rename_i tables events registers
      exact .joins rfl selection registers
    · exact .refuses _

/-! ## Runs -/

/-- A run goes on with the draft that the steps before it leave. -/
theorem run_append (d : Draft) (front rest : List Step) :
    (d.run (front ++ rest)).1 = ((d.run front).1.run rest).1 := by
  induction front generalizing d with
  | nil => rfl
  | cons step front ih => exact ih (d.step step).1

/-- The last step of a run is taken from the draft that the others leave. -/
theorem run_concat (d : Draft) (steps : List Step) (step : Step) :
    (d.run (steps ++ [step])).1 = ((d.run steps).1.step step).1 := run_append d steps [step]

end Draft

end BoundSql
