import BoundSql.Proofs.Registrations
import BoundSql.Proofs.Steps

/-!
# What a setter does

A step is a verb or a setter. A verb begins another statement (`Draft.step_of_restarts`), and
the one exception is the SELECT that a WITH waits for (`Draft.select_of_awaits`). Of a setter it
can be told beforehand whether it will be refused and with which mistake: its clause has no place
in the statement, it reads from a draft that is no SELECT, or its table cannot be registered
(`Draft.objection?`). A setter that is not refused fills in its clause, adds its table behind the
others and does nothing else (`Draft.filled`, `Draft.step_of_setter`). So no step has another
effect than the five that are listed (`Draft.effect_step`).
-/

set_option autoImplicit false

namespace BoundSql

/-! ## Verbs -/

namespace Step

/-- Whether a step is a verb. -/
def isVerb : Step → Bool
  | .select _ | .insert _ | .update _ | .delete _ | .with_ _ _ => true
  | _ => false

/-- Whether a step is a SELECT. -/
def isSelect : Step → Bool
  | .select _ => true
  | _ => false

/-- The statement that a verb begins. -/
def begun : Step → Statement
  | .select columns => .select (.ofColumns columns)
  | .insert target => .insert (.ofTarget target)
  | .update target => .update (.ofTarget target)
  | .delete target => .delete (.ofTarget target)
  | .with_ first recursive => .with_ (.ofName first recursive)
  | _ => .empty

end Step

namespace Draft

/-- Whether a WITH waits for the columns of its inner SELECT. -/
def awaitsSelect (d : Draft) : Bool :=
  match d.statement with
  | .with_ w => !w.hasSelect
  | _ => false

/-- Whether a step begins another statement. Every verb does, but for the SELECT that a WITH
waits for. -/
def restartsAt (d : Draft) (step : Step) : Bool :=
  step.isVerb && !(step.isSelect && d.awaitsSelect)

end Draft

/-! ## Mistakes -/

/-- The clause that a step asks for. Verbs, names of drafts and limits of the log ask for none,
and neither do assignments of which there are none. -/
def Step.clause? : Step → Option Clause
  | .body _ _ => some .body
  | .source _ => some .source
  | .join _ => some .join
  | .group _ => some .group
  | .having _ => some .having
  | .order _ => some .order
  | .limit _ => some .limit
  | .union arm => some (if arm.keepsAll then .unionAll else .union)
  | .filter _ => some .filter
  | .values assignments => if assignments.isEmpty then none else some .values
  | .set assignments => if assignments.isEmpty then none else some .set
  | _ => none

/-- The kinds of statement that have a place for a clause. -/
def Clause.kinds : Clause → List StatementKind
  | .body => [.with_]
  | .filter => [.select, .with_, .update, .delete]
  | .values => [.insert, .update]
  | .set => [.update]
  | _ => [.select, .with_]

/-- Whether a step reads from a draft that is no SELECT. -/
def Step.readsNoSelect : Step → Bool
  | .source (.derived e) => decide (e.kind? ≠ some .select)
  | _ => false

/-- The entry of what is read from; a draft without a name has none. -/
def Origin.entryOf? (lex : Lexicon) : Origin → Option TableEntry
  | .table ref => some ⟨(ref.split lex).1, (ref.split lex).2.getD (ref.split lex).1, .origin⟩
  | .derived e => e.aliasName.map fun aliasName => ⟨aliasName, aliasName, .origin⟩

/-- What is read from, as it stands in the statement. -/
def Origin.source (lex : Lexicon) : Origin → Source
  | .table ref => .table (ref.split lex).1 (ref.split lex).2
  | .derived e => .derived e

/-- The mistake of registering an entry. -/
def Registry.refusal? (r : Registry) (e : TableEntry) : Option Fault :=
  match r.insert e with
  | .ok _ => none
  | .error fault => some fault

namespace Draft

/-- Whether the statement of a draft has a place for a clause. -/
def hasPlaceFor (d : Draft) (clause : Clause) : Bool :=
  d.kind?.any fun kind => decide (kind ∈ clause.kinds)

/-- The entry that a step would register: that of what is read from, or of a joined table that
is not known yet. -/
def entryFor? (d : Draft) : Step → Option TableEntry
  | .source origin => origin.entryOf? d.dialect.toLexicon
  | .join j =>
    if d.tables.contains (j.entry d.dialect.toLexicon).table then none
    else some (j.entry d.dialect.toLexicon)
  | _ => none

/-- The mistake of a step, told before the step is made. -/
def objection? (d : Draft) (step : Step) : Option Fault :=
  step.clause?.bind fun clause =>
    if !d.hasPlaceFor clause then some (d.misplaced clause)
    else if step.readsNoSelect then some (.statementState .derivedNotSelect)
    else (d.entryFor? step).bind d.tables.refusal?

end Draft

/-! ## Clauses filled in -/

/-- The registry with an entry behind the others, if there is one to add. -/
def Registry.with? (r : Registry) : Option TableEntry → Registry
  | none => r
  | some e => ⟨r.entries ++ [e]⟩

/-- A selection with the clause of a step. -/
def Selection.filled (lex : Lexicon) (s : Selection) : Step → Selection
  | .source origin => { s with source := some (origin.source lex) }
  | .join j => { s with joins := s.joins ++ [j] }
  | .filter w => { s with filters := s.filters ++ [w] }
  | .group columns => { s with group := columns }
  | .having w => { s with having := some w }
  | .order columns => { s with order := columns }
  | .limit n => { s with limit := some n }
  | .union arm => { s with unions := s.unions ++ [arm] }
  | _ => s

/-- A mutation with assignments made one after the other. -/
def Mutation.assigned (m : Mutation) (assignments : List (Text × Assignment)) : Mutation :=
  { m with assignments := assignments.foldl (fun made a => Mutation.put a.1 a.2 made) m.assignments }

/-- A mutation with the clause of a step. -/
def Mutation.filled (m : Mutation) : Step → Mutation
  | .filter w => { m with filters := m.filters ++ [w] }
  | .values assignments | .set assignments => m.assigned assignments
  | _ => m

/-- A WITH with the clause of a step. -/
def WithClause.filled (lex : Lexicon) (w : WithClause) : Step → WithClause
  | .body q next => { w with bodies := w.bodies ++ [q], names := w.names ++ next.toList }
  | step => { w with selection := w.selection.filled lex step }

/-- A statement with the clause of a step. -/
def Statement.filled (lex : Lexicon) : Statement → Step → Statement
  | .empty, _ => .empty
  | .select s, step => .select (s.filled lex step)
  | .insert m, step => .insert (m.filled step)
  | .update m, step => .update (m.filled step)
  | .delete m, step => .delete (m.filled step)
  | .with_ w, step => .with_ (w.filled lex step)

/-! ### Steps that fill in nothing -/

section Idle

variable {step : Step} (idle : step.clause? = none)

include idle

/-- A step that asks for no clause leaves a selection as it is. -/
theorem Selection.filled_of_idle (lex : Lexicon) (s : Selection) : s.filled lex step = s := by
  cases step with
  | select | insert | update | delete | with_ | name | values | set | logLimit => rfl
  | body | source | join | group | having | order | limit | union | filter => cases idle

/-- A step that asks for no clause leaves a mutation as it is. -/
theorem Mutation.filled_of_idle (m : Mutation) : m.filled step = m := by
  cases step with
  | values assignments | set assignments =>
    cases assignments with
    | nil => cases m; rfl
    | cons first rest => cases idle
  | select | insert | update | delete | with_ | name | logLimit => rfl
  | body | source | join | group | having | order | limit | union | filter => cases idle

/-- A step that asks for no clause leaves a WITH as it is. -/
theorem WithClause.filled_of_idle (lex : Lexicon) (w : WithClause) : w.filled lex step = w := by
  have selection := w.selection.filled_of_idle idle lex
  unfold WithClause.filled
  split
  · cases idle
  · rw [selection]
    cases w
    rfl

/-- A step that asks for no clause fills in none. -/
theorem Statement.filled_of_idle (lex : Lexicon) (t : Statement) : t.filled lex step = t := by
  cases t with
  | empty => rfl
  | select s => exact congrArg Statement.select (s.filled_of_idle idle lex)
  | insert m => exact congrArg Statement.insert (m.filled_of_idle idle)
  | update m => exact congrArg Statement.update (m.filled_of_idle idle)
  | delete m => exact congrArg Statement.delete (m.filled_of_idle idle)
  | with_ w => exact congrArg Statement.with_ (w.filled_of_idle idle lex)

end Idle

/-- The name of a draft after a step. -/
def Step.nameAfter (aliasName : Option Text) : Step → Option Text
  | .name given => some given
  | _ => aliasName

/-- The limit of the log after a step. -/
def Step.logLimitAfter (limit : Option Nat) : Step → Option Nat
  | .logLimit given => given
  | _ => limit

/-- A draft with all that a setter brings in. -/
def Draft.filled (d : Draft) (step : Step) : Draft where
  dialect := d.dialect
  tables := d.tables.with? (d.entryFor? step)
  statement := d.statement.filled d.dialect.toLexicon step
  aliasName := step.nameAfter d.aliasName
  fault := d.fault
  logLimit := step.logLimitAfter d.logLimit

/-- What becomes of a draft by a setter, and the events of it: either the mistake is recorded, or
the clause is filled in and what is new among the tables is reported. -/
def Draft.settled (d : Draft) (step : Step) : Draft × List Event :=
  match d.objection? step with
  | some fault => d.refuse fault
  | none => (d.filled step, (d.entryFor? step).toList.map .registered)

/-! ## Registering -/

section Registering

variable {r : Registry} {e : TableEntry} {lex : Lexicon}

/-- The answer to registering an entry, if there is one, and the events of it. -/
def Registry.answer? (r : Registry) (e : Option TableEntry) :
    Except Fault (Registry × List Event) :=
  match e.bind r.refusal? with
  | some fault => .error fault
  | none => .ok (r.with? e, e.toList.map .registered)

/-- An entry is registered, and reported, unless the registry refuses it. -/
theorem Registry.register_eq (r : Registry) (e : TableEntry) :
    r.register e = r.answer? (some e) := by
  unfold register answer? refusal?
  cases inserted : r.insert e with
  | error fault => simp [Except.map, inserted]
  | ok after =>
    have entries : after = r.with? (some e) :=
      congrArg Registry.mk (inserts_of_insert inserted).entries
    simp [Except.map, inserted, entries]

/-- A join of a known table registers nothing and is never refused. -/
theorem Join.register_eq (j : Join) (lex : Lexicon) (r : Registry) :
    j.register lex r =
      r.answer? (if r.contains (j.entry lex).table then none else some (j.entry lex)) := by
  unfold Join.register
  split
  · rfl
  · exact r.register_eq _

theorem Registry.register_bind (r : Registry) (e : TableEntry) (source : Source) :
    (r.register e >>= fun registered => .ok (registered.1, source, registered.2)) =
      (r.answer? (some e)).map fun registered => (registered.1, source, registered.2) := by
  rw [r.register_eq]
  cases r.answer? (some e) <;> rfl

/-- FROM first refuses a draft that is no SELECT, and then registers what it brings in. -/
theorem Origin.register_eq (origin : Origin) (lex : Lexicon) (r : Registry) :
    origin.register lex r =
      if (Step.source origin).readsNoSelect then .error (.statementState .derivedNotSelect)
      else (r.answer? (origin.entryOf? lex)).map fun registered =>
        (registered.1, origin.source lex, registered.2) := by
  cases origin with
  | table ref => exact r.register_bind _ _
  | derived e =>
    by_cases select : e.kind? = some .select
    · have reads : (Step.source (.derived e)).readsNoSelect = false := by
        simp [Step.readsNoSelect, select]
      rw [Origin.register, if_pos select, reads, Origin.entryOf?]
      cases e.aliasName with
      | none => rfl
      | some aliasName => exact r.register_bind _ _
    · simp [Origin.register, Step.readsNoSelect, select]

end Registering

/-! ## Verbs -/

namespace Draft

/-- A verb that begins a statement starts the draft over and reports nothing. -/
theorem step_of_restarts {d : Draft} {step : Step} (h : d.restartsAt step = true) :
    d.step step = (d.restart step.begun, []) := by
  cases step with
  | select columns =>
    -- Only a WITH without its inner SELECT would take the columns for itself.
    have ready : d.awaitsSelect = false := by simpa [restartsAt, Step.isVerb, Step.isSelect] using h
    unfold awaitsSelect at ready
    show (d.select columns, []) = _
    unfold select
    split
    · rename_i w statement
      simp only [statement] at ready
      rw [if_pos (by simpa using ready)]
      rfl
    · rfl
  | insert | update | delete | with_ => rfl
  | _ => cases h

/-- The SELECT that a WITH waits for gives the columns and changes nothing else. -/
theorem select_of_awaits {d : Draft} {w : WithClause} (statement : d.statement = .with_ w)
    (waits : w.hasSelect = false) (columns : List Text) :
    d.step (.select columns) =
      ({ d with statement := .with_ { w with
          hasSelect := true, selection := { w.selection with columns := columns } } }, []) := by
  simp [step, select, statement, waits]

/-- A setter begins no statement. -/
theorem restartsAt_of_setter (d : Draft) {step : Step} (setter : step.isVerb = false) :
    d.restartsAt step = false := by
  rw [restartsAt, setter, Bool.false_and]

/-! ## Setters -/

/-- A setter in the wrong statement is refused, whatever else may be wrong. -/
theorem settled_of_misplaced {d : Draft} {step : Step} {clause : Clause}
    (asks : step.clause? = some clause) (misfit : d.hasPlaceFor clause = false) :
    d.settled step = d.refuse (d.misplaced clause) := by
  simp [settled, objection?, asks, misfit]

/-- A step whose clause has a place is settled by what it registers. -/
theorem settled_of_place {d : Draft} {step : Step} {clause : Clause}
    (asks : step.clause? = some clause) (place : d.hasPlaceFor clause = true)
    (reads : step.readsNoSelect = false) :
    d.settled step =
      match d.tables.answer? (d.entryFor? step) with
      | .ok (tables, events) => ({ d.filled step with tables := tables }, events)
      | .error fault => d.refuse fault := by
  have objection : d.objection? step = (d.entryFor? step).bind d.tables.refusal? := by
    simp [objection?, asks, place, reads]
  rw [settled, objection, Registry.answer?]
  cases (d.entryFor? step).bind d.tables.refusal? <;> rfl

/-- FROM is a setter like the others. -/
theorem source_eq_settled (d : Draft) (origin : Origin) :
    d.source origin = d.settled (.source origin) := by
  rcases d with ⟨dialect, tables, t, aliasName, fault, limit⟩
  cases t with
  | empty | insert | update | delete => rfl
  | select s | with_ w =>
    unfold source
    simp only [selection?, Origin.register_eq]
    cases reads : (Step.source origin).readsNoSelect with
    | true => simp [settled, objection?, Step.clause?, reads, hasPlaceFor, Clause.kinds, kind?,
        Statement.kind?]
    | false =>
      -- What is left depends on the answer of the registry alone.
      rw [settled_of_place rfl rfl reads]
      simp only [entryFor?, Bool.false_eq_true, if_false]
      cases tables.answer? (origin.entryOf? dialect.toLexicon) <;> rfl

/-- JOIN is a setter like the others. -/
theorem join_eq_settled (d : Draft) (j : Join) : d.join j = d.settled (.join j) := by
  rcases d with ⟨dialect, tables, t, aliasName, fault, limit⟩
  cases t with
  | empty | insert | update | delete => rfl
  | select s | with_ w =>
    rw [settled_of_place rfl rfl rfl]
    unfold join
    simp only [selection?, Join.register_eq, entryFor?]
    cases tables.answer? _ <;> rfl

/-! ## Assignments -/

/-- The draft with assignments in its statement. -/
def assigned (d : Draft) (assignments : List (Text × Assignment)) : Draft :=
  { d with statement := d.statement.filled d.dialect.toLexicon (.values assignments) }

theorem assigned_nil (d : Draft) : d.assigned [] = d := by
  rw [assigned, Statement.filled_of_idle rfl]
  cases d
  rfl

/-- Assignments are made one after the other. -/
theorem assigned_cons (d : Draft) (first : Text × Assignment)
    (rest : List (Text × Assignment)) :
    d.assigned (first :: rest) = (d.assigned [first]).assigned rest := by
  rcases d with ⟨dialect, tables, t, aliasName, fault, limit⟩
  cases t <;> rfl

/-- An assignment is made where its clause has a place, and refused where it has none. -/
structure Assigns (clause : Clause)
    (one : Draft → Text → Assignment → Draft × List Event) : Prop where
  made : ∀ d column a, d.hasPlaceFor clause = true → one d column a = (d.assigned [(column, a)], [])
  refused : ∀ d column a, d.hasPlaceFor clause = false →
    one d column a = d.refuse (d.misplaced clause)

section Assignments

variable {clause : Clause} {one : Draft → Text → Assignment → Draft × List Event} {d : Draft}

theorem hasPlaceFor_assigned (d : Draft) (clause : Clause)
    (assignments : List (Text × Assignment)) :
    (d.assigned assignments).hasPlaceFor clause = d.hasPlaceFor clause := by
  rcases d with ⟨dialect, tables, t, aliasName, fault, limit⟩
  cases t <;> rfl

/-- Where they have a place, all the assignments are made. -/
theorem Assigns.assignAll_of_place (h : Assigns clause one) (place : d.hasPlaceFor clause = true)
    (assignments : List (Text × Assignment)) :
    d.assignAll one assignments = (d.assigned assignments, []) := by
  induction assignments generalizing d with
  | nil => rw [assigned_nil, assignAll]
  | cons first rest ih =>
    -- An assignment leaves the kind of the statement, so the rest has its place as well.
    have place' : (d.assigned [first]).hasPlaceFor clause = true := by
      rw [hasPlaceFor_assigned, place]
    rw [assignAll, h.made d first.1 first.2 place, d.assigned_cons first rest]
    simp only [ih place', List.append_nil]

/-- Where they have no place, assignments change nothing behind a mistake on record. -/
theorem Assigns.assignAll_of_fault (h : Assigns clause one)
    (misfit : d.hasPlaceFor clause = false) (faulty : d.fault.isSome = true)
    (assignments : List (Text × Assignment)) : d.assignAll one assignments = (d, []) := by
  induction assignments with
  | nil => rfl
  | cons first rest ih =>
    rw [assignAll, h.refused d first.1 first.2 misfit, refuse_of_fault faulty]
    simp only [ih, List.append_nil]

theorem hasPlaceFor_refuse (d : Draft) (fault : Fault) (clause : Clause) :
    (d.refuse fault).1.hasPlaceFor clause = d.hasPlaceFor clause := by
  rw [hasPlaceFor, refuse_kind?, hasPlaceFor]

/-- Assignments where there is no place for them are refused together. -/
theorem Assigns.assignAll_of_misfit (h : Assigns clause one)
    (misfit : d.hasPlaceFor clause = false) (first : Text × Assignment)
    (rest : List (Text × Assignment)) :
    d.assignAll one (first :: rest) = d.refuse (d.misplaced clause) := by
  have misfit' : (d.refuse (d.misplaced clause)).1.hasPlaceFor clause = false := by
    rw [hasPlaceFor_refuse, misfit]
  -- The first refusal leaves a fault behind, and only the first fault is recorded.
  have later := h.assignAll_of_fault misfit' (refuse_fault_isSome d _) rest
  rw [assignAll, h.refused d first.1 first.2 misfit]
  simp only [later, List.append_nil]

/-- Assignments one by one are one setter: the first that is refused records the mistake for all. -/
theorem Assigns.assignAll_eq_settled (h : Assigns clause one) {step : Step}
    (assignments : List (Text × Assignment))
    (asks : step.clause? = if assignments.isEmpty then none else some clause)
    (fills : ∀ d : Draft, d.filled step = d.assigned assignments)
    (adds : ∀ d : Draft, d.entryFor? step = none) (reads : step.readsNoSelect = false) (d : Draft) :
    d.assignAll one assignments = d.settled step := by
  cases assignments with
  | nil =>
    -- No assignments ask for no clause, so they are never refused.
    have objection : d.objection? step = none := by
      rw [objection?, asks]
      rfl
    rw [settled, objection, assignAll, fills, adds, assigned_nil]
    rfl
  | cons first rest =>
    cases place : d.hasPlaceFor clause with
    | true =>
      rw [h.assignAll_of_place place, settled_of_place asks place reads, fills, adds]
      rfl
    | false => rw [h.assignAll_of_misfit place, settled_of_misplaced asks place]

end Assignments

theorem assigns_value : Assigns .values value := by
  constructor
  · intro d column a place
    rcases d with ⟨dialect, tables, t, aliasName, fault, limit⟩
    cases t with
    | insert m | update m => rfl
    | empty | select | delete | with_ => cases place
  · intro d column a misfit
    rcases d with ⟨dialect, tables, t, aliasName, fault, limit⟩
    cases t with
    | insert m | update m => cases misfit
    | empty | select | delete | with_ => rfl

theorem assigns_set : Assigns .set set := by
  constructor
  · intro d column a place
    rcases d with ⟨dialect, tables, t, aliasName, fault, limit⟩
    cases t with
    | update m => rfl
    | empty | select | insert | delete | with_ => cases place
  · intro d column a misfit
    rcases d with ⟨dialect, tables, t, aliasName, fault, limit⟩
    cases t with
    | update m => cases misfit
    | empty | select | insert | delete | with_ => rfl

/-! ## Any setter -/

/-- A setter is refused with the mistake that can be told before it, or it fills in its clause. -/
theorem step_of_setter (d : Draft) {step : Step} (setter : step.isVerb = false) :
    d.step step = d.settled step := by
  cases step with
  | select | insert | update | delete | with_ => cases setter
  | source origin => exact source_eq_settled d origin
  | join j => exact join_eq_settled d j
  | values assignments =>
    exact assigns_value.assignAll_eq_settled assignments rfl (fun _ => rfl) (fun _ => rfl) rfl d
  | set assignments =>
    refine assigns_set.assignAll_eq_settled assignments rfl (fun d => ?_) (fun _ => rfl) rfl d
    rcases d with ⟨dialect, tables, t, aliasName, fault, limit⟩
    cases t <;> rfl
  | name | logLimit =>
    show _ = (d.filled _, [])
    rw [filled, Statement.filled_of_idle rfl]
    rfl
  | union arm =>
    rcases d with ⟨dialect, tables, t, aliasName, fault, limit⟩
    rcases arm with ⟨query, keepsAll⟩
    cases keepsAll <;> cases t <;> rfl
  | body | group | having | order | limit | filter =>
    -- Every kind of statement either has the place or refuses.
    rcases d with ⟨dialect, tables, t, aliasName, fault, limit⟩
    cases t <;> rfl

/-! ## Effects -/

/-- What a step fills in leaves the kind of the statement, and only FROM touches the source. -/
theorem fills_filled {d : Draft} {step : Step} (adds : d.entryFor? step = none)
    (other : step.isSource = false) : Fills d (d.filled step) := by
  refine ⟨?_, rfl, ?_, ?_⟩
  · show d.tables.with? (d.entryFor? step) = d.tables
    rw [adds]
    rfl
  · show (d.statement.filled _ step).kind? = d.statement.kind?
    cases d.statement <;> rfl
  · show (d.statement.filled _ step).source? = d.statement.source?
    cases d.statement with
    | empty | insert | update | delete => rfl
    | select s | with_ w =>
      cases step with
      | source => cases other
      | _ => rfl

theorem effect_settled {d : Draft} {step : Step} (adds : d.entryFor? step = none)
    (other : step.isSource = false) : Effect d step (d.settled step).1 := by
  unfold settled
  split
  · exact .refuses _
  · exact .fills other (fills_filled adds other)

/-- Every step has one of the five effects. -/
theorem effect_step (d : Draft) (step : Step) : Effect d step (d.step step).1 := by
  cases step with
  | select columns => exact effect_select rfl columns
  | insert | update | delete | with_ => exact .begins _ rfl
  | source origin => exact effect_source d origin
  | join j => exact effect_join d j
  | body | name | group | having | order | limit | union | filter | values | set | logLimit =>
    rw [d.step_of_setter rfl]
    exact effect_settled rfl rfl

end Draft

end BoundSql
