import BoundSql.Proofs.Entries
import BoundSql.Proofs.Lookups

/-!
# The order of setters

Setters of different clauses may be called in any order. Each fills in a part of the statement
of its own, and FROM is the only one that decides on the origin (`independent_filled`,
`independent_origin`). The registry is the exception: its entries stand in the order of the
calls. But which tables are joined follows from the joins and the origin
(`Draft.isTallied_run`), and rendering looks up no more than that (`Statement.render_congr`).
So two orders of the same calls are rendered alike as long as the calls for each clause keep
theirs (`Draft.rendered_of_reordered`).
-/

set_option autoImplicit false

namespace BoundSql

/-! ## Independent changes -/

section Independent

variable {α σ κ : Type} {part : α → Option κ} {change : σ → α → σ}

/-- Changes of different parts of a state commute, and what is of no part changes nothing. -/
structure Independent (part : α → Option κ) (change : σ → α → σ) : Prop where
  idle : ∀ a, part a = none → ∀ s, change s a = s
  comm : ∀ a b, part a ≠ part b → ∀ s, change (change s a) b = change (change s b) a

/-- A change may be made behind others that are not of its part. -/
theorem Independent.foldl_comm (h : Independent part change) {a : α} {before : List α}
    (others : ∀ b ∈ before, part b ≠ part a) (s : σ) :
    before.foldl change (change s a) = change (before.foldl change s) a := by
  induction before generalizing s with
  | nil => rfl
  | cons b rest ih =>
    -- The change steps over the first of the others, and the induction takes it over the rest.
    have swapped : change (change s a) b = change (change s b) a :=
      h.comm a b (others b List.mem_cons_self).symm s
    rw [List.foldl_cons, swapped, ih fun c hc => others c (List.mem_cons_of_mem b hc)]
    rfl

variable [DecidableEq κ]

theorem Independent.foldl_of_idle (h : Independent part change) {changes : List α}
    (none_ : ∀ p, changes.filter (fun a => part a = some p) = []) (s : σ) :
    changes.foldl change s = s := by
  induction changes with
  | nil => rfl
  | cons a rest ih =>
    have unassigned : part a = none := by
      cases of : part a with
      | none => rfl
      | some p => simpa [of] using none_ p
    rw [List.foldl_cons, h.idle a unassigned]
    apply ih
    intro p
    simpa [unassigned] using none_ p

/-- Two orders of changes come to the same if they agree on every part. -/
theorem Independent.foldl_congr (h : Independent part change) {xs ys : List α}
    (same : ∀ p, xs.filter (fun a => part a = some p) = ys.filter (fun a => part a = some p))
    (s : σ) : xs.foldl change s = ys.foldl change s := by
  induction xs generalizing ys s with
  | nil => exact (h.foldl_of_idle (fun p => (same p).symm) s).symm
  | cons a rest ih =>
    cases is : part a with
    | none =>
      rw [List.foldl_cons, h.idle a is]
      refine ih (fun p => ?_) s
      rw [← same p]
      simp [is]
    | some p =>
      -- The first change of its part in the one order is also the first in the other.
      have first := same p
      rw [List.filter_cons_of_pos (by simpa using is), eq_comm, List.filter_eq_cons_iff] at first
      obtain ⟨before, after, rfl, others, -, later⟩ := first
      have others_ : ∀ b ∈ before, part b ≠ some p := by simpa using others
      rw [List.foldl_cons, List.foldl_append, List.foldl_cons, ← h.foldl_comm (is ▸ others_),
        ← List.foldl_append]
      -- Without it the two orders still agree on every part, its own and the others.
      refine ih (fun q => ?_) (change s a)
      have agree := same q
      by_cases own : q = p
      · subst own
        have none_ : before.filter (fun b => part b = some q) = [] := by
          simpa using others_
        rw [List.filter_append, none_, List.nil_append, later]
      · have differs : ¬ part a = some q := by
          rw [is]
          exact fun eq => own (Option.some.inj eq).symm
        rw [List.filter_cons_of_neg (by simpa using differs), List.filter_append,
          List.filter_cons_of_neg (by simpa using differs), ← List.filter_append] at agree
        exact agree

end Independent

/-! ## Parts of a statement -/

/-- The part of a statement that a step fills in, by its clause. Queries appended with repeated
rows and without make up one part, and so do all assignments. -/
def Step.part? : Step → Option Clause
  | .body _ _ => some .body
  | .source _ => some .source
  | .join _ => some .join
  | .group _ => some .group
  | .having _ => some .having
  | .order _ => some .order
  | .limit _ => some .limit
  | .union _ => some .union
  | .filter _ => some .filter
  | .values _ | .set _ => some .values
  | _ => none

/-- The entry of what a step reads from. -/
def Step.originOf? (lex : Lexicon) : Step → Option TableEntry
  | .source origin => origin.entryOf? lex
  | _ => none

theorem Step.clause?_of_part? {step : Step} (h : step.part? = none) : step.clause? = none := by
  cases step with
  | select | insert | update | delete | with_ | name | logLimit => rfl
  | _ => cases h

section Filling

variable {a b : Step} (differ : a.part? ≠ b.part?)

include differ

-- Every part of a selection is a field of its own, so that steps of different parts write
-- different fields.
theorem Selection.filled_comm (lex : Lexicon) (s : Selection) :
    (s.filled lex a).filled lex b = (s.filled lex b).filled lex a := by
  cases a with
  | source =>
    cases b with
    | source => exact absurd rfl differ
    | _ => rfl
  | join =>
    cases b with
    | join => exact absurd rfl differ
    | _ => rfl
  | filter =>
    cases b with
    | filter => exact absurd rfl differ
    | _ => rfl
  | group =>
    cases b with
    | group => exact absurd rfl differ
    | _ => rfl
  | having =>
    cases b with
    | having => exact absurd rfl differ
    | _ => rfl
  | order =>
    cases b with
    | order => exact absurd rfl differ
    | _ => rfl
  | limit =>
    cases b with
    | limit => exact absurd rfl differ
    | _ => rfl
  | union =>
    cases b with
    | union => exact absurd rfl differ
    | _ => rfl
  | _ => cases b <;> rfl

/-- The assignments and the filters of a mutation are fields of their own. -/
theorem Mutation.filled_comm (m : Mutation) :
    (m.filled a).filled b = (m.filled b).filled a := by
  cases a with
  | filter =>
    cases b with
    | filter => exact absurd rfl differ
    | _ => rfl
  | values | set =>
    cases b with
    | values | set => exact absurd rfl differ
    | _ => rfl
  | _ => cases b <;> rfl

/-- A WITH keeps the bodies and the clauses of its SELECT apart. -/
theorem WithClause.filled_comm (lex : Lexicon) (w : WithClause) :
    (w.filled lex a).filled lex b = (w.filled lex b).filled lex a := by
  have selection := w.selection.filled_comm differ lex
  cases a with
  | body query next =>
    cases b with
    | body => exact absurd rfl differ
    | _ => rfl
  | _ =>
    cases b with
    | body => rfl
    | _ => exact congrArg (fun s => { w with selection := s }) selection

/-- Steps that fill in different parts of a statement may be made in either order. -/
theorem Statement.filled_comm (lex : Lexicon) (t : Statement) :
    (t.filled lex a).filled lex b = (t.filled lex b).filled lex a := by
  cases t with
  | empty => rfl
  | select s => exact congrArg Statement.select (s.filled_comm differ lex)
  | insert m => exact congrArg Statement.insert (m.filled_comm differ)
  | update m => exact congrArg Statement.update (m.filled_comm differ)
  | delete m => exact congrArg Statement.delete (m.filled_comm differ)
  | with_ w => exact congrArg Statement.with_ (w.filled_comm differ lex)

/-- Of two steps of different parts, one at most reads a source. -/
theorem Step.originOf?_eq_none (lex : Lexicon) :
    a.originOf? lex = none ∨ b.originOf? lex = none := by
  cases a with
  | source =>
    cases b with
    | source => exact absurd rfl differ
    | _ => exact .inr rfl
  | _ => exact .inl rfl

end Filling

/-- Steps of different parts fill a statement in either order. -/
theorem independent_filled (lex : Lexicon) :
    Independent Step.part? fun (t : Statement) step => t.filled lex step := by
  refine ⟨?_, ?_⟩
  · intro step none_ t
    exact t.filled_of_idle (Step.clause?_of_part? none_) lex
  · intro a b differ t
    exact t.filled_comm differ lex

/-- Steps of different parts leave the same origin in either order. -/
theorem independent_origin (lex : Lexicon) :
    Independent Step.part? fun (known : Option TableEntry) step =>
      known <|> step.originOf? lex := by
  refine ⟨?_, ?_⟩
  · intro step none_ known
    cases step with
    | source => cases none_
    | _ => simp [Step.originOf?]
  · intro a b differ known
    rcases Step.originOf?_eq_none differ lex with first | second
    · simp [first]
    · simp [second]

/-! ## Runs of setters -/

namespace Draft

variable {d d' : Draft} {step : Step} {steps : List Step}

theorem restartsIn_of_setters (d : Draft) (setters : ∀ s ∈ steps, s.isVerb = false) :
    d.restartsIn steps = false := by
  induction steps generalizing d with
  | nil => rfl
  | cons s rest ih =>
    rw [restartsIn, d.restartsAt_of_setter (setters s List.mem_cons_self), Bool.false_or]
    exact ih _ fun s' hs' => setters s' (List.mem_cons_of_mem s hs')

/-- Setters never clear a mistake, so where there is none behind them there was none before. -/
theorem fault_of_run (setters : ∀ s ∈ steps, s.isVerb = false)
    (sound : (d.run steps).1.fault = none) : d.fault = none := by
  cases recorded : d.fault with
  | none => rfl
  | some fault =>
    rw [fault_run_of_stays recorded (d.restartsIn_of_setters setters)] at sound
    cases sound

/-- A setter that leaves no mistake has filled in its clause. -/
theorem step_eq_filled (setter : step.isVerb = false) (sound : (d.step step).1.fault = none) :
    d.objection? step = none ∧ (d.step step).1 = d.filled step := by
  have admitted : d.objection? step = none := by
    rw [fault_step, d.restartsAt_of_setter setter] at sound
    cases recorded : d.fault with
    | none => simpa [recorded] using sound
    | some fault => simp [recorded] at sound
  refine ⟨admitted, ?_⟩
  rw [d.step_of_setter setter, settled, admitted]

/-- The first source that brings an entry in is the origin, and stays it. -/
theorem origin?_filled (admitted : d.objection? step = none) :
    (d.filled step).tables.origin? =
      (d.tables.origin? <|> step.originOf? d.dialect.toLexicon) := by
  have idle : ∀ known : Option TableEntry, known = (known <|> none) := by simp
  cases step with
  | source origin =>
    show (d.tables.with? (origin.entryOf? d.dialect.toLexicon)).origin? =
      (d.tables.origin? <|> origin.entryOf? d.dialect.toLexicon)
    cases new : origin.entryOf? d.dialect.toLexicon with
    | none => exact idle _
    | some e => exact Registry.origin?_with?_origin (Origin.role_of_entryOf? new)
  | join j =>
    refine Eq.trans ?_ (idle _)
    rw [filled, entryFor?]
    split
    · rfl
    · exact Registry.origin?_with?_join rfl
  | _ => exact idle _

/-- Setters without a mistake fill in the statement, and the first of what is read from becomes
the origin, whatever else was called between. -/
theorem run_of_setters (setters : ∀ s ∈ steps, s.isVerb = false)
    (sound : (d.run steps).1.fault = none) :
    (d.run steps).1.statement =
        steps.foldl (fun t s => t.filled d.dialect.toLexicon s) d.statement ∧
      (d.run steps).1.tables.origin? =
        steps.foldl (fun known s => known <|> s.originOf? d.dialect.toLexicon)
          d.tables.origin? := by
  induction steps generalizing d with
  | nil => exact ⟨rfl, rfl⟩
  | cons s rest ih =>
    have later : ∀ s' ∈ rest, s'.isVerb = false :=
      fun s' hs' => setters s' (List.mem_cons_of_mem s hs')
    have sound_ : ((d.step s).1.run rest).1.fault = none := sound
    -- A mistake of the first step would still be there at the end.
    obtain ⟨admitted, filled_⟩ :=
      step_eq_filled (setters s List.mem_cons_self) (fault_of_run later sound_)
    rw [filled_] at sound_
    obtain ⟨statement, origin⟩ := ih later sound_
    show ((d.step s).1.run rest).1.statement = _ ∧ ((d.step s).1.run rest).1.tables.origin? = _
    rw [filled_, statement, origin, origin?_filled admitted]
    exact ⟨rfl, rfl⟩

/-! ## Two orders of setters -/

/-- Drafts with one statement and the same origin have the same joined tables, and every table
is found in both or in none. -/
theorem scope_alike (h : d.IsTallied) (h' : d'.IsTallied) (dialect : d.dialect = d'.dialect)
    (statement : d.statement = d'.statement) (origin : d.tables.origin? = d'.tables.origin?)
    (lex : Lexicon) :
    (Scope.ofStatement lex d.tables).Alike (.ofStatement lex d'.tables) := by
  -- The order of the entries is lost, but which ones there are follows from the statement.
  have asked : d.joins = d'.joins := by
    rw [joins, joins, selection?, selection?, statement]
  have new : d.newJoins = d'.newJoins := by
    rw [newJoins, newJoins, dialect, origin, asked]
  have joined : d.tables.joins = d'.tables.joins := by rw [h.joins, h'.joins, new, dialect]
  exact Scope.alike_ofStatement lex origin joined (h.sound.find?_congr h'.sound origin joined)

/-- A draft without a mistake is rendered from its statement in its tables. -/
theorem renderedWithin_of_sound (sound : d.fault = none) (dialect : Dialect)
    (prior : List Value) :
    d.renderedWithin dialect prior =
      (d.statement.render (.ofStatement dialect.toLexicon d.tables)).map
        (Fragment.rendered dialect.placeholder prior) := by
  rw [renderedWithin, render_of_sound sound]

/-- From one draft, two orders of setters without a mistake lead to the same statement and the
same origin. -/
theorem run_of_reordered {xs ys : List Step} (setters : ∀ step ∈ xs ++ ys, step.isVerb = false)
    (same : ∀ part, xs.filter (fun step => step.part? = some part) =
      ys.filter (fun step => step.part? = some part))
    (sound : (d.run xs).1.fault = none) (sound' : (d.run ys).1.fault = none) :
    (d.run xs).1.statement = (d.run ys).1.statement ∧
      (d.run xs).1.tables.origin? = (d.run ys).1.tables.origin? := by
  obtain ⟨statement, origin⟩ :=
    run_of_setters (fun step hs => setters step (List.mem_append_left ys hs)) sound
  obtain ⟨statement', origin'⟩ :=
    run_of_setters (fun step hs => setters step (List.mem_append_right xs hs)) sound'
  constructor
  · rw [statement, statement']
    exact (independent_filled _).foldl_congr same d.statement
  · rw [origin, origin']
    exact (independent_origin _).foldl_congr same d.tables.origin?

/-- Two orders of the same setters are rendered alike, in the draft's own dialect and in any
other, if neither leaves a mistake and the setters of each part keep their order. What came
before them may be anything, and names and limits of the log may stand anywhere. -/
theorem rendered_of_reordered (dialect : Dialect) (front xs ys : List Step)
    (setters : ∀ step ∈ xs ++ ys, step.isVerb = false)
    (same : ∀ part, xs.filter (fun step => step.part? = some part) =
      ys.filter (fun step => step.part? = some part))
    (sound : ((ofDialect dialect).run (front ++ xs)).1.fault = none)
    (sound' : ((ofDialect dialect).run (front ++ ys)).1.fault = none) :
    let d := ((ofDialect dialect).run (front ++ xs)).1
    let d' := ((ofDialect dialect).run (front ++ ys)).1
    d.rendered = d'.rendered ∧
      ∀ other prior, d.renderedWithin other prior = d'.renderedWithin other prior := by
  intro d d'
  have own : d.dialect = d'.dialect := (dialect_run _ _).trans (dialect_run _ _).symm
  have agree : d.statement = d'.statement ∧ d.tables.origin? = d'.tables.origin? := by
    rw [run_append] at sound sound'
    show ((ofDialect dialect).run (front ++ xs)).1.statement =
        ((ofDialect dialect).run (front ++ ys)).1.statement ∧
      ((ofDialect dialect).run (front ++ xs)).1.tables.origin? =
        ((ofDialect dialect).run (front ++ ys)).1.tables.origin?
    rw [run_append, run_append]
    exact run_of_reordered setters same sound sound'
  -- The tables of the two may be registered in another order, but no scope sees more of them than
  -- the origin and the aliases.
  obtain ⟨statement, origin⟩ := agree
  have within : ∀ other prior, d.renderedWithin other prior = d'.renderedWithin other prior := by
    intro other prior
    have alike := scope_alike (isTallied_run dialect (front ++ xs))
      (isTallied_run dialect (front ++ ys)) own statement origin other.toLexicon
    rw [renderedWithin_of_sound sound, renderedWithin_of_sound sound']
    show (d.statement.render _).map _ = (d'.statement.render _).map _
    rw [statement, d'.statement.render_congr alike]
  refine ⟨?_, within⟩
  rw [rendered, rendered, own, within]

/-- A join before FROM and behind it leads to different registries and to one text, and the
assignments and filters of an UPDATE may come in either order. -/
theorem rendered_of_joinFirst :
    let reads : Step := .source (.table (.raw "a"))
    let joins : Step := .join ⟨.raw "b", .left, some (Condition.ofColumn "id").isNull⟩
    let filters : Step := .filter (Condition.ofColumn "id").isNull
    let sets : Step := .set [("x", .column "y")]
    let outcome := fun steps => ((ofDialect .generic).run steps).1
    (outcome [.select ["id"], reads, joins]).tables ≠
        (outcome [.select ["id"], joins, reads]).tables ∧
      (outcome [.select ["id"], reads, joins]).rendered =
        (outcome [.select ["id"], joins, reads]).rendered ∧
      (outcome [.update "t", filters, sets]).rendered =
        (outcome [.update "t", sets, filters]).rendered := by
  intro reads joins filters sets outcome
  refine ⟨by decide, ?_, ?_⟩
  · have setters : ∀ step ∈ [reads, joins] ++ [joins, reads], step.isVerb = false := by
      simp [reads, joins, Step.isVerb]
    refine (rendered_of_reordered .generic [.select ["id"]] _ _ setters ?_ rfl rfl).1
    intro part
    cases part <;> rfl
  · have setters : ∀ step ∈ [filters, sets] ++ [sets, filters], step.isVerb = false := by
      simp [filters, sets, Step.isVerb]
    refine (rendered_of_reordered .generic [.update "t"] _ _ setters ?_ rfl rfl).1
    intro part
    cases part <;> rfl

end Draft

end BoundSql
