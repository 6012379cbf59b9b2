import BoundSql.Proofs.Assembly
import BoundSql.Proofs.Chains
import BoundSql.Proofs.Mistakes

/-!
# Assignments

The assignments of an INSERT or an UPDATE are a map from columns to what they are set to, in order
of first assignment. Each further assignment to a column takes the place of the one before
(`Mutation.map_put`, `Mutation.mem_put_iff`), so that after any calls each column is there once,
where it was first assigned to, with what was last assigned to it (`Mutation.keepsLast_foldl`).

In the SQL each column faces what it is set to: a mark if that is a literal, and the bare name if it
is another column. The marks count the literals in front of them, so the values are the literals
that are left, in the order of their columns, and the filters are written behind them
(`Draft.assignments_written`).
-/

set_option autoImplicit false

namespace BoundSql

open Fragment (plain)

/-! ## The map of assignments -/

namespace Mutation

variable {made stored : List (Text × Assignment)} {column : Text} {a : Assignment}
  {x y : Text × Assignment}

theorem map_put (column : Text) (a : Assignment) (stored : List (Text × Assignment)) :
    (put column a stored).map Prod.fst =
      if column ∈ stored.map Prod.fst then stored.map Prod.fst
      else stored.map Prod.fst ++ [column] := by
  induction stored with
  | nil => rfl
  | cons first rest ih =>
    obtain ⟨other, old⟩ := first
    by_cases same : other = column
    · simp [put, same]
    · have different : ¬column = other := fun h => same h.symm
      simp only [put, if_neg same, List.map_cons, ih, List.mem_cons, different, false_or]
      split <;> rfl

/-- Of the columns that are there once each, one is assigned to and the others stay. -/
theorem mem_put_iff (distinct : (stored.map Prod.fst).Nodup) :
    x ∈ put column a stored ↔ x = (column, a) ∨ x.1 ≠ column ∧ x ∈ stored := by
  induction stored with
  | nil => simp [put]
  | cons first rest ih =>
    obtain ⟨other, old⟩ := first
    obtain ⟨new, distinct⟩ := List.nodup_cons.1 distinct
    by_cases same : other = column
    · subst same
      have later : x ∈ rest → x.1 ≠ other := by
        intro member same
        have known := List.mem_map_of_mem (f := Prod.fst) member
        rw [same] at known
        exact new known
      simp only [put, if_true, List.mem_cons]
      grind
    · simp only [put, if_neg same, List.mem_cons, ih distinct]
      grind

/-- Among some assignments, the last one to its column. -/
def IsLast (made : List (Text × Assignment)) (x : Text × Assignment) : Prop :=
  ∃ before after, made = before ++ x :: after ∧ x.1 ∉ after.map Prod.fst

theorem isLast_concat_iff :
    IsLast (made ++ [y]) x ↔ x = y ∨ x.1 ≠ y.1 ∧ IsLast made x := by
  constructor
  · rintro ⟨before, after, split, last⟩
    -- Either it is the new assignment itself, or the new one comes after it.
    rcases List.eq_nil_or_concat after with rfl | ⟨after, z, rfl⟩
    · obtain ⟨-, same⟩ := List.append_inj' split rfl
      cases same
      exact .inl rfl
    · rw [List.concat_eq_append] at split last
      rw [← List.cons_append, ← List.append_assoc] at split
      obtain ⟨front, same⟩ := List.append_inj' split rfl
      cases same
      rw [List.map_append, List.mem_append, not_or] at last
      exact .inr ⟨fun same => last.2 (by simp [same]), before, after, front, last.1⟩
  · rintro (rfl | ⟨different, before, after, rfl, last⟩)
    · exact ⟨made, [], rfl, List.not_mem_nil⟩
    · refine ⟨before, after ++ [y], by simp, ?_⟩
      rw [List.map_append, List.mem_append, not_or]
      exact ⟨last, by simpa using different⟩

/-- What is stored after some assignments: each column once, in order of first assignment, with
what was last assigned to it. -/
structure KeepsLast (made stored : List (Text × Assignment)) : Prop where
  distinct : (stored.map Prod.fst).Nodup
  order : stored.map Prod.fst = (made.map Prod.fst).eraseDups
  last : ∀ x, x ∈ stored ↔ IsLast made x

theorem KeepsLast.put (h : KeepsLast made stored) (column : Text) (a : Assignment) :
    KeepsLast (made ++ [(column, a)]) (Mutation.put column a stored) where
  distinct := by
    rw [map_put]
    split
    · exact h.distinct
    · rename_i new
      simpa using h.distinct.concat new
  order := by
    -- A column that was assigned to before is a duplicate here and in place there.
    have known : column ∈ stored.map Prod.fst ↔ column ∈ made.map Prod.fst := by
      rw [h.order, List.mem_eraseDups]
    rw [map_put, List.map_append, List.eraseDups_append, h.order.symm]
    simp only [known]
    by_cases old : column ∈ made.map Prod.fst
    · simp [old, List.removeAll]
    · simp [old, List.removeAll, List.eraseDups_cons]
  last := by
    intro x
    rw [mem_put_iff h.distinct, h.last x, isLast_concat_iff]

/-- Assignments made one after the other are kept, the last of each column. -/
theorem keepsLast_foldl (made : List (Text × Assignment)) :
    KeepsLast made (made.foldl (fun stored a => Mutation.put a.1 a.2 stored) []) := by
  induction made using List.reverseRecOn with
  | nil => exact ⟨List.nodup_nil, rfl, fun x => by simp [IsLast]⟩
  | append_singleton made x ih =>
    rw [List.foldl_append]
    exact ih.put x.1 x.2

end Mutation

/-! ## What is written for them -/

namespace Fragment

variable {α : Type} (f : α → Fragment)

theorem values_joined_map (separator : Text) : ∀ xs : List α,
    (joined separator (xs.map f)).values = xs.flatMap fun x => (f x).values
  | [] => rfl
  | [only] => by simp [joined]
  | first :: second :: rest => by
    have later := values_joined_map separator (second :: rest)
    rw [List.map_cons, List.map_cons, joined_cons_cons, values_append, values_append, values_plain,
      List.append_nil, ← List.map_cons, later, List.flatMap_cons (x := first)]

/-- The marks in a part are numbered behind the values of the parts before it. -/
theorem sql_joined_map (style : Placeholder) (separator : Text) : ∀ (prior : Nat) (xs : List α),
    (joined separator (xs.map f)).sql style prior =
      Text.joined separator (xs.mapIdx fun i x =>
        (f x).sql style (prior + ((xs.take i).flatMap fun y => (f y).values).length))
  | prior, [] => rfl
  | prior, [only] => by simp [joined, Text.joined]
  | prior, first :: second :: rest => by
    have later := sql_joined_map style separator (prior + (f first).values.length) (second :: rest)
    rw [List.map_cons, List.map_cons, joined_cons_cons, sql_append, sql_append, sql_plain,
      values_append, values_plain, List.append_nil, ← List.map_cons, later]
    simp only [Text.joined, List.mapIdx_cons, List.intercalate_cons_cons, List.take_zero,
      List.take_succ_cons, List.flatMap_nil, List.flatMap_cons, List.length_nil,
      List.length_append, Nat.add_zero, Nat.add_assoc, List.append_assoc]

end Fragment

/-- The literal that is assigned, if it is one. -/
def Assignment.literal? : Assignment → Option Value
  | .value v => some v
  | .column _ => none

/-- What is assigned, as it is written behind `before` bound values: the next mark, or the bare
name of another column. -/
def Assignment.written (style : Placeholder) (before : Nat) : Assignment → Text
  | .value _ => style.token (before + 1)
  | .column name => name

theorem Assignment.values_fragment (a : Assignment) : a.fragment.values = a.literal?.toList := by
  cases a with
  | value v => rfl
  | column name => exact Fragment.values_plain name

theorem Assignment.sql_fragment (style : Placeholder) (before : Nat) (a : Assignment) :
    a.fragment.sql style before = a.written style before := by
  cases a with
  | value v => simp [fragment, written, Fragment.sql]
  | column name => exact Fragment.sql_plain style before name

namespace Mutation

/-- The literals among what is stored, in the order of their columns. -/
def bound (stored : List (Text × Assignment)) : List Value :=
  stored.filterMap fun a => a.2.literal?

/-- What each column is set to, as it is written behind `prior` bound values. -/
def entries (style : Placeholder) (prior : Nat) (stored : List (Text × Assignment)) : List Text :=
  stored.mapIdx fun i a => a.2.written style (prior + (bound (stored.take i)).length)

/-- Each column with what it is set to, as it is written behind `prior` bound values. -/
def items (style : Placeholder) (prior : Nat) (stored : List (Text × Assignment)) : List Text :=
  stored.mapIdx fun i a =>
    a.1 ++ " = " ++ a.2.written style (prior + (bound (stored.take i)).length)

variable (stored : List (Text × Assignment))

theorem flatMap_values_fragment :
    (stored.flatMap fun a => a.2.fragment.values) = bound stored := by
  rw [bound, List.filterMap_eq_flatMap_toList]
  simp only [Assignment.values_fragment]

theorem flatMap_values_setting :
    (stored.flatMap fun a => (plain (a.1 ++ " = ") ++ a.2.fragment).values) = bound stored := by
  simp only [Fragment.values_append, Fragment.values_plain, List.nil_append,
    flatMap_values_fragment]

theorem sql_entries (style : Placeholder) (prior : Nat) :
    (Fragment.joined ", " (stored.map fun a => a.2.fragment)).sql style prior =
      Text.joined ", " (entries style prior stored) := by
  rw [Fragment.sql_joined_map]
  simp only [flatMap_values_fragment, Assignment.sql_fragment]
  rfl

theorem sql_settings (style : Placeholder) (prior : Nat) :
    (Fragment.joined ", " (stored.map fun a => plain (a.1 ++ " = ") ++ a.2.fragment)).sql style
      prior = Text.joined ", " (items style prior stored) := by
  rw [Fragment.sql_joined_map]
  simp only [flatMap_values_setting, Fragment.sql_append, Fragment.sql_plain,
    Fragment.values_plain, Assignment.sql_fragment, List.length_nil, Nat.add_zero]
  rfl

end Mutation

/-! ## Statements that assign -/

/-- The SQL of an INSERT, behind `prior` bound values. -/
def Mutation.insertText (lex : Lexicon) (style : Placeholder) (prior : Nat) (m : Mutation) : Text :=
  "INSERT INTO " ++ m.writtenTarget lex ++ " (" ++
    Text.joined ", " (m.assignments.map Prod.fst) ++ ") VALUES (" ++
    Text.joined ", " (entries style prior m.assignments) ++ ")"

/-- The SQL of an UPDATE up to its filters, behind `prior` bound values. -/
def Mutation.updateText (lex : Lexicon) (style : Placeholder) (prior : Nat) (m : Mutation) : Text :=
  "UPDATE " ++ m.writtenTarget lex ++ " SET " ++ Text.joined ", " (items style prior m.assignments)

/-- A verb whose statement has a place for assignments. -/
inductive AssigningVerb where
  | insert
  | update

namespace AssigningVerb

/-- The step that begins the statement. -/
def step (target : Text) : AssigningVerb → Step
  | .insert => .insert target
  | .update => .update target

def kind : AssigningVerb → StatementKind
  | .insert => .insert
  | .update => .update

def statement (m : Mutation) : AssigningVerb → Statement
  | .insert => .insert m
  | .update => .update m

/-- What is reported where nothing has been assigned. -/
def nothingAssigned (target : Text) : AssigningVerb → Fault
  | .insert => .statementState (.insertWithoutValues target)
  | .update => .statementState (.updateWithoutValues target)

/-- The SQL of the statement up to its filters, behind `prior` bound values. -/
def written (lex : Lexicon) (style : Placeholder) (prior : Nat) (m : Mutation) :
    AssigningVerb → Text
  | .insert => m.insertText lex style prior
  | .update => m.updateText lex style prior

end AssigningVerb

/-- Whether a step fills in a clause for which statements of a kind have a place, or none. -/
def Step.suits (kind : StatementKind) (step : Step) : Bool :=
  !step.isVerb && step.clause?.all fun clause => decide (kind ∈ clause.kinds)

/-- The assignments that a step makes. -/
def Step.assignments : Step → List (Text × Assignment)
  | .values assignments | .set assignments => assignments
  | _ => []

/-- The filters that a step adds. -/
def Step.filters : Step → List Condition
  | .filter w => [w]
  | _ => []

theorem Mutation.filled_eq (m : Mutation) (step : Step) :
    m.filled step =
      { m.assigned step.assignments with filters := m.filters ++ step.filters } := by
  rcases m with ⟨target, assignments, filters⟩
  cases step <;> simp [filled, assigned, Step.assignments, Step.filters]

/-- Filling in the clauses of some steps makes all their assignments and adds all their filters. -/
theorem Mutation.foldl_filled (m : Mutation) (steps : List Step) :
    steps.foldl Mutation.filled m =
      { m.assigned (steps.flatMap Step.assignments) with
        filters := m.filters ++ steps.flatMap Step.filters } := by
  induction steps generalizing m with
  | nil =>
    rcases m with ⟨target, assignments, filters⟩
    simp [assigned]
  | cons step rest ih =>
    rw [List.foldl_cons, ih, filled_eq]
    simp [assigned, List.foldl_append]

namespace Mutation

/-- An INSERT, as it is written out. -/
theorem insertion_rendered (lex : Lexicon) (style : Placeholder) (prior : List Value)
    (m : Mutation) : (m.insertion lex).rendered style prior =
      ⟨m.insertText lex style prior.length, prior ++ bound m.assignments⟩ := by
  have values : (Fragment.joined ", " (m.assignments.map fun a => a.2.fragment)).values =
      bound m.assignments := by
    rw [Fragment.values_joined_map, flatMap_values_fragment]
  have opening : (" (" : Text) = " " ++ "(" := by decide
  have between : (") VALUES (" : Text) = ")" ++ (" VALUES " ++ "(") := by decide
  unfold Fragment.rendered insertion insertText
  rw [opening, between]
  simp only [Fragment.parenthesized, Fragment.sql_append, Fragment.values_append,
    Fragment.sql_plain, Fragment.values_plain, sql_entries, values, List.length_nil,
    Nat.add_zero, List.nil_append, List.append_nil, List.append_assoc]

/-- An UPDATE with what comes behind its assignments, as it is written out. -/
theorem settings_rendered (lex : Lexicon) (style : Placeholder) (prior : List Value)
    (m : Mutation) (clause : List Fragment) :
    let later := Fragment.rendered style (prior ++ bound m.assignments)
      (clause.flatMap (plain " " ++ ·))
    (Fragment.joined " " ([plain "UPDATE", plain (m.writtenTarget lex), plain "SET", m.settings] ++
        clause)).rendered style prior =
      ⟨m.updateText lex style prior.length ++ later.sql, later.params⟩ := by
  have values : m.settings.values = bound m.assignments := by
    rw [settings, Fragment.values_joined_map, flatMap_values_setting]
  have sql : m.settings.sql style prior.length =
      Text.joined ", " (items style prior.length m.assignments) :=
    sql_settings _ _ _
  have verb : ("UPDATE " : Text) = "UPDATE" ++ " " := by decide
  have set : (" SET " : Text) = " " ++ ("SET" ++ " ") := by decide
  -- The parts before the filters hold the values of the assignments and no others, so the marks of
  -- the filters are numbered on from these.
  unfold updateText
  rw [Fragment.joined_append _ (List.cons_ne_nil _ _), verb, set]
  simp only [Fragment.rendered, Fragment.joined_cons, List.flatMap_cons, List.flatMap_nil,
    Fragment.sql_append, Fragment.values_append, Fragment.sql_plain, Fragment.values_plain, values,
    sql, List.length_append, List.length_nil, Nat.add_zero, List.nil_append, List.append_nil,
    List.append_assoc]

end Mutation

namespace Draft

variable {verb : AssigningVerb} {m : Mutation} {d : Draft} {step : Step}

/-- A sound draft of a statement that assigns. -/
structure IsAssigning (verb : AssigningVerb) (m : Mutation) (d : Draft) : Prop where
  statement : d.statement = verb.statement m
  tables : d.tables = .empty
  fault : d.fault = none

/-- A step for which the statement has the place fills in its clause. -/
theorem IsAssigning.after_step (h : d.IsAssigning verb m) (suits : step.suits verb.kind = true) :
    (d.step step).1.IsAssigning verb (m.filled step) := by
  have setter : step.isVerb = false := by
    simpa using (Bool.and_eq_true_iff.1 suits).1
  have kind : d.kind? = some verb.kind := by
    rw [kind?, h.statement]
    cases verb <;> rfl
  have place : ∀ clause, step.clause? = some clause → d.hasPlaceFor clause = true := by
    intro clause asks
    have fits := (Bool.and_eq_true_iff.1 suits).2
    rw [asks] at fits
    rw [hasPlaceFor, kind]
    exact fits
  -- Neither FROM nor JOIN has a place here, so that nothing is registered.
  have registers : d.entryFor? step = none ∧ step.readsNoSelect = false := by
    cases step with
    | source | join => cases verb <;> cases suits
    | _ => exact ⟨rfl, rfl⟩
  have admitted : d.objection? step = none := by
    rw [objection?, registers.1, registers.2]
    cases asks : step.clause? with
    | none => rfl
    | some clause => simp [place clause asks]
  rw [step_of_setter d setter, settled, admitted]
  refine ⟨?_, ?_, h.fault⟩
  · show d.statement.filled _ step = _
    rw [h.statement]
    cases verb <;> rfl
  · show d.tables.with? (d.entryFor? step) = .empty
    rw [registers.1]
    exact h.tables

theorem IsAssigning.after_run (h : d.IsAssigning verb m) {steps : List Step}
    (suit : ∀ step ∈ steps, step.suits verb.kind = true) :
    (d.run steps).1.IsAssigning verb (steps.foldl Mutation.filled m) := by
  induction steps generalizing d m with
  | nil => exact h
  | cons step rest ih =>
    have first := h.after_step (suit step List.mem_cons_self)
    exact ih first fun later member => suit later (List.mem_cons_of_mem _ member)

/-- A verb begins a statement that assigns nothing yet. -/
theorem isAssigning_verb (d : Draft) (verb : AssigningVerb) (target : Text) :
    (d.step (verb.step target)).1.IsAssigning verb (.ofTarget target) := by
  cases verb <;> exact ⟨rfl, rfl, rfl⟩

/-- A draft that assigns is rendered from its assignments and filters alone: the mistake of its verb
where nothing is assigned, and else the text of the verb with the filters behind it. -/
theorem IsAssigning.renderedWithin (h : d.IsAssigning verb m)
    (unfiltered : verb = .insert → m.filters = []) (other : Dialect) (prior : List Value) :
    d.renderedWithin other prior =
      if m.assignments.isEmpty then .error (verb.nothingAssigned m.target)
      else (m.renderWhere (.ofStatement other.toLexicon .empty)).map fun clause =>
        let later := Fragment.rendered other.placeholder (prior ++ Mutation.bound m.assignments)
          (clause.flatMap (plain " " ++ ·))
        ⟨verb.written other.toLexicon other.placeholder prior.length m ++ later.sql,
          later.params⟩ := by
  rw [Draft.renderedWithin, render_of_sound h.fault, h.statement, h.tables]
  rcases m with ⟨target, assignments, filters⟩
  cases verb with
  | insert =>
    -- An INSERT has no filters, and so nothing comes behind its text.
    obtain rfl : filters = [] := unfiltered rfl
    simp only [AssigningVerb.statement, Statement.render]
    split
    · rfl
    · show Except.ok _ = Except.ok _
      rw [Mutation.insertion_rendered]
      simp only [Fragment.rendered, clauseOf, List.isEmpty_nil, if_true, List.flatMap_nil,
        Fragment.sql, Fragment.values, List.append_nil]
      rfl
  | update =>
    simp only [AssigningVerb.statement, Statement.render]
    split
    · rfl
    · cases Mutation.renderWhere (.ofStatement other.toLexicon .empty)
          ⟨target, assignments, filters⟩ with
      | error fault => rfl
      | ok clause => exact congrArg Except.ok (Mutation.settings_rendered _ _ _ _ clause)

/-- After any assignments to an INSERT or an UPDATE, in whatever steps they are made and whatever
filters are added between them, each column is stored once, in order of first assignment, with what
was last assigned to it. If there is one, the statement is written with the columns in that order,
each facing what it is set to: the mark of a literal, numbered behind the literals before it, or
the bare name of another column. Bound are those literals in order, and behind them the values of
the filters. -/
theorem assignments_written (dialect : Dialect) (front steps : List Step) (verb : AssigningVerb)
    (target : Text) (suit : ∀ step ∈ steps, step.suits verb.kind = true) :
    let d := ((ofDialect dialect).run (front ++ verb.step target :: steps)).1
    ∃ stored, Mutation.KeepsLast (steps.flatMap Step.assignments) stored ∧
      let m : Mutation := ⟨target, stored, steps.flatMap Step.filters⟩
      d.statement = verb.statement m ∧
      ∀ other prior, d.renderedWithin other prior =
        if stored.isEmpty then .error (verb.nothingAssigned target)
        else (m.renderWhere (.ofStatement other.toLexicon .empty)).map fun clause =>
          let later := Fragment.rendered other.placeholder (prior ++ Mutation.bound stored)
            (clause.flatMap (plain " " ++ ·))
          ⟨verb.written other.toLexicon other.placeholder prior.length m ++ later.sql,
            later.params⟩ := by
  intro d
  have run : d.IsAssigning verb (steps.foldl Mutation.filled (.ofTarget target)) := by
    show ((ofDialect dialect).run (front ++ verb.step target :: steps)).1.IsAssigning verb _
    rw [run_append]
    exact (isAssigning_verb _ verb target).after_run suit
  rw [Mutation.foldl_filled] at run
  have unfiltered : verb = .insert → steps.flatMap Step.filters = [] := by
    rintro rfl
    refine List.flatMap_eq_nil_iff.2 fun step member => ?_
    have suits := suit step member
    -- An INSERT has no place for a filter.
    cases step with
    | filter w => cases suits
    | _ => rfl
  exact ⟨_, Mutation.keepsLast_foldl _, run.statement, run.renderedWithin unfiltered⟩

/-- A literal makes room for another column and a column for a literal, with a filter added between
them. -/
theorem assignments_written_of_user :
    let numbered := { Dialect.generic with placeholder := .numbered }
    let steps : List Step :=
      [.values [("name", .value (.text "ann")), ("id", .column "old_id")],
        .filter ((Condition.ofColumn "age").greater (.value (.int 18))),
        .set [("name", .column "nick"), ("age", .value (.int 30))],
        .values [("id", .value (.int 5))]]
    let d := ((ofDialect numbered).run ([.delete "users"] ++ .update "users" :: steps)).1
    (∀ step ∈ steps, step.suits .update = true) ∧
      (∃ stored filters, d.statement = .update ⟨"users", stored, filters⟩ ∧
        stored.map Prod.fst = ["name".toList, "id".toList, "age".toList] ∧
        ("name".toList, .column "nick") ∈ stored) ∧
      d.rendered.toOption.map Rendered.sql =
        some "UPDATE users SET name = nick, id = $1, age = $2 WHERE age > $3".toList := by
  intro numbered steps d
  have suit : ∀ step ∈ steps, step.suits .update = true := by
    intro step member
    simp only [steps, List.mem_cons, List.not_mem_nil, or_false] at member
    rcases member with rfl | rfl | rfl | rfl <;> rfl
  obtain ⟨stored, keeps, statement, -⟩ := assignments_written numbered [.delete "users"] steps
    .update "users" suit
  refine ⟨suit, ⟨stored, _, statement, keeps.order.trans ?_, (keeps.last _).2 ?_⟩, ?_⟩
  · decide +kernel
  · exact ⟨[("name", .value (.text "ann")), ("id", .column "old_id")],
      [("age", .value (.int 30)), ("id", .value (.int 5))], rfl, by decide +kernel⟩
  · decide +kernel

end Draft

end BoundSql
