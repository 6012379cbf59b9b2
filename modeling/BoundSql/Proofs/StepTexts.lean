import BoundSql.Proofs.GivenTexts
import BoundSql.Proofs.Restarts

/-!
# The texts of a draft come from its steps

What a step brings into a draft is given with the step (`Step.ingredients`), and nothing else comes
in: a table text is taken apart, but its parts are parts of what was given. So whatever is known of
all the texts that were given holds for the texts of the draft (`Draft.covers_run`).
-/

set_option autoImplicit false

namespace BoundSql

/-- The ingredients that are given with a step. -/
def Step.ingredients : Step → List Ingredient
  | .select columns | .group columns | .order columns => columns.map (.text .sql)
  | .insert target | .update target | .delete target => [.text .name target]
  | .with_ first _ => [.text .name first]
  | .body q next => q.ingredients ++ next.toList.map (.text .name)
  | .name aliasName => [.text .name aliasName]
  | .source (.table ref) => ref.ingredients
  | .source (.derived d) => .draft d :: d.ingredients ++ d.aliasName.toList.map (.text .name)
  | .join j => j.ingredients
  | .having w | .filter w => w.ingredients
  | .union arm => arm.query.ingredients
  | .values assignments | .set assignments => assignmentIngredients assignments
  | .limit _ | .logLimit _ => []

/-! ## One more part -/

/-- A last join adds its ingredients at the end. -/
theorem joinIngredients_concat (js : List Join) (j : Join) :
    joinIngredients (js ++ [j]) = joinIngredients js ++ j.ingredients := by
  induction js with
  | nil => exact List.append_nil j.ingredients
  | cons first rest ih =>
    rw [List.cons_append, joinIngredients, joinIngredients, ih, List.append_assoc]

/-- So does a last filter. -/
theorem filterIngredients_concat (ws : List Condition) (w : Condition) :
    filterIngredients (ws ++ [w]) = filterIngredients ws ++ w.ingredients := by
  induction ws with
  | nil => exact List.append_nil w.ingredients
  | cons first rest ih =>
    rw [List.cons_append, filterIngredients, filterIngredients, ih, List.append_assoc]

/-- So does a last query that is appended. -/
theorem unionIngredients_concat (arms : List UnionArm) (arm : UnionArm) :
    unionIngredients (arms ++ [arm]) = unionIngredients arms ++ arm.query.ingredients := by
  induction arms with
  | nil =>
    rcases arm with ⟨query, keepsAll⟩
    exact List.append_nil query.ingredients
  | cons first rest ih =>
    rcases first with ⟨query, keepsAll⟩
    rw [List.cons_append, unionIngredients, unionIngredients, ih, List.append_assoc]

/-- So does a last body of a WITH. -/
theorem bodyIngredients_concat (qs : List Query) (q : Query) :
    bodyIngredients (qs ++ [q]) = bodyIngredients qs ++ q.ingredients := by
  induction qs with
  | nil => exact List.append_nil q.ingredients
  | cons first rest ih =>
    rw [List.cons_append, bodyIngredients, bodyIngredients, ih, List.append_assoc]

/-- No step changes the target of a mutation once it is begun. -/
theorem Mutation.target_filled (m : Mutation) (step : Step) :
    (m.filled step).target = m.target := by
  cases step <;> rfl

namespace TextRule

variable {lex : Lexicon} {rule : TextRule lex}

/-- A put assignment is covered where it and the others are. -/
theorem covers_put {column : Text} {a : Assignment} {made : List (Text × Assignment)}
    (h : rule.Covers (assignmentIngredients made)) (name : rule.Holds .name column)
    (new : rule.Covers a.ingredients) :
    rule.Covers (assignmentIngredients (Mutation.put column a made)) := by
  induction made with
  | nil => simpa [Mutation.put, assignmentIngredients] using ⟨name, new⟩
  | cons first rest ih =>
    rcases first with ⟨other, old⟩
    simp only [assignmentIngredients, List.flatMap_cons, List.cons_append, covers_text,
      covers_append] at h ih ⊢
    obtain ⟨other_, old_, rest_⟩ := h
    rw [Mutation.put]
    -- An assignment to the same column takes the place of the old one, under the old name.
    split
    · simp only [List.flatMap_cons, List.cons_append, covers_text, covers_append]
      exact ⟨other_, new, rest_⟩
    · simp only [List.flatMap_cons, List.cons_append, covers_text, covers_append]
      exact ⟨other_, old_, ih rest_⟩

/-- Making assignments one after the other brings in the texts of those assignments only. -/
theorem covers_assigned {assignments made : List (Text × Assignment)}
    (h : rule.Covers (assignmentIngredients made))
    (given : rule.Covers (assignmentIngredients assignments)) :
    rule.Covers (assignmentIngredients
      (assignments.foldl (fun made a => Mutation.put a.1 a.2 made) made)) := by
  induction assignments generalizing made with
  | nil => exact h
  | cons first rest ih =>
    simp only [assignmentIngredients, List.flatMap_cons, List.cons_append, covers_text,
      covers_append] at given
    exact ih (covers_put h given.1 given.2.1) given.2.2

/-- The assignments of a mutation stay covered, whatever step fills it. -/
theorem covers_assignments {m : Mutation} {step : Step}
    (h : rule.Covers (assignmentIngredients m.assignments))
    (given : rule.Covers step.ingredients) :
    rule.Covers (assignmentIngredients (m.filled step).assignments) := by
  cases step with
  | values new | set new => exact covers_assigned h given
  | _ => exact h

/-- So do its filters. -/
theorem covers_where {m : Mutation} {step : Step} (h : rule.Covers m.whereIngredients)
    (given : rule.Covers step.ingredients) : rule.Covers (m.filled step).whereIngredients := by
  rcases m with ⟨target, made, ws⟩
  cases step with
  | filter w =>
    simp only [Mutation.filled, Mutation.whereIngredients, filterIngredients_concat, covers_append]
    exact ⟨h, given⟩
  | _ => exact h

/-- Every text in each of the clauses of a selection obeys the rule. -/
structure CoversSelection (rule : TextRule lex) (s : Selection) : Prop where
  columns : rule.Covers (s.columns.map (.text .sql))
  source : rule.Covers (sourceIngredients s.source)
  joins : rule.Covers (joinIngredients s.joins)
  filters : rule.Covers (filterIngredients s.filters)
  group : rule.Covers (s.group.map (.text .sql))
  having : rule.Covers (conditionIngredients s.having)
  unions : rule.Covers (unionIngredients s.unions)
  order : rule.Covers (s.order.map (.text .sql))

/-- A selection is covered clause by clause or as a whole. -/
theorem coversSelection_iff {s : Selection} :
    rule.CoversSelection s ↔ rule.Covers s.ingredients := by
  rcases s with ⟨columns, source, joins, filters, group, having, order, limit, unions⟩
  simp only [Selection.ingredients, covers_append]
  constructor
  · rintro ⟨columns_, source_, joins_, filters_, group_, having_, unions_, order_⟩
    exact ⟨⟨⟨⟨⟨⟨⟨columns_, source_⟩, joins_⟩, filters_⟩, group_⟩, having_⟩, unions_⟩, order_⟩
  · rintro ⟨⟨⟨⟨⟨⟨⟨columns_, source_⟩, joins_⟩, filters_⟩, group_⟩, having_⟩, unions_⟩, order_⟩
    exact ⟨columns_, source_, joins_, filters_, group_, having_, unions_, order_⟩

/-- The parts of a table text that obeys the rule obey it in another lexicon as well. -/
def Splits (rule : TextRule lex) (own : Lexicon) : Prop :=
  ∀ t, rule.Holds .reference t → rule.Holds .name (own.splitTable t).1 ∧
    ∀ a, (own.splitTable t).2 = some a → rule.Holds .name a

section Filling

variable {own : Lexicon} (splits : rule.Splits own)
include splits

/-- Both parts of a table text are covered, since a rule that splits has them under it. -/
theorem holds_split {ref : TableRef} (h : rule.Covers ref.ingredients) :
    rule.Holds .name (ref.split own).1 ∧
      ∀ a, (ref.split own).2 = some a → rule.Holds .name a := by
  cases ref with
  | raw text => exact splits text (h .reference text List.mem_cons_self)
  | aliased table aliasName =>
    simp only [TableRef.ingredients, covers_text] at h
    refine ⟨h.1, fun a ha => ?_⟩
    cases ha
    exact h.2.1

/-- So is the alias under which the table is registered. -/
theorem holds_entry {ref : TableRef} (h : rule.Covers ref.ingredients) :
    rule.Holds .name ((ref.split own).2.getD (ref.split own).1) := by
  obtain ⟨table, aliasName⟩ := holds_split splits h
  cases given : (ref.split own).2 with
  | none => exact table
  | some a => exact aliasName a given

/-- What is read from is covered by what the step gives. -/
theorem covers_source {origin : Origin} (h : rule.Covers (Step.source origin).ingredients) :
    rule.Covers (sourceIngredients (some (origin.source own))) := by
  cases origin with
  | derived d => exact h
  | table ref =>
    obtain ⟨table, aliasName⟩ := holds_split splits h
    simp only [Origin.source, sourceIngredients, covers_text, covers_map_text]
    exact ⟨table, fun t ht => aliasName t (Option.mem_toList.1 ht)⟩

/-- A step puts its own texts into one clause and keeps the others. -/
theorem CoversSelection.filled {s : Selection} {step : Step} (h : rule.CoversSelection s)
    (given : rule.Covers step.ingredients) : rule.CoversSelection (s.filled own step) := by
  -- One clause for each kind of step, and all other clauses as they were.
  cases step with
  | source origin => exact { h with source := covers_source splits given }
  | join j =>
    refine { h with joins := ?_ }
    rw [Selection.filled, joinIngredients_concat]
    exact covers_append.2 ⟨h.joins, given⟩
  | filter w =>
    refine { h with filters := ?_ }
    rw [Selection.filled, filterIngredients_concat]
    exact covers_append.2 ⟨h.filters, given⟩
  | group columns => exact { h with group := given }
  | having w => exact { h with having := given }
  | order columns => exact { h with order := given }
  | union arm =>
    refine { h with unions := ?_ }
    rw [Selection.filled, unionIngredients_concat]
    exact covers_append.2 ⟨h.unions, given⟩
  | _ => exact { h with }

/-- A step fills the lists of a WITH or its inner selection. -/
theorem covers_with {w : WithClause} {step : Step} (h : rule.Covers w.ingredients)
    (given : rule.Covers step.ingredients) : rule.Covers (w.filled own step).ingredients := by
  rcases w with ⟨names, bodies, recursive, hasSelect, selection⟩
  simp only [WithClause.ingredients, covers_append] at h
  obtain ⟨⟨names_, bodies_⟩, selection_⟩ := h
  have filled := (coversSelection_iff.2 selection_).filled splits given
  cases step with
  | body q next =>
    simp only [Step.ingredients, covers_append] at given
    simp only [WithClause.filled, WithClause.ingredients, covers_append, List.map_append,
      bodyIngredients_concat]
    exact ⟨⟨⟨names_, given.2⟩, bodies_, given.1⟩, selection_⟩
  | _ =>
    simp only [WithClause.filled, WithClause.ingredients, covers_append]
    exact ⟨⟨names_, bodies_⟩, coversSelection_iff.1 filled⟩

/-- A statement of any kind stays covered by a step that is covered. -/
theorem covers_statement {t : Statement} {step : Step} (h : rule.Covers t.ingredients)
    (given : rule.Covers step.ingredients) : rule.Covers (t.filled own step).ingredients := by
  cases t with
  | empty => exact h
  | select s => exact coversSelection_iff.1 ((coversSelection_iff.2 h).filled splits given)
  | with_ w => exact covers_with splits h given
  | insert m =>
    simp only [Statement.filled, Statement.ingredients, covers_text, m.target_filled] at h ⊢
    exact ⟨h.1, covers_assignments h.2 given⟩
  | update m =>
    simp only [Statement.filled, Statement.ingredients, covers_append, covers_text,
      m.target_filled, List.cons_append] at h ⊢
    exact ⟨h.1, covers_assignments h.2.1 given, covers_where h.2.2 given⟩
  | delete m =>
    simp only [Statement.filled, Statement.ingredients, covers_text, m.target_filled] at h ⊢
    exact ⟨h.1, covers_where h.2 given⟩

end Filling

end TextRule

/-! ## Runs -/

namespace Draft

variable {lex : Lexicon} {rule : TextRule lex} {d : Draft} {step : Step}

/-- Every text that a draft may bring into a statement obeys the rule: its ingredients, and its
name where it is read from. -/
structure CoveredBy (rule : TextRule lex) (d : Draft) : Prop where
  tables : rule.Covers d.tables.ingredients
  statement : rule.Covers d.statement.ingredients
  aliasName : ∀ a, d.aliasName = some a → rule.Holds .name a

/-- The ingredients of a covered draft are those of its tables and of its statement. -/
theorem CoveredBy.ingredients (h : d.CoveredBy rule) : rule.Covers d.ingredients := by
  rcases d with ⟨dialect, tables, t, aliasName, fault, limit⟩
  exact TextRule.covers_append.2 ⟨h.tables, h.statement⟩

/-- An empty draft has no texts yet. -/
theorem coveredBy_ofDialect (dialect : Dialect) : (ofDialect dialect).CoveredBy rule :=
  ⟨nofun, nofun, nofun⟩

/-- A statement that is only begun has what its verb was given. -/
theorem ingredients_begun (verb : step.isVerb = true) :
    step.begun.ingredients = step.ingredients := by
  cases step with
  | select columns | with_ first recursive =>
    simp [Step.begun, Step.ingredients, Statement.ingredients, WithClause.ofName,
      WithClause.ingredients, bodyIngredients, Selection.ofColumns, Selection.ingredients,
      sourceIngredients, joinIngredients, filterIngredients, conditionIngredients,
      unionIngredients]
  | insert | update | delete => rfl
  | _ => cases verb

/-- The entry that a step registers has its alias from a text of that step. -/
theorem holds_entryFor? {e : TableEntry} (splits : rule.Splits d.dialect.toLexicon)
    (given : rule.Covers step.ingredients) (new : d.entryFor? step = some e) :
    rule.Holds .name e.aliasName := by
  cases step with
  | source origin =>
    cases origin with
    | table ref =>
      cases new
      exact TextRule.holds_entry splits given
    | derived inner =>
      obtain ⟨aliasName, named, rfl⟩ := Option.map_eq_some_iff.1 new
      simp only [Step.ingredients, TextRule.covers_append] at given
      rw [named] at given
      exact given.2 .name aliasName List.mem_cons_self
  | join j =>
    rw [entryFor?] at new
    split at new
    · cases new
    · cases new
      rcases j with ⟨ref, kind, qualifier⟩
      have given : rule.Covers (ref.ingredients ++ conditionIngredients qualifier) := given
      exact TextRule.holds_entry splits (TextRule.covers_append.1 given).1
  | _ => cases new

/-- A step that fills a clause keeps the draft covered, with the entry that it registers. -/
theorem CoveredBy.filled (h : d.CoveredBy rule) (splits : rule.Splits d.dialect.toLexicon)
    (given : rule.Covers step.ingredients) : (d.filled step).CoveredBy rule := by
  refine ⟨?_, TextRule.covers_statement splits h.statement given, ?_⟩
  · show rule.Covers (d.tables.with? (d.entryFor? step)).ingredients
    cases new : d.entryFor? step with
    | none => exact h.tables
    | some e =>
      rw [Registry.with?, Registry.ingredients, List.map_append, TextRule.covers_append]
      exact ⟨h.tables, TextRule.covers_text.2 ⟨holds_entryFor? splits given new, nofun⟩⟩
  · intro a named
    cases step with
    | name aliasName =>
      cases named
      exact given .name a List.mem_cons_self
    | _ => exact h.aliasName a named

/-- Every step keeps the draft covered: it begins a statement, fills a clause, or changes nothing
but the fault. -/
theorem CoveredBy.after_step (h : d.CoveredBy rule) (splits : rule.Splits d.dialect.toLexicon)
    (given : rule.Covers step.ingredients) : (d.step step).1.CoveredBy rule := by
  have outcome := d.outcome_step step
  generalize (d.step step).1 = after at outcome ⊢
  cases outcome with
  | begins restarts =>
    refine ⟨nofun, ?_, nofun⟩
    show rule.Covers step.begun.ingredients
    rw [ingredients_begun (Bool.and_eq_true_iff.1 restarts).1]
    exact given
  -- The SELECT that a WITH waits for fills in the columns of a selection that is covered already.
  | @awaited columns w is statement waits =>
    subst is
    refine { h with statement := ?_ }
    have before := h.statement
    rw [statement] at before
    rcases w with ⟨names, bodies, recursive, hasSelect, selection⟩
    simp only [Statement.ingredients, WithClause.ingredients, TextRule.covers_append] at before ⊢
    obtain ⟨expressions, inner⟩ := before
    have inner := TextRule.coversSelection_iff.2 inner
    exact ⟨expressions, TextRule.coversSelection_iff.1 { inner with columns := given }⟩
  | refused _ => exact { h with }
  | filled _ _ => exact h.filled splits given

/-- If every text that is given with a step obeys the rule, so does every text of the draft. -/
theorem covers_run (h : d.CoveredBy rule) (splits : rule.Splits d.dialect.toLexicon)
    {steps : List Step} (given : ∀ step ∈ steps, rule.Covers step.ingredients) :
    (d.run steps).1.CoveredBy rule := by
  induction steps generalizing d with
  | nil => exact h
  | cons step rest ih =>
    have later : rule.Splits (d.step step).1.dialect.toLexicon := by
      rw [dialect_step]
      exact splits
    exact ih (h.after_step splits (given step List.mem_cons_self)) later
      fun s hs => given s (List.mem_cons_of_mem step hs)

end Draft

end BoundSql
