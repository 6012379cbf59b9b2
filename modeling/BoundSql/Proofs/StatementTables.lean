import BoundSql.Proofs.DeclaredNames

/-!
# The tables of a statement

The registry of a draft always fits its statement (`Draft.tables_fit`). A statement without a
selection has no tables, so that nothing is put before the columns of its filters. The tables of a
selection all come from FROM or JOIN of that very statement, and every joined table is among them.
A join that brought its table in is written with the alias of its entry, and the columns of its
own condition stand behind that alias.

Everything follows from what a step can do (`Draft.Outcome`): a verb leaves no tables, and a setter
that fits adds at most the entry that it would register.
-/

set_option autoImplicit false

namespace BoundSql

open Fragment (plain)

/-- FROM brings the entry of what is read from, and JOIN that of the joined table. -/
inductive Step.Brings (lex : Lexicon) (e : TableEntry) : Step → Prop where
  | source {origin : Origin} (is : origin.entryOf? lex = some e) :
    Step.Brings lex e (.source origin)
  | join {j : Join} (is : j.entry lex = e) : Step.Brings lex e (.join j)

namespace Draft

variable {d : Draft} {step : Step} {e : TableEntry}

/-! ## Where tables come from -/

/-- Only a statement with a selection registers anything. -/
theorem exists_selection_of_entryFor? (admitted : d.objection? step = none)
    (new : d.entryFor? step = some e) : ∃ s, d.selection? = some s := by
  rcases d with ⟨dialect, tables, t, aliasName, fault, limit⟩
  cases t with
  | select s => exact ⟨s, rfl⟩
  | with_ w => exact ⟨w.selection, rfl⟩
  | empty | insert | update | delete =>
    -- What could register has no place here.
    cases step with
    | source | join => cases admitted
    | _ => cases new

/-- The statement is a SELECT or a WITH, or there are no tables. -/
def FitsKind (d : Draft) : Prop := d.selection? = none → d.tables = .empty

/-- Every step keeps tables and statement in accord: only FROM and JOIN register, and only in a
selection. -/
theorem FitsKind.after_step (h : d.FitsKind) (step : Step) : (d.step step).1.FitsKind := by
  have outcome := d.outcome_step step
  generalize (d.step step).1 = after at outcome ⊢
  intro bare
  cases outcome with
  | begins _ => rfl
  | awaited _ _ _ => cases bare
  | refused _ => exact h bare
  | filled _ admitted =>
    rw [selection?_filled, Option.map_eq_none_iff] at bare
    show d.tables.with? (d.entryFor? step) = .empty
    cases new : d.entryFor? step with
    | none => exact h bare
    | some e =>
      obtain ⟨s, some_⟩ := exists_selection_of_entryFor? admitted new
      rw [bare] at some_
      cases some_

/-- So does a run. -/
theorem FitsKind.after_run (h : d.FitsKind) (steps : List Step) : (d.run steps).1.FitsKind := by
  induction steps generalizing d with
  | nil => exact h
  | cons step rest ih => exact ih (h.after_step step)

/-! ## Where entries come from -/

theorem restartsIn_concat (d : Draft) (steps : List Step) (step : Step) :
    d.restartsIn (steps ++ [step]) =
      (d.restartsIn steps || (d.run steps).1.restartsAt step) := by
  induction steps generalizing d with
  | nil => exact Bool.or_false _
  | cons first rest ih =>
    show (d.restartsAt first || (d.step first).1.restartsIn (rest ++ [step])) =
      ((d.restartsAt first || (d.step first).1.restartsIn rest) ||
        ((d.step first).1.run rest).1.restartsAt step)
    rw [ih, Bool.or_assoc]

/-- An entry was brought in by the statement at hand: its table was not known, FROM or JOIN
registered it, and no other statement was begun since. -/
def BroughtIn (start : Draft) (steps : List Step) (e : TableEntry) : Prop :=
  ∃ before step after, steps = before ++ step :: after ∧
    step.Brings start.dialect.toLexicon e ∧
    (start.run before).1.tables.contains e.table = false ∧
    (start.run before).1.objection? step = none ∧
    (start.run (before ++ [step])).1.restartsIn after = false

/-- What a step registers it has brought in itself. -/
theorem brings_of_entryFor? (new : d.entryFor? step = some e) :
    step.Brings d.dialect.toLexicon e := by
  cases step with
  | source origin => exact .source new
  | join j =>
    rw [entryFor?] at new
    split at new
    · cases new
    · exact .join (Option.some.inj new)
  | _ => cases new

/-- An entry that was brought in stays so behind a step that begins no statement. -/
theorem BroughtIn.concat {start : Draft} {steps : List Step} (h : BroughtIn start steps e)
    (stays : (start.run steps).1.restartsAt step = false) :
    BroughtIn start (steps ++ [step]) e := by
  obtain ⟨before, first, after, rfl, brings, unknown, admitted, kept⟩ := h
  refine ⟨before, first, after ++ [step], by simp, brings, unknown, admitted, ?_⟩
  have here : ((start.run (before ++ [first])).1.run after).1.restartsAt step = false := by
    rw [← run_append, List.append_assoc]
    exact stays
  rw [restartsIn_concat, kept, here]
  rfl

/-- A step that fits brings in what it registers. -/
theorem broughtIn_filled {start : Draft} {steps : List Step}
    (admitted : (start.run steps).1.objection? step = none)
    (new : (start.run steps).1.entryFor? step = some e) : BroughtIn start (steps ++ [step]) e := by
  have brings := brings_of_entryFor? new
  rw [dialect_run] at brings
  have inserts := Registry.inserts_of_admitted (refusal?_of_unobjected admitted new)
  have unknown := (Registry.contains_eq_false_iff _).2 inserts.table
  exact ⟨steps, step, [], rfl, brings, unknown, admitted, rfl⟩

/-- Whatever is registered was brought in by the statement at hand. The induction is on the last
step: it begins a statement and leaves no entries, or it keeps the ones there are and may bring in
one more. -/
theorem broughtIn_run {start : Draft} (bare : start.tables = .empty) (steps : List Step) :
    ∀ e ∈ (start.run steps).1.tables.entries, BroughtIn start steps e := by
  induction steps using List.reverseRecOn with
  | nil =>
    intro e he
    have he : e ∈ start.tables.entries := he
    rw [bare] at he
    cases he
  | append_singleton steps step ih =>
    rw [run_concat]
    have outcome := (start.run steps).1.outcome_step step
    generalize ((start.run steps).1.step step).1 = after at outcome ⊢
    intro e he
    cases outcome with
    | begins _ => cases he
    | awaited is statement waits =>
      refine (ih e he).concat ?_
      simp [is, restartsAt, Step.isSelect, awaitsSelect, statement, waits]
    | refused objection =>
      exact (ih e he).concat (restartsAt_of_setter _ (setter_of_objection objection))
    | filled setter admitted =>
      have he : e ∈ ((start.run steps).1.tables.with?
        ((start.run steps).1.entryFor? step)).entries := he
      cases new : (start.run steps).1.entryFor? step with
      | none =>
        rw [new] at he
        exact (ih e he).concat (restartsAt_of_setter _ setter)
      | some brought =>
        rw [new] at he
        rcases List.mem_append.1 he with known | fresh
        · exact (ih e known).concat (restartsAt_of_setter _ setter)
        · obtain rfl := List.mem_singleton.1 fresh
          exact broughtIn_filled admitted new

/-! ## What stays -/

/-- Until another statement is begun, entries and joins only come in behind the others. -/
theorem prefix_step (stays : d.restartsAt step = false) :
    d.tables.entries <+: (d.step step).1.tables.entries ∧ d.joins <+: (d.step step).1.joins := by
  have outcome := d.outcome_step step
  generalize (d.step step).1 = after at outcome ⊢
  cases outcome with
  -- Nothing is begun, by assumption.
  | begins restarts =>
    rw [stays] at restarts
    cases restarts
  | awaited _ statement _ =>
    refine ⟨List.prefix_rfl, ?_⟩
    rw [joins, selection?, statement]
    exact List.prefix_rfl
  | refused _ => exact ⟨List.prefix_rfl, List.prefix_rfl⟩
  | filled _ admitted =>
    constructor
    · show _ <+: (d.tables.with? (d.entryFor? step)).entries
      cases d.entryFor? step with
      | none => exact List.prefix_rfl
      | some e => exact List.prefix_append _ _
    · rw [joins_filled admitted]
      exact List.prefix_append _ _

theorem prefix_run {steps : List Step} (stays : d.restartsIn steps = false) :
    d.tables.entries <+: (d.run steps).1.tables.entries ∧ d.joins <+: (d.run steps).1.joins := by
  induction steps generalizing d with
  | nil => exact ⟨List.prefix_rfl, List.prefix_rfl⟩
  | cons step rest ih =>
    obtain ⟨first, later⟩ := Bool.or_eq_false_iff.1 stays
    have now := prefix_step first
    have then_ := ih later
    exact ⟨now.1.trans then_.1, now.2.trans then_.2⟩

end Draft

/-! ## Parts of what is rendered -/

/-- A part stands in the row that it is joined into. -/
theorem Fragment.isInfix_joined {separator : Text} {part : Fragment} {parts : List Fragment}
    (h : part ∈ parts) : part <:+: Fragment.joined separator parts := by
  induction parts with
  | nil => cases h
  | cons first rest ih =>
    cases rest with
    | nil =>
      obtain rfl := List.mem_singleton.1 h
      exact ⟨[], [], by simp [Fragment.joined]⟩
    | cons second rest =>
      rw [Fragment.joined, List.intercalate_cons_cons]
      rcases List.mem_cons.1 h with rfl | later
      · rw [List.append_assoc]
        exact (List.prefix_append _ _).isInfix
      · exact (ih later).trans (List.suffix_append _ _).isInfix

section Parts

variable {scope : Scope} {f : Fragment}

/-- Each join of a rendered list is rendered to one of the parts. -/
theorem exists_join_of_render {js : List Join} {parts : List Fragment}
    (h : renderJoins scope js = .ok parts) :
    ∀ j ∈ js, ∃ part ∈ parts, j.render scope = .ok part := by
  induction js generalizing parts with
  | nil =>
    intro j hj
    cases hj
  | cons first rest ih =>
    obtain ⟨part, first_, h⟩ := bind_eq_ok_iff.1 h
    obtain ⟨later, rest_, h⟩ := bind_eq_ok_iff.1 h
    cases h
    intro j hj
    rcases List.mem_cons.1 hj with rfl | hj
    · exact ⟨part, List.mem_cons_self, first_⟩
    · obtain ⟨other, among, rendered⟩ := ih rest_ j hj
      exact ⟨other, List.mem_cons_of_mem part among, rendered⟩

/-- Every filter is written in a clause of the filters, one without comparisons as nothing. -/
theorem exists_filter_of_render {several : Bool} {ws : List Condition} {parts : List Fragment}
    (h : renderFilters scope several ws = .ok parts) :
    ∀ w ∈ ws, ∃ sql, w.render scope = .ok sql ∧ (sql = [] ∨ ∃ part ∈ parts, sql <:+: part) := by
  induction ws generalizing parts with
  | nil =>
    intro w hw
    cases hw
  | cons first rest ih =>
    obtain ⟨sql, first_, h⟩ := bind_eq_ok_iff.1 h
    obtain ⟨later, rest_, h⟩ := bind_eq_ok_iff.1 h
    cases h
    intro w hw
    rcases List.mem_cons.1 hw with rfl | hw
    · refine ⟨sql, first_, ?_⟩
      -- A filter that is written as anything is kept, with or without parentheses.
      cases empty : sql.isEmpty with
      | true => exact .inl (List.isEmpty_iff.1 empty)
      | false =>
        refine .inr ⟨w.enclosed several sql, by simp, ?_⟩
        unfold Condition.enclosed
        split
        · exact List.infix_append _ _ _
        · exact List.infix_rfl
    · obtain ⟨other, rendered, place⟩ := ih rest_ w hw
      refine ⟨other, rendered, place.imp_right ?_⟩
      rintro ⟨part, among, inside⟩
      refine ⟨part, ?_, inside⟩
      split
      · exact among
      · exact List.mem_cons_of_mem _ among

/-- A join stands in the SQL of its selection. -/
theorem Selection.exists_join {s : Selection} (h : s.render scope = .ok f) :
    ∀ j ∈ s.joins, ∃ part, j.render scope = .ok part ∧ part <:+: f := by
  rcases s with ⟨columns, source, js, ws, group, having, order, limit, unions⟩
  obtain ⟨readFrom, -, h⟩ := bind_eq_ok_iff.1 h
  obtain ⟨joined, joins, h⟩ := bind_eq_ok_iff.1 h
  obtain ⟨kept, -, h⟩ := bind_eq_ok_iff.1 h
  obtain ⟨having, -, h⟩ := bind_eq_ok_iff.1 h
  obtain ⟨appended, -, h⟩ := bind_eq_ok_iff.1 h
  cases h
  intro j hj
  obtain ⟨part, among, rendered⟩ := exists_join_of_render joins j hj
  exact ⟨part, rendered, Fragment.isInfix_joined (by simp [among])⟩

/-- The inner selection stands in the SQL of its WITH. -/
theorem WithClause.exists_selection {w : WithClause} (h : w.render scope = .ok f) :
    ∃ inner, w.selection.render scope = .ok inner ∧ inner <:+: f := by
  rcases w with ⟨names, bodies, recursive, hasSelect, selection⟩
  simp only [WithClause.render] at h
  split at h
  · cases h
  · split at h
    · cases h
    · obtain ⟨written, -, h⟩ := bind_eq_ok_iff.1 h
      obtain ⟨inner, select, h⟩ := bind_eq_ok_iff.1 h
      cases h
      refine ⟨inner, select, Fragment.isInfix_joined ?_⟩
      exact List.mem_append_right _ (List.mem_cons_of_mem _ List.mem_cons_self)

/-- A filter stands in the clause of its mutation, unless it is written as nothing. -/
theorem Mutation.exists_filter {m : Mutation} {parts : List Fragment}
    (h : m.renderWhere scope = .ok parts) :
    ∀ w ∈ m.filters,
      ∃ sql, w.render scope = .ok sql ∧ (sql = [] ∨ ∃ part ∈ parts, sql <:+: part) := by
  rcases m with ⟨target, assignments, ws⟩
  obtain ⟨kept, filters, h⟩ := bind_eq_ok_iff.1 h
  cases h
  intro w hw
  obtain ⟨sql, rendered, place⟩ := exists_filter_of_render filters w hw
  refine ⟨sql, rendered, place.imp_right ?_⟩
  rintro ⟨part, among, inside⟩
  have some_ : kept ≠ [] := List.ne_nil_of_mem among
  refine ⟨Fragment.joined " AND " kept, ?_, inside.trans (Fragment.isInfix_joined among)⟩
  simp [clauseOf, some_]

/-- A join is written with the name that it declares, and its condition in the scope of that
name. -/
theorem Join.exists_condition {j : Join} (h : j.render scope = .ok f) :
    ∃ w sql, j.qualifier = some w ∧
      w.render (scope.forJoin (j.table.declared scope).2) = .ok sql ∧
      f = plain (j.kind.head (j.table.declared scope).1 (j.table.declared scope).2 ++ " ON ") ++
        sql.parenthesized := by
  rcases j with ⟨ref, kind, _ | w⟩
  · cases h
  · obtain ⟨sql, condition, h⟩ := bind_eq_ok_iff.1 h
    split at h
    · cases h
    · cases h
      exact ⟨w, sql, rfl, condition, rfl⟩

/-- Without tables nothing is put before a column. -/
theorem Operand.render_of_noTables (lex : Lexicon) (position : Position) (name : Text) :
    (Operand.column name none).render (.ofStatement lex .empty) position = .ok (plain name) := by
  have column : (Scope.ofStatement lex .empty).column position name none = name := by
    cases position with
    | source | destination =>
      simp only [Scope.column]
      split <;> rfl
  rw [Operand.render, column]

end Parts

namespace Draft

variable {d : Draft} {lex : Lexicon} {f : Fragment}

/-- Every join of a draft stands in its SQL. -/
theorem exists_join (h : d.render lex = .ok f) :
    ∀ j ∈ d.joins, ∃ part, j.render (.ofStatement lex d.tables) = .ok part ∧ part <:+: f := by
  obtain ⟨-, h⟩ := statement_of_render h
  intro j hj
  rcases d with ⟨dialect, tables, t, aliasName, fault, limit⟩
  cases t with
  | select s => exact s.exists_join h j hj
  | with_ w =>
    obtain ⟨inner, select, inside⟩ := w.exists_selection h
    obtain ⟨part, rendered, within⟩ := w.selection.exists_join select j hj
    exact ⟨part, rendered, within.trans inside⟩
  | empty | insert | update | delete => cases hj

/-- Every filter of an UPDATE or a DELETE stands in its SQL. -/
theorem exists_filter {m : Mutation} (is : d.statement = .update m ∨ d.statement = .delete m)
    (h : d.render lex = .ok f) :
    ∀ w ∈ m.filters, ∃ sql, w.render (.ofStatement lex d.tables) = .ok sql ∧ sql <:+: f := by
  obtain ⟨-, h⟩ := statement_of_render h
  -- Both verbs write the clause of the filters behind some parts of their own.
  have clause : ∃ front parts, m.renderWhere (.ofStatement lex d.tables) = .ok parts ∧
      f = Fragment.joined " " (front ++ parts) := by
    rcases is with is | is
    · rw [is, Statement.render] at h
      split at h
      · cases h
      · obtain ⟨parts, filters, h⟩ := bind_eq_ok_iff.1 h
        cases h
        exact ⟨_, parts, filters, rfl⟩
    · rw [is, Statement.render] at h
      obtain ⟨parts, filters, h⟩ := bind_eq_ok_iff.1 h
      cases h
      exact ⟨_, parts, filters, rfl⟩
  obtain ⟨front, parts, filters, rfl⟩ := clause
  intro w hw
  obtain ⟨sql, rendered, rfl | ⟨part, among, inside⟩⟩ := m.exists_filter filters w hw
  · exact ⟨[], rendered, List.nil_infix⟩
  · exact ⟨sql, rendered,
      inside.trans (Fragment.isInfix_joined (List.mem_append_right front among))⟩

/-! ## The registry fits the statement -/

/-- A statement that is neither SELECT nor WITH has no selection. -/
theorem selection?_of_kind (select : d.kind? ≠ some .select) (with_ : d.kind? ≠ some .with_) :
    d.selection? = none := by
  rcases d with ⟨dialect, tables, t, aliasName, fault, limit⟩
  cases t with
  | select s => exact absurd rfl select
  | with_ w => exact absurd rfl with_
  | empty | insert | update | delete => rfl

/-- A join that brought its table in is found under it and among the joins, as long as no other
statement is begun. -/
theorem find?_of_joined {start : Draft} {before after : List Step} {j : Join}
    (sound : ((start.run (before ++ .join j :: after)).1).tables.IsSound)
    (unknown : (start.run before).1.tables.contains
      (j.entry start.dialect.toLexicon).table = false)
    (admitted : (start.run before).1.objection? (.join j) = none)
    (stays : (start.run (before ++ [.join j])).1.restartsIn after = false) :
    let d := (start.run (before ++ .join j :: after)).1
    d.tables.find? (j.entry start.dialect.toLexicon).table =
      some (j.entry start.dialect.toLexicon) ∧ j ∈ d.joins := by
  intro d
  have own : (start.run before).1.dialect = start.dialect := dialect_run _ _
  have joined : (start.run (before ++ [.join j])).1 = (start.run before).1.filled (.join j) := by
    rw [run_concat, step_of_setter _ rfl, settled, admitted]
  have new : (start.run before).1.entryFor? (.join j) =
      some (j.entry start.dialect.toLexicon) := by
    rw [entryFor?, own, if_neg (Bool.eq_false_iff.1 unknown)]
  have later : ((start.run (before ++ [.join j])).1.run after).1 = d := by
    rw [← run_append, List.append_assoc]
    rfl
  -- The entry comes in with the join, and the steps behind it take nothing away.
  obtain ⟨entries, joins⟩ := prefix_run stays
  rw [later, joined] at entries joins
  constructor
  · refine sound.find?_eq_some_iff.2 ⟨entries.subset ?_, rfl⟩
    show _ ∈ ((start.run before).1.tables.with? ((start.run before).1.entryFor? (.join j))).entries
    rw [new]
    exact List.mem_append_right _ List.mem_cons_self
  · refine joins.subset ?_
    rw [joins_filled admitted]
    exact List.mem_append_right _ List.mem_cons_self

/-- A join whose table is found under its own entry is written with the alias of the entry, and its
condition in the scope of that alias. -/
theorem exists_condition_of_found {j : Join} (among : j ∈ d.joins)
    (found : d.tables.find? (j.entry d.dialect.toLexicon).table =
      some (j.entry d.dialect.toLexicon))
    (rendered : d.render d.dialect.toLexicon = .ok f) :
    let e := j.entry d.dialect.toLexicon
    ∃ w sql, j.qualifier = some w ∧
      w.render ((Scope.ofStatement d.dialect.toLexicon d.tables).forJoin e.aliasName) = .ok sql ∧
      (plain (j.kind.head e.table e.aliasName ++ " ON ") ++ sql.parenthesized) <:+: f := by
  intro e
  obtain ⟨part, written, inside⟩ := exists_join rendered j among
  obtain ⟨w, sql, qualifier, condition, rfl⟩ := Join.exists_condition written
  have declared : (j.table.declared (Scope.ofStatement d.dialect.toLexicon d.tables)).2 =
      e.aliasName := declaredBy_of_registered found
  rw [declared] at condition inside
  exact ⟨w, sql, qualifier, condition, inside⟩

/-- After any steps the registry fits the statement. If it is no SELECT and no WITH, no table is
registered, and in the filters of an UPDATE or a DELETE a column without a qualifier is written as
it is. The tables of all joins are registered, and whatever is registered was brought in by FROM
or JOIN of the statement at hand. A join whose table was not known when it was attached is written
with the alias of its table, and a column without a qualifier on the left of its own condition
belongs to that alias. -/
theorem tables_fit (dialect : Dialect) (steps : List Step) :
    let d := ((ofDialect dialect).run steps).1
    let scope := fun lex => Scope.ofStatement lex d.tables
    (d.kind? ≠ some .select → d.kind? ≠ some .with_ → d.tables = .empty) ∧
    (∀ m, d.statement = .update m ∨ d.statement = .delete m → ∀ lex,
      (∀ position name,
        (Operand.column name none).render (scope lex) position = .ok (plain name)) ∧
      ∀ f, d.render lex = .ok f →
        ∀ w ∈ m.filters, ∃ sql, w.render (scope lex) = .ok sql ∧ sql <:+: f) ∧
    (∀ j ∈ d.joins, d.tables.contains (j.entry dialect.toLexicon).table = true) ∧
    (∀ e ∈ d.tables.entries, BroughtIn (ofDialect dialect) steps e) ∧
    ∀ before j after, steps = before ++ .join j :: after →
      let table := (j.entry dialect.toLexicon).table
      ((ofDialect dialect).run before).1.tables.contains table = false →
      ((ofDialect dialect).run before).1.objection? (.join j) = none →
      ((ofDialect dialect).run (before ++ [.join j])).1.restartsIn after = false →
      ∃ a, d.tables.aliasOf? table = some a ∧ j ∈ d.joins ∧
        ((scope dialect.toLexicon).forJoin a).defaultAlias .source = some a ∧
        ∀ f, d.render dialect.toLexicon = .ok f →
          ∃ w sql, j.qualifier = some w ∧
            w.render ((scope dialect.toLexicon).forJoin a) = .ok sql ∧
            (plain (j.kind.head table a ++ " ON ") ++ sql.parenthesized) <:+: f := by
  intro d scope
  have own : d.dialect = dialect := dialect_run (ofDialect dialect) steps
  have tallied : d.IsTallied := isTallied_run dialect steps
  -- A statement that is no selection has no step that registers a table.
  have empty (select : d.kind? ≠ some .select) (with_ : d.kind? ≠ some .with_) :
      d.tables = .empty := by
    have fits : d.FitsKind := FitsKind.after_run (d := ofDialect dialect) (fun _ => rfl) steps
    exact fits (selection?_of_kind select with_)
  refine ⟨empty, ?_, ?_, ?_, ?_⟩
  · intro m is lex
    refine ⟨fun position name => ?_, fun f rendered => exists_filter is rendered⟩
    have none_ : d.tables = .empty := by
      apply empty <;> (rw [kind?]; rcases is with is | is <;> (rw [is]; intro same; cases same))
    show (Operand.column name none).render (.ofStatement lex d.tables) position = _
    rw [none_, Operand.render_of_noTables]
  · intro j hj
    rw [← own]
    exact (tallied.contains_iff _).2 (List.mem_append_right _ (List.mem_map_of_mem hj))
  · exact broughtIn_run rfl steps
  · rintro before j after rfl table unknown admitted stays
    -- The alias is that of the entry which the join brought in, and it is written from the
    -- registry.
    have attached := find?_of_joined tallied.sound unknown admitted stays
    have found : d.tables.find? table = some (j.entry dialect.toLexicon) := attached.1
    have among : j ∈ d.joins := attached.2
    have alias_ : d.tables.aliasOf? table = some (j.entry dialect.toLexicon).aliasName := by
      rw [Registry.aliasOf?, found]
      rfl
    refine ⟨_, alias_, among, rfl, fun f rendered => ?_⟩
    have written := exists_condition_of_found (d := d) (f := f) among
    rw [own] at written
    exact written found rendered

/-- Orders that were joined before FROM are written with their alias, and the columns of their
condition stand behind it. In the filter of an UPDATE the same column stands alone. -/
theorem joinedOrders_fit :
    let on := (Condition.ofColumn "user_id").equals (.column "id" none)
    let d := ((ofDialect .generic).run ([.update "t", .select ["id"]] ++
      .join ⟨.raw "orders o", .left, some on⟩ :: [.source (.table (.raw "users u"))])).1
    let scope := Scope.ofStatement Dialect.generic.toLexicon d.tables
    let d' := ((ofDialect .generic).run [.select ["id"], .source (.table (.raw "users u")),
      .delete "t", .filter on]).1
    (∃ f sql, d.render Dialect.generic.toLexicon = .ok f ∧ on.render (scope.forJoin "o") = .ok sql ∧
      (plain "LEFT JOIN orders o ON " ++ sql.parenthesized) <:+: f) ∧
    d'.tables = .empty ∧
    (Operand.column "user_id" none).render (.ofStatement Dialect.postgres.toLexicon d'.tables)
      .source = .ok (plain "user_id") := by
  intro on d scope d'
  constructor
  · obtain ⟨-, -, -, -, joins⟩ := tables_fit .generic ([.update "t", .select ["id"]] ++
      .join ⟨.raw "orders o", .left, some on⟩ :: [.source (.table (.raw "users u"))])
    obtain ⟨a, alias_, -, -, written⟩ := joins [.update "t", .select ["id"]] _ _ rfl rfl rfl rfl
    have named : d.tables.aliasOf? "orders" = some "o".toList := rfl
    obtain rfl : a = "o".toList := Option.some.inj (alias_.symm.trans named)
    have rendered : (d.render Dialect.generic.toLexicon).toOption.isSome = true := by
      decide +kernel
    cases ok : d.render Dialect.generic.toLexicon with
    | error fault =>
      rw [ok] at rendered
      cases rendered
    | ok f =>
      obtain ⟨w, sql, qualifier, condition, inside⟩ := written f ok
      cases qualifier
      exact ⟨f, sql, rfl, condition, inside⟩
  · obtain ⟨empty, verbatim, -⟩ := tables_fit .generic [.select ["id"],
      .source (.table (.raw "users u")), .delete "t", .filter on]
    refine ⟨empty (by exact nofun) (by exact nofun), ?_⟩
    exact (verbatim _ (.inr rfl) Dialect.postgres.toLexicon).1 .source "user_id"

end Draft

end BoundSql
