import BoundSql.Proofs.Restarts

/-!
# The entries of a draft

Which tables a draft has registered can be read off its origin and its joins. The registry is
sound, and its joined tables are those of the joins that bring a table in: a join of the origin's
table or of a table joined before registers nothing (`Draft.newJoins`, `Draft.isTallied_run`).
In which order FROM and JOIN were asked for does not matter.
-/

set_option autoImplicit false

namespace BoundSql

/-! ## Origins and joins of a sound registry -/

namespace Registry

variable {r r' : Registry} {e : TableEntry} {table : Text}

/-- In a sound registry the origin is the only entry of its role. -/
theorem IsSound.filter_origin (h : r.IsSound) :
    r.entries.filter (fun e => e.role == .origin) = r.origin?.toList := by
  have one := h.origin
  rw [List.countP_eq_length_filter] at one
  rw [origin?, ← List.head?_filter]
  -- At most one entry is an origin, so nothing is left behind the first.
  generalize r.entries.filter (fun e => e.role == .origin) = origins at one
  cases origins with
  | nil => rfl
  | cons first rest =>
    cases rest with
    | nil => rfl
    | cons second rest =>
      simp only [List.length_cons] at one
      omega

/-- A sound registry consists of its origin and its joined tables. -/
theorem IsSound.perm (h : r.IsSound) : (r.origin?.toList ++ r.joins).Perm r.entries := by
  have others : r.joins = r.entries.filter fun e => !(e.role == .origin) := by
    refine List.filter_congr fun e _ => ?_
    cases e.role <;> rfl
  rw [← h.filter_origin, others]
  exact List.filter_append_perm _ _

/-- In a sound registry an entry is found under its table. -/
theorem IsSound.find?_eq_some_iff (h : r.IsSound) :
    r.find? table = some e ↔ e ∈ r.entries ∧ e.table = table := by
  constructor
  · intro found
    exact ⟨List.mem_of_find?_eq_some found, by simpa using List.find?_some found⟩
  · rintro ⟨known, rfl⟩
    cases found : r.find? e.table with
    | none =>
      have differs := List.find?_eq_none.1 found e known
      simp at differs
    | some other =>
      -- Tables are distinct, so what is found under the table of an entry is that entry.
      have same : other.table = e.table := by simpa using List.find?_some found
      rw [List.inj_on_of_nodup_map h.tables (List.mem_of_find?_eq_some found) known same]

/-- Two sound registries with one origin and the same joined tables find the same entries. -/
theorem IsSound.find?_congr (h : r.IsSound) (h' : r'.IsSound) (origin : r.origin? = r'.origin?)
    (joins : r.joins = r'.joins) (table : Text) : r.find? table = r'.find? table := by
  have same : r.entries.Perm r'.entries := by
    refine h.perm.symm.trans ?_
    rw [origin, joins]
    exact h'.perm
  apply Option.ext
  intro e
  rw [h.find?_eq_some_iff, h'.find?_eq_some_iff, same.mem_iff]

/-! ## One more entry -/

/-- An entry that is not refused comes in as an insertion. -/
theorem inserts_of_admitted (h : r.refusal? e = none) : r.Inserts e (r.with? (some e)) := by
  unfold refusal? at h
  split at h
  · rename_i after inserted
    have inserts := inserts_of_insert inserted
    have entries : r.with? (some e) = after := congrArg Registry.mk inserts.entries.symm
    exact entries ▸ inserts
  · cases h

theorem joins_with?_origin (first : e.role = .origin) : (r.with? (some e)).joins = r.joins := by
  simp [joins, with?, first]

theorem joins_with?_join (joined : e.role = .join) :
    (r.with? (some e)).joins = r.joins ++ [e] := by
  simp [joins, with?, joined]

theorem origin?_with?_origin (first : e.role = .origin) :
    (r.with? (some e)).origin? = (r.origin? <|> some e) := by
  simp [origin?, with?, List.find?_append, first]

theorem origin?_with?_join (joined : e.role = .join) :
    (r.with? (some e)).origin? = r.origin? := by
  simp [origin?, with?, List.find?_append, joined]

end Registry

/-- What FROM brings in is an origin. -/
theorem Origin.role_of_entryOf? {lex : Lexicon} {origin : Origin} {e : TableEntry}
    (h : origin.entryOf? lex = some e) : e.role = .origin := by
  cases origin with
  | table ref =>
    cases h
    rfl
  | derived d =>
    obtain ⟨aliasName, -, rfl⟩ := Option.map_eq_some_iff.1 h
    rfl

/-! ## Joins that bring a table in -/

/-- The joins of a table that is neither known nor joined before. -/
def newJoins (lex : Lexicon) (known : List Text) : List Join → List Join
  | [] => []
  | j :: rest =>
    if (j.entry lex).table ∈ known then newJoins lex known rest
    else j :: newJoins lex ((j.entry lex).table :: known) rest

section NewJoins

variable {lex : Lexicon}

/-- Only which tables are known counts, and only as far as they are joined. -/
theorem newJoins_congr {known known' : List Text} {joins : List Join}
    (h : ∀ j ∈ joins, (j.entry lex).table ∈ known ↔ (j.entry lex).table ∈ known') :
    newJoins lex known joins = newJoins lex known' joins := by
  induction joins generalizing known known' with
  | nil => rfl
  | cons j rest ih =>
    have first := h j List.mem_cons_self
    have later := fun i hi => h i (List.mem_cons_of_mem j hi)
    unfold newJoins
    by_cases seen : (j.entry lex).table ∈ known
    · rw [if_pos seen, if_pos (first.1 seen), ih later]
    · rw [if_neg seen, if_neg fun other => seen (first.2 other)]
      -- Both learn the same table here, and so they still agree on the later joins.
      refine congrArg (j :: ·) (ih fun i hi => ?_)
      rw [List.mem_cons, List.mem_cons, later i hi]

theorem mem_tables_cons {known : List Text} {first : Join} {rest : List Join} {table : Text} :
    table ∈ known ++ (first :: rest).map (fun j => (j.entry lex).table) ↔
      table ∈ ((first.entry lex).table :: known) ++ rest.map fun j => (j.entry lex).table :=
  List.perm_middle.mem_iff

theorem mem_tables_cons_of_seen {known : List Text} {first : Join} {rest : List Join}
    {table : Text} (seen : (first.entry lex).table ∈ known) :
    table ∈ known ++ (first :: rest).map (fun j => (j.entry lex).table) ↔
      table ∈ known ++ rest.map fun j => (j.entry lex).table := by
  rw [mem_tables_cons, List.cons_append, List.mem_cons]
  constructor
  · rintro (rfl | later)
    · exact List.mem_append_left _ seen
    · exact later
  · exact .inr

/-- One more join brings its table in unless the table is known or joined before. -/
theorem newJoins_concat (known : List Text) (joins : List Join) (j : Join) :
    newJoins lex known (joins ++ [j]) =
      if (j.entry lex).table ∈ known ++ joins.map (fun i => (i.entry lex).table) then
        newJoins lex known joins
      else newJoins lex known joins ++ [j] := by
  induction joins generalizing known with
  | nil => simp only [List.nil_append, newJoins, List.map_nil, List.append_nil]
  | cons i rest ih =>
    rw [List.cons_append, newJoins, newJoins]
    by_cases seen : (i.entry lex).table ∈ known
    · rw [if_pos seen, if_pos seen, ih]
      simp only [mem_tables_cons_of_seen seen]
    · rw [if_neg seen, if_neg seen, ih]
      simp only [mem_tables_cons]
      split <;> rfl

/-- Together with the known tables, the joins that bring a table in name all tables. -/
theorem mem_newJoins_tables (known : List Text) (joins : List Join) (table : Text) :
    table ∈ known ++ (newJoins lex known joins).map (fun j => (j.entry lex).table) ↔
      table ∈ known ++ joins.map (fun j => (j.entry lex).table) := by
  induction joins generalizing known with
  | nil => rfl
  | cons j rest ih =>
    unfold newJoins
    by_cases seen : (j.entry lex).table ∈ known
    · rw [if_pos seen, ih, mem_tables_cons_of_seen seen]
    · rw [if_neg seen, mem_tables_cons, ih, mem_tables_cons]

end NewJoins

/-! ## Tables and clauses -/

/-- What a step joins. -/
def Step.joined : Step → List Join
  | .join j => [j]
  | _ => []

namespace Draft

/-- The joins of the statement. -/
def joins (d : Draft) : List Join := (d.selection?.map Selection.joins).getD []

/-- The joins of the statement that bring a table in: those of a table that is neither the
origin's nor joined before. -/
def newJoins (d : Draft) : List Join :=
  BoundSql.newJoins d.dialect.toLexicon (d.tables.origin?.map TableEntry.table).toList d.joins

/-- The registry is sound, and beside the origin it holds the tables that the joins bring in. -/
structure IsTallied (d : Draft) : Prop where
  sound : d.tables.IsSound
  joins : d.tables.joins = d.newJoins.map fun j => j.entry d.dialect.toLexicon

variable {d : Draft} {step : Step} {e : TableEntry}

/-- A step fills the selection of a draft as it fills a selection. -/
theorem selection?_filled (d : Draft) (step : Step) :
    (d.filled step).selection? =
      d.selection?.map fun s => s.filled d.dialect.toLexicon step := by
  rcases d with ⟨dialect, tables, t, aliasName, fault, limit⟩
  cases t with
  | empty | select | insert | update | delete => rfl
  | with_ w => cases step <;> rfl

/-- Only a join adds to the joins of a selection. -/
theorem joins_filled_selection (lex : Lexicon) (s : Selection) (step : Step) :
    (s.filled lex step).joins = s.joins ++ step.joined := by
  cases step with
  | join j => rfl
  | _ => exact (List.append_nil s.joins).symm

/-- A step without objection registers what it would register. -/
theorem refusal?_of_unobjected (h : d.objection? step = none) (new : d.entryFor? step = some e) :
    d.tables.refusal? e = none := by
  cases asks : step.clause? with
  | none => cases step <;> simp [entryFor?, Step.clause?] at new asks
  | some clause =>
    rw [objection?, asks, Option.bind_some] at h
    split at h
    · cases h
    · split at h
      · cases h
      · rwa [new] at h

/-- A join is not refused only where there is a selection. -/
theorem exists_selection_of_unobjected {j : Join} (h : d.objection? (.join j) = none) :
    ∃ s, d.selection? = some s := by
  rcases d with ⟨dialect, tables, t, aliasName, fault, limit⟩
  cases t with
  | select s => exact ⟨s, rfl⟩
  | with_ w => exact ⟨w.selection, rfl⟩
  | empty | insert | update | delete => cases h

/-- A step without objection appends what it joins to the joins. -/
theorem joins_filled (h : d.objection? step = none) :
    (d.filled step).joins = d.joins ++ step.joined := by
  rw [joins, joins, selection?_filled]
  cases selection : d.selection? with
  | some s => exact joins_filled_selection _ s step
  | none =>
    cases step with
    | join j =>
      obtain ⟨s, some_⟩ := exists_selection_of_unobjected h
      rw [selection] at some_
      cases some_
    | _ => rfl

/-- The registered tables are those of the origin and of the new joins, in some order. -/
theorem IsTallied.tables_perm (h : d.IsTallied) :
    ((d.tables.origin?.map TableEntry.table).toList ++
      d.newJoins.map fun j => (j.entry d.dialect.toLexicon).table).Perm
        (d.tables.entries.map TableEntry.table) := by
  have perm := h.sound.perm.map TableEntry.table
  rw [List.map_append, h.joins, List.map_map] at perm
  cases origin : d.tables.origin? with
  | none => simpa [origin, Function.comp_def] using perm
  | some e => simpa [origin, Function.comp_def] using perm

/-- A table is registered when it is the origin's or joined. -/
theorem IsTallied.contains_iff (h : d.IsTallied) (table : Text) :
    d.tables.contains table = true ↔
      table ∈ (d.tables.origin?.map TableEntry.table).toList ++
        d.joins.map fun j => (j.entry d.dialect.toLexicon).table := by
  rw [← mem_newJoins_tables]
  refine Iff.trans ?_ h.tables_perm.mem_iff.symm
  simp [Registry.contains, Registry.find?, List.find?_isSome]

/-! ## Every run -/

/-- What neither registers nor joins keeps the tables in accord with the joins. -/
theorem IsTallied.congr {d' : Draft} (h : d.IsTallied) (dialect : d'.dialect = d.dialect)
    (tables : d'.tables = d.tables) (joins : d'.joins = d.joins) : d'.IsTallied := by
  refine ⟨tables ▸ h.sound, ?_⟩
  rw [newJoins, tables, joins, dialect]
  exact h.joins

/-- A verb leaves no entries and no joins to count. -/
theorem isTallied_restart (d : Draft) (step : Step) : (d.restart step.begun).IsTallied := by
  refine ⟨Registry.isSound_empty, ?_⟩
  have bare : (d.restart step.begun).joins = [] := by cases step <;> rfl
  rw [newJoins, bare]
  rfl

/-- What is read from is new among the tables, so it makes no join a known one. -/
theorem IsTallied.filled_source (h : d.IsTallied) {origin : Origin}
    (admitted : d.objection? (.source origin) = none) : (d.filled (.source origin)).IsTallied := by
  have joins : (d.filled (.source origin)).joins = d.joins := by
    rw [joins_filled admitted]
    exact List.append_nil _
  cases new : origin.entryOf? d.dialect.toLexicon with
  | none =>
    refine h.congr rfl ?_ joins
    simp [filled, entryFor?, new, Registry.with?]
  | some e =>
    have tables : (d.filled (.source origin)).tables = d.tables.with? (some e) := by
      simp [filled, entryFor?, new]
    have first := Origin.role_of_entryOf? new
    have inserts := Registry.inserts_of_admitted (refusal?_of_unobjected admitted new)
    have before : d.tables.origin? = none := Registry.origin?_eq_none_iff.2 (inserts.origin first)
    have unknown : d.tables.contains e.table = false :=
      (Registry.contains_eq_false_iff _).2 inserts.table
    refine ⟨tables ▸ h.sound.insert inserts, ?_⟩
    -- So far the joins were counted with no table known. Now one is known, but none of them has
    -- joined it, as the tables of all joins are registered and this one was not.
    rw [newJoins, joins, tables, Registry.joins_with?_origin first,
      Registry.origin?_with?_origin first, before, h.joins, newJoins, before]
    refine congrArg _ (newJoins_congr fun j hj => ?_)
    have known : d.tables.contains (j.entry d.dialect.toLexicon).table = true :=
      (h.contains_iff _).2 (List.mem_append_right _ (List.mem_map_of_mem hj))
    have differs : (j.entry d.dialect.toLexicon).table ≠ e.table := by
      intro same
      rw [same, unknown] at known
      cases known
    simpa using differs

/-- A join registers its table behind the others, or the table is known and the join brings
nothing in. -/
theorem IsTallied.filled_join (h : d.IsTallied) {j : Join}
    (admitted : d.objection? (.join j) = none) : (d.filled (.join j)).IsTallied := by
  have joins : (d.filled (.join j)).joins = d.joins ++ [j] := joins_filled admitted
  have known := h.contains_iff (j.entry d.dialect.toLexicon).table
  -- A known table is neither registered nor counted among the new joins.
  by_cases seen : d.tables.contains (j.entry d.dialect.toLexicon).table = true
  · have tables : (d.filled (.join j)).tables = d.tables := by
      simp [filled, entryFor?, seen, Registry.with?]
    refine ⟨tables ▸ h.sound, ?_⟩
    rw [newJoins, joins, tables]
    show _ = (BoundSql.newJoins d.dialect.toLexicon _ _).map _
    rw [newJoins_concat, if_pos (known.1 seen)]
    exact h.joins
  · have new : d.entryFor? (.join j) = some (j.entry d.dialect.toLexicon) := by
      simp [entryFor?, seen]
    have tables : (d.filled (.join j)).tables =
        d.tables.with? (some (j.entry d.dialect.toLexicon)) := by rw [filled, new]
    have inserts := Registry.inserts_of_admitted (refusal?_of_unobjected admitted new)
    have joined : (j.entry d.dialect.toLexicon).role = .join := rfl
    refine ⟨tables ▸ h.sound.insert inserts, ?_⟩
    rw [newJoins, joins, tables, Registry.joins_with?_join joined,
      Registry.origin?_with?_join joined]
    show _ = (BoundSql.newJoins d.dialect.toLexicon _ _).map _
    rw [newJoins_concat, if_neg fun other => seen (known.2 other), List.map_append, h.joins]
    rfl

/-- A step that is not refused adds to the registry what it adds to the statement. -/
theorem IsTallied.filled (h : d.IsTallied) (admitted : d.objection? step = none) :
    (d.filled step).IsTallied := by
  cases step with
  | source origin => exact h.filled_source admitted
  | join j => exact h.filled_join admitted
  | _ =>
    refine h.congr rfl rfl ?_
    rw [joins_filled admitted]
    exact List.append_nil _

/-- No step brings the tables out of accord with the joins. -/
theorem IsTallied.after_step (h : d.IsTallied) (step : Step) : (d.step step).1.IsTallied := by
  rcases d.step_cases step with restarts | ⟨columns, w, rfl, statement, waits⟩ | setter
  · rw [step_of_restarts restarts]
    exact d.isTallied_restart step
  · rw [select_of_awaits statement waits]
    refine h.congr rfl rfl ?_
    simp [Draft.joins, selection?, statement]
  · rw [d.step_of_setter setter, settled]
    cases admitted : d.objection? step with
    | some fault =>
      show (d.refuse fault).1.IsTallied
      rw [refuse_eq]
      exact h.congr rfl rfl rfl
    | none => exact h.filled admitted

/-- The registry and the statement agree after any steps. -/
theorem IsTallied.after_run (h : d.IsTallied) (steps : List Step) : (d.run steps).1.IsTallied := by
  induction steps generalizing d with
  | nil => exact h
  | cons step rest ih => exact ih (h.after_step step)

/-- After any steps the registry is sound, and beside the origin it holds the tables that the
joins bring in, in the order of the joins. -/
theorem isTallied_run (dialect : Dialect) (steps : List Step) :
    ((ofDialect dialect).run steps).1.IsTallied :=
  IsTallied.after_run ⟨Registry.isSound_empty, rfl⟩ steps

end Draft

end BoundSql
