import BoundSql.Proofs.Entries
import BoundSql.Proofs.Origin

/-!
# Declared names

FROM and JOIN declare the names behind which columns stand. A join of a table that is not known
yet is registered under the name that it declares, and the registry refuses a name that is
taken. So the names of FROM and of the joins that bring a table in are pairwise distinct
(`Draft.correlationNames_nodup`). A join of a known table is attached without being registered,
and it may declare a name that is declared already (`Draft.selfJoin_repeats_name`). The fixed name
that is written for a draft without an alias is none of these names.
-/

set_option autoImplicit false

namespace BoundSql

/-- An entry of a join whose table is not known is refused if its alias is taken. -/
theorem Registry.refusal?_of_taken {r : Registry} {e : TableEntry}
    (unknown : r.contains e.table = false) (joined : e.role = .join)
    (taken : e.aliasName ∈ r.entries.map TableEntry.aliasName) :
    ∃ existing ∈ r.entries, existing.aliasName = e.aliasName ∧
      r.refusal? e = some (.conflict (.sharedAlias e.aliasName existing.table e.table)) := by
  -- The entry is no origin, so only its alias can be in the way.
  have free : e.role ≠ .origin := by
    rw [joined]
    decide
  cases found : r.entries.find? fun other => other.aliasName == e.aliasName with
  | some existing =>
    have refused : r.insert e =
        .error (.conflict (.sharedAlias e.aliasName existing.table e.table)) := by
      simp [insert, unknown, free, found]
    have same : existing.aliasName = e.aliasName := by simpa using List.find?_some found
    refine ⟨existing, List.mem_of_find?_eq_some found, same, ?_⟩
    rw [refusal?, refused]
  | none =>
    obtain ⟨existing, known, same⟩ := List.mem_map.1 taken
    have differs := List.find?_eq_none.1 found existing known
    simp [same] at differs

namespace Draft

/-- The name that a join declares in a statement. -/
def declaredBy (d : Draft) (j : Join) : Text :=
  (j.table.declared (.ofStatement d.dialect.toLexicon d.tables)).2

/-- The names that FROM and some joins of a statement declare. A draft that is read from without an
alias declares none here: the fixed name `not_specified` that is written for it is not counted, and
so a join of or as `not_specified` is not seen to repeat it. -/
def correlationNames (d : Draft) (joins : List Join) : List Text :=
  (d.source?.bind Source.declared?).toList ++ joins.map d.declaredBy

variable {d : Draft} {j : Join}

/-! ## Names and entries -/

theorem declaredBy_eq (d : Draft) (j : Join) :
    d.declaredBy j =
      ((j.table.split d.dialect.toLexicon).2 <|>
        d.tables.aliasOf? (j.entry d.dialect.toLexicon).table).getD
          (j.entry d.dialect.toLexicon).table := rfl

theorem aliasName_entry (d : Draft) (j : Join) :
    (j.entry d.dialect.toLexicon).aliasName =
      (j.table.split d.dialect.toLexicon).2.getD (j.entry d.dialect.toLexicon).table := rfl

/-- A join of a table that is not known would be registered under the name that it declares. -/
theorem declaredBy_of_unknown
    (unknown : d.tables.contains (j.entry d.dialect.toLexicon).table = false) :
    d.declaredBy j = (j.entry d.dialect.toLexicon).aliasName := by
  have none_ : d.tables.aliasOf? (j.entry d.dialect.toLexicon).table = none := by
    simpa [Registry.contains, Registry.aliasOf?] using unknown
  rw [declaredBy_eq, aliasName_entry, none_]
  cases (j.table.split d.dialect.toLexicon).2 <;> rfl

/-- A join that has been registered declares the name of its entry. -/
theorem declaredBy_of_registered
    (found : d.tables.find? (j.entry d.dialect.toLexicon).table =
      some (j.entry d.dialect.toLexicon)) :
    d.declaredBy j = (j.entry d.dialect.toLexicon).aliasName := by
  have known : d.tables.aliasOf? (j.entry d.dialect.toLexicon).table =
      some (j.entry d.dialect.toLexicon).aliasName := by rw [Registry.aliasOf?, found]; rfl
  rw [declaredBy_eq, known, aliasName_entry]
  cases (j.table.split d.dialect.toLexicon).2 <;> rfl

/-- The joins that bring a table in declare the names of their entries. -/
theorem IsTallied.map_declaredBy (h : d.IsTallied) :
    d.newJoins.map d.declaredBy = d.tables.joins.map TableEntry.aliasName := by
  rw [h.joins, List.map_map]
  refine List.map_congr_left fun j hj => declaredBy_of_registered ?_
  have joined : j.entry d.dialect.toLexicon ∈ d.tables.joins := by
    rw [h.joins]
    exact List.mem_map_of_mem hj
  exact h.sound.find?_eq_some_iff.2 ⟨(List.mem_filter.1 joined).1, rfl⟩

/-- What is read from declares no name or that of the origin. -/
theorem OriginOf.declared_sublist {start : Draft} {steps : List Step} {source : Option Source}
    {a : Option Text} (h : OriginOf start steps source a) :
    (source.bind Source.declared?).toList.Sublist a.toList := by
  cases h with
  | nothing => exact List.Sublist.refl _
  | declared declares =>
    rw [Option.bind_some, declares]
  | @kept before after e last later unnamed =>
    -- The origin of an earlier FROM may be left, but this source declares no name at all.
    have bare : (some (Source.derived e)).bind Source.declared? = none := unnamed
    rw [bare]
    exact List.nil_sublist _

/-- Every declared name is the alias of an entry, and no two are of the same one. -/
theorem correlationNames_sublist {start : Draft} {steps : List Step} (h : d.IsTallied)
    (origin : OriginOf start steps d.source? d.tables.originAlias?) :
    (d.correlationNames d.newJoins).Sublist
      ((d.tables.origin?.toList ++ d.tables.joins).map TableEntry.aliasName) := by
  have first : (d.tables.origin?.toList).map TableEntry.aliasName =
      d.tables.originAlias?.toList := by
    rw [Registry.originAlias?]
    cases d.tables.origin? <;> rfl
  rw [correlationNames, h.map_declaredBy, List.map_append, first]
  exact origin.declared_sublist.append (List.Sublist.refl _)

/-- Every declared name is an alias in the registry. -/
theorem mem_aliases_of_declared {start : Draft} {steps : List Step} (h : d.IsTallied)
    (origin : OriginOf start steps d.source? d.tables.originAlias?) {name : Text}
    (declared : name ∈ d.correlationNames d.newJoins) :
    name ∈ d.tables.entries.map TableEntry.aliasName :=
  (h.sound.perm.map TableEntry.aliasName).mem_iff.1
    ((correlationNames_sublist h origin).subset declared)

/-! ## Names that are taken -/

theorem hasPlaceFor_join_of_declared {name : Text}
    (declared : name ∈ d.correlationNames d.newJoins) : d.hasPlaceFor .join = true := by
  rcases d with ⟨dialect, tables, t, aliasName, fault, limit⟩
  cases t with
  | select s | with_ w => rfl
  | empty | insert | update | delete => cases declared

/-- A join of a table that is not known is refused if its name is taken. -/
theorem objection?_of_taken (place : d.hasPlaceFor .join = true)
    (unknown : d.tables.contains (j.entry d.dialect.toLexicon).table = false)
    (taken : d.declaredBy j ∈ d.tables.entries.map TableEntry.aliasName) :
    ∃ existing ∈ d.tables.entries, existing.aliasName = d.declaredBy j ∧
      d.objection? (.join j) = some (.conflict (.sharedAlias (d.declaredBy j) existing.table
        (j.entry d.dialect.toLexicon).table)) := by
  rw [declaredBy_of_unknown unknown] at taken ⊢
  obtain ⟨existing, known, same, refused⟩ := Registry.refusal?_of_taken unknown rfl taken
  refine ⟨existing, known, same, ?_⟩
  have new : d.entryFor? (.join j) = some (j.entry d.dialect.toLexicon) := by
    simp [entryFor?, unknown]
  have objection : d.objection? (.join j) = (d.entryFor? (.join j)).bind d.tables.refusal? := by
    simp [objection?, Step.clause?, place, Step.readsNoSelect]
  rw [objection, new]
  exact refused

/-- A join of a known table is attached, whatever name it declares, and registers nothing. -/
theorem step_join_of_known (place : d.hasPlaceFor .join = true)
    (known : d.tables.contains (j.entry d.dialect.toLexicon).table = true) :
    (d.step (.join j)).1.fault = d.fault ∧ (d.step (.join j)).1.tables = d.tables ∧
      (d.step (.join j)).1.joins = d.joins ++ [j] := by
  have new : d.entryFor? (.join j) = none := by simp [entryFor?, known]
  have objection : d.objection? (.join j) = none := by
    simp [objection?, Step.clause?, place, Step.readsNoSelect, new]
  have filled : (d.step (.join j)).1 = d.filled (.join j) := by
    rw [d.step_of_setter rfl, settled, objection]
  rw [filled]
  refine ⟨rfl, ?_, joins_filled objection⟩
  show d.tables.with? (d.entryFor? (.join j)) = d.tables
  rw [new]
  rfl

/-- After any steps without a mistake, the names that FROM and the joins that bring a table in
declare are pairwise distinct. A join of one more table under one of these names is recorded as
a conflict of aliases, and the statement is not rendered. A join of a known table is not
checked. -/
theorem correlationNames_nodup (dialect : Dialect) (steps : List Step)
    (sound : ((ofDialect dialect).run steps).1.fault = none) :
    let d := ((ofDialect dialect).run steps).1
    (d.correlationNames d.newJoins).Nodup ∧
      (∀ j, d.tables.contains (j.entry dialect.toLexicon).table = false →
        d.declaredBy j ∈ d.correlationNames d.newJoins →
        ∃ existing ∈ d.tables.entries, existing.aliasName = d.declaredBy j ∧
          let conflict := Fault.conflict (.sharedAlias (d.declaredBy j) existing.table
            (j.entry dialect.toLexicon).table)
          (d.step (.join j)).1.fault = some conflict ∧
            ∀ other prior, (d.step (.join j)).1.renderedWithin other prior = .error conflict) ∧
      ∀ j, d.tables.contains (j.entry dialect.toLexicon).table = true →
        d.hasPlaceFor .join = true →
        (d.step (.join j)).1.fault = none ∧ (d.step (.join j)).1.tables = d.tables ∧
          (d.step (.join j)).1.joins = d.joins ++ [j] := by
  intro d
  have tallied : d.IsTallied := isTallied_run dialect steps
  have origin : OriginOf (ofDialect dialect) steps d.source? d.tables.originAlias? :=
    originOf_run dialect steps sound
  have own : d.dialect = dialect := dialect_run (ofDialect dialect) steps
  refine ⟨?_, ?_, ?_⟩
  · -- The declared names are among the aliases of the registry, which are distinct.
    have distinct : ((d.tables.origin?.toList ++ d.tables.joins).map
        TableEntry.aliasName).Nodup :=
      (tallied.sound.perm.map TableEntry.aliasName).nodup_iff.2 tallied.sound.aliases
    exact distinct.sublist (correlationNames_sublist tallied origin)
  · intro j unknown declared
    -- The name is an alias that the registry has, so the entry is refused there.
    rw [← own] at unknown ⊢
    obtain ⟨existing, known, same, objection⟩ :=
      objection?_of_taken (hasPlaceFor_join_of_declared declared) unknown
        (mem_aliases_of_declared tallied origin declared)
    refine ⟨existing, known, same, ?_⟩
    have recorded : (d.step (.join j)).1.fault = d.objection? (.join j) := by
      rw [step_of_objection objection, objection, sound]
      rfl
    rw [objection] at recorded
    exact ⟨recorded, renderedWithin_of_fault recorded⟩
  · intro j known place
    rw [← own] at known
    obtain ⟨fault, kept⟩ := step_join_of_known place known
    exact ⟨fault.trans sound, kept⟩

/-- The names of a table read from and of one joined to it are distinct, and a third table under
the name of the second is refused. -/
theorem thirdTable_is_refused :
    let d := ((ofDialect .generic).run [.select ["id"], .source (.table (.raw "a")),
      .join ⟨.raw "b", .inner, some ((Condition.ofColumn "id").isNull)⟩]).1
    (d.correlationNames d.newJoins).Nodup ∧
      d.correlationNames d.newJoins = ["a".toList, "b".toList] ∧
      ∃ existing, (d.step (.join ⟨.raw "c b", .inner, none⟩)).1.rendered =
        .error (.conflict (.sharedAlias "b" existing "c")) := by
  intro d
  obtain ⟨distinct, conflicts, -⟩ := correlationNames_nodup .generic [.select ["id"],
    .source (.table (.raw "a")), .join ⟨.raw "b", .inner, some ((Condition.ofColumn "id").isNull)⟩]
    rfl
  obtain ⟨existing, -, -, -, refused⟩ :=
    conflicts ⟨.raw "c b", .inner, none⟩ rfl (List.mem_cons_of_mem _ List.mem_cons_self)
  exact ⟨distinct, rfl, existing.table, refused .generic []⟩

/-- A table joined to itself declares its name twice, and the statement is rendered. -/
theorem selfJoin_repeats_name :
    let d := ((ofDialect .generic).run [.select ["id"], .source (.table (.raw "a")),
      .join ⟨.raw "a", .inner, some ((Condition.ofColumn "id").isNull)⟩]).1
    d.kind? = some .select ∧ d.rendered.map Rendered.sql =
        .ok "SELECT a.id FROM a INNER JOIN a ON (a.id IS NULL)".toList ∧
      d.correlationNames d.joins = ["a".toList, "a".toList] ∧
      ¬ (d.correlationNames d.joins).Nodup := by
  refine ⟨rfl, rfl, rfl, ?_⟩
  intro distinct
  exact (List.nodup_cons.1 distinct).1 List.mem_cons_self

end Draft

end BoundSql
