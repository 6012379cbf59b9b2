import BoundSql.Proofs.Registrations
import BoundSql.Proofs.Setters
import BoundSql.Proofs.Terms

/-!
# The origin and FROM

The tables of a draft have an origin, and its statement has a source. FROM sets both, a verb
clears both, and no other step touches either. A table or a named draft becomes the origin
under the name that FROM declares for it, and a second one is refused. A draft without a name
is not registered at all: it takes the place of the source, and whatever origin there was
stays (`Draft.originOf_run`).

So the origin is what FROM declares unless a draft without a name has been read after another
source. Where that has happened, columns are put behind a name that the statement does not
declare.
-/

set_option autoImplicit false

namespace BoundSql

open Fragment (plain)

/-- The name that a source declares: the alias of a table or the table itself, and for a draft
its alias if it has one. The fixed name `not_specified`, which is written for a draft without an
alias, is not counted: nothing registers it, and a join of or as `not_specified` is not seen. -/
def Source.declared? : Source → Option Text
  | .table name aliasName => some (aliasName.getD name)
  | .derived d => d.aliasName

/-! ## Registering an origin -/

section Registers

variable {r after : Registry} {e : TableEntry}

theorem Registry.Inserts.originAlias?_of_origin (h : r.Inserts e after)
    (first : e.role = .origin) : after.originAlias? = some e.aliasName := by
  have none_ : r.entries.find? (fun e => e.role == .origin) = none :=
    Registry.origin?_eq_none_iff.2 (h.origin first)
  rw [Registry.originAlias?, Registry.origin?, h.entries, List.find?_append, none_]
  simp [first]

theorem Registry.Inserts.originAlias?_of_join (h : r.Inserts e after) (joined : e.role = .join) :
    after.originAlias? = r.originAlias? := by
  rw [Registry.originAlias?, Registry.originAlias?, Registry.origin?, Registry.origin?, h.entries,
    List.find?_append]
  simp [joined]

theorem Join.register_originAlias? {j : Join} {lex : Lexicon} {events : List Event}
    (h : j.register lex r = .ok (after, events)) : after.originAlias? = r.originAlias? := by
  have ok : (j.register lex r).map Prod.fst = .ok after := by
    rw [h]
    rfl
  rcases Registry.register_cases ok with ⟨-, rfl⟩ | ⟨-, inserts⟩
  · rfl
  · exact inserts.originAlias?_of_join rfl

theorem Registry.inserts_of_register {source source' : Source} {events : List Event}
    (h : (r.register e >>= fun registered => .ok (registered.1, source, registered.2)) =
      Except.ok (after, source', events)) : source' = source ∧ r.Inserts e after := by
  obtain ⟨registered, hr, h⟩ := bind_eq_ok_iff.1 h
  cases h
  refine ⟨rfl, Registry.inserts_of_insert ?_⟩
  rw [← Registry.map_fst_register, hr]
  rfl

/-- What is read from becomes the origin under the name that it declares, or it is a draft
without a name and the tables stay as they are. -/
theorem Origin.register_cases {lex : Lexicon} {origin : Origin} {source : Source}
    {events : List Event} (h : origin.register lex r = .ok (after, source, events)) :
    (∃ a, source.declared? = some a ∧ after.originAlias? = some a) ∨
      ∃ d, origin = .derived d ∧ source = .derived d ∧ d.aliasName = none ∧ after = r := by
  cases origin with
  | table ref =>
    obtain ⟨rfl, inserts⟩ := Registry.inserts_of_register h
    exact .inl ⟨_, rfl, inserts.originAlias?_of_origin rfl⟩
  | derived d =>
    rw [Origin.register] at h
    split at h
    · split at h
      · rename_i a named
        obtain ⟨rfl, inserts⟩ := Registry.inserts_of_register h
        exact .inl ⟨a, named, inserts.originAlias?_of_origin rfl⟩
      · rename_i unnamed
        cases h
        exact .inr ⟨d, rfl, rfl, unnamed, rfl⟩
    · cases h

end Registers

/-! ## The origin after a run -/

namespace Draft

/-- What a draft without mistakes reads from, and the alias of its origin: nothing and none,
a source and the name that it declares, or a draft without a name and the origin as it was
right before the last FROM. -/
inductive OriginOf (start : Draft) (steps : List Step) : Option Source → Option Text → Prop where
  | nothing : OriginOf start steps none none
  | declared {source : Source} {a : Text} (declares : source.declared? = some a) :
      OriginOf start steps (some source) (some a)
  | kept {before after : List Step} {e : Draft}
      (last : steps = before ++ .source (.derived e) :: after)
      (later : ∀ step ∈ after, step.isSource = false) (unnamed : e.aliasName = none) :
      OriginOf start steps (some (.derived e)) (start.run before).1.tables.originAlias?

variable {start : Draft} {steps : List Step}

theorem OriginOf.concat {source : Option Source} {a : Option Text}
    (h : OriginOf start steps source a) {step : Step} (other : step.isSource = false) :
    OriginOf start (steps ++ [step]) source a := by
  cases h with
  | nothing => exact .nothing
  | declared declares => exact .declared declares
  | @kept before after e last later unnamed =>
    have last_ : steps ++ [step] = before ++ .source (.derived e) :: (after ++ [step]) := by
      rw [last, List.append_assoc, List.cons_append]
    refine .kept last_ (fun s hs => ?_) unnamed
    rcases List.mem_append.1 hs with hs | hs
    · exact later s hs
    · rw [List.mem_singleton.1 hs]
      exact other

/-- The origin is what the source declares, unless the last FROM reads a draft without a name
while there is an origin. -/
theorem OriginOf.eq_declared {source : Option Source} {a : Option Text}
    (h : OriginOf start steps source a)
    (first : ∀ before e after, steps = before ++ .source (.derived e) :: after →
      (∀ step ∈ after, step.isSource = false) → source = some (.derived e) →
      e.aliasName = none → (start.run before).1.tables.originAlias? = none) :
    a = source.bind Source.declared? := by
  cases h with
  | nothing => rfl
  | declared declares => exact declares.symm
  | @kept before after e last later unnamed =>
    rw [first before e after last later rfl unnamed]
    exact unnamed.symm

/-- One more step keeps the origin in accord with the source. -/
theorem OriginOf.of_effect {d d' : Draft} (run : d = (start.run steps).1)
    (h : d.fault = none → OriginOf start steps d.source? d.tables.originAlias?)
    {step : Step} (effect : Effect d step d') (sound : d'.fault = none) :
    OriginOf start (steps ++ [step]) d'.source? d'.tables.originAlias? := by
  cases effect with
  | begins t bare =>
    have none_ : (d.restart t).source? = none := bare
    rw [none_]
    exact .nothing
  | refuses fault =>
    -- No step but a verb makes a draft sound again.
    have faulty := refuse_fault_isSome d fault
    rw [sound] at faulty
    cases faulty
  | @reads origin s tables source events is selection registers =>
    have reads : Draft.source? { d.withSelection { s with source := some source } with
        tables := tables } = some source :=
      source?_of_selection? (selection?_withSelection selection { s with source := some source })
    rw [reads]
    -- What was true of the source before does not matter, as it is replaced.
    rcases Origin.register_cases registers with ⟨a, declares, alias_⟩ | ⟨e, rfl, rfl, unnamed, rfl⟩
    · rw [alias_]
      exact .declared declares
    · rw [run, is]
      exact .kept rfl (by simp) unnamed
  | @joins j s tables events is selection registers =>
    have filled : Fills d (d.withSelection { s with joins := s.joins ++ [j] }) :=
      fills_withSelection selection rfl
    have source_ : Draft.source? { d.withSelection { s with joins := s.joins ++ [j] } with
        tables := tables } = d.source? := filled.source
    rw [source_, Join.register_originAlias? registers]
    refine (h (filled.fault.symm.trans sound)).concat ?_
    rw [is]
    rfl
  | fills other filled =>
    rw [filled.source, filled.tables]
    exact (h (filled.fault.symm.trans sound)).concat other

/-- After any steps without a mistake the origin is in accord with the source. -/
theorem originOf_run (dialect : Dialect) (steps : List Step) :
    ((ofDialect dialect).run steps).1.fault = none →
      OriginOf (ofDialect dialect) steps ((ofDialect dialect).run steps).1.source?
        ((ofDialect dialect).run steps).1.tables.originAlias? := by
  induction steps using List.reverseRecOn with
  | nil =>
    intro _
    exact .nothing
  | append_singleton steps step ih =>
    rw [run_concat]
    exact OriginOf.of_effect rfl ih (effect_step _ step)

end Draft

/-! ## Columns and FROM -/

/-- What stands behind FROM declares a name, which comes last: a table, a table with an alias,
or a query with an alias. -/
inductive Declares (a : Text) : Fragment → Prop where
  | table : Declares a (plain a)
  | aliased (table : Text) : Declares a (plain (table ++ " " ++ a))
  | derived (sql : Fragment) : Declares a (sql.parenthesized ++ plain (" AS " ++ a))

theorem Source.declares {lex : Lexicon} {source : Source} {a : Text}
    (h : source.declared? = some a) {parts : List Fragment}
    (renders : renderFrom lex (some source) = .ok parts) :
    ∃ sql, parts = [plain "FROM", sql] ∧ Declares a sql := by
  cases source with
  | table name aliasName =>
    cases renders
    refine ⟨_, rfl, ?_⟩
    cases aliasName with
    | none =>
      cases h
      exact .table
    | some given =>
      cases h
      -- A table under its own name is written once, and declares that name.
      rw [tableSource]
      split
      · rename_i same
        subst same
        exact .table
      · exact .aliased name
  | derived d =>
    rw [renderFrom] at renders
    obtain ⟨sql, -, parts_⟩ := bind_eq_ok_iff.1 renders
    cases parts_
    have named : d.aliasName = some a := h
    refine ⟨_, rfl, ?_⟩
    rw [derivedSource, named]
    exact .derived sql

/-- A column is written as it was given, or behind a name that FROM declares wherever it can be
written. -/
def StandsBehindFrom (lex : Lexicon) (source : Option Source) (given : Text)
    (behind : Text → Text) (result : Text) : Prop :=
  result = given ∨ ∃ a, result = behind a ∧ ∀ parts, renderFrom lex source = .ok parts →
    ∃ sql, parts = [plain "FROM", sql] ∧ Declares a sql

section Columns

variable {lex : Lexicon} {tables : Registry} {source : Option Source}

theorem declares_of_accord (accord : tables.originAlias? = source.bind Source.declared?)
    {a : Text} (origin : tables.originAlias? = some a) {parts : List Fragment}
    (renders : renderFrom lex source = .ok parts) :
    ∃ sql, parts = [plain "FROM", sql] ∧ Declares a sql := by
  rw [accord] at origin
  obtain ⟨s, rfl, declares⟩ := Option.bind_eq_some_iff.1 origin
  exact Source.declares declares renders

/-- A listed column is put behind the origin at most. -/
theorem standsBehindFrom_listItem (accord : tables.originAlias? = source.bind Source.declared?)
    (item : Text) :
    StandsBehindFrom lex source item (fun a => a ++ lex.separator :: item)
      ((Scope.ofStatement lex tables).listItem item) := by
  unfold Scope.listItem
  split
  · rename_i a origin
    split
    · exact .inr ⟨a, rfl, fun parts renders => declares_of_accord accord origin renders⟩
    · exact .inl rfl
  · exact .inl rfl

/-- A column without a qualifier is put behind the origin at most, where that is the default. -/
theorem standsBehindFrom_column (accord : tables.originAlias? = source.bind Source.declared?)
    {scope : Scope} (lexicon : scope.lexicon = lex) {position : Position}
    (default_ : scope.defaultAlias position = tables.originAlias?) (name : Text) :
    StandsBehindFrom lex source name (fun a => lex.qualify a name)
      (scope.column position name none) := by
  subst lexicon
  simp only [Scope.column]
  split
  · exact .inl rfl
  · split
    · rename_i a origin
      rw [default_] at origin
      exact .inr ⟨a, rfl, fun parts renders => declares_of_accord accord origin renders⟩
    · exact .inl rfl

end Columns

namespace Draft

/-- After any steps without a mistake, the alias of the origin is the name that the source of
the SELECT or WITH declares, and there is none where nothing is declared. The one exception: the
last FROM reads a draft without a name while there is an origin. And then every column that is
put behind the origin unasked, listed, at the left of a comparison or at the right of one in
a join, stands behind a name that FROM declares. -/
theorem originAlias?_eq_declared (dialect : Dialect) (steps : List Step) {s : Selection}
    (selection : ((ofDialect dialect).run steps).1.selection? = some s)
    (sound : ((ofDialect dialect).run steps).1.fault = none)
    (firstRead : ∀ before e after, steps = before ++ .source (.derived e) :: after →
      (∀ step ∈ after, step.isSource = false) → s.source = some (.derived e) →
      e.aliasName = none → ((ofDialect dialect).run before).1.tables.originAlias? = none) :
    let tables := ((ofDialect dialect).run steps).1.tables
    tables.originAlias? = s.source.bind Source.declared? ∧
      ∀ lex, let scope := Scope.ofStatement lex tables
        (∀ item, StandsBehindFrom lex s.source item (fun a => a ++ lex.separator :: item)
          (scope.listItem item)) ∧
        (∀ name, StandsBehindFrom lex s.source name (fun a => lex.qualify a name)
          (scope.column .source name none)) ∧
        ∀ joined name, StandsBehindFrom lex s.source name (fun a => lex.qualify a name)
          ((scope.forJoin joined).column .destination name none) := by
  intro tables
  have origin := originOf_run dialect steps sound
  rw [source?_of_selection? selection] at origin
  -- The registry and the source agree on the name, and so every column that gets one gets that.
  have accord := origin.eq_declared firstRead
  refine ⟨accord, fun lex => ⟨?_, ?_, ?_⟩⟩
  · exact standsBehindFrom_listItem accord
  · exact standsBehindFrom_column accord rfl rfl
  · intro joined
    exact standsBehindFrom_column accord rfl rfl

/-- A draft without a name that reads from a table. -/
def unnamedRows : Draft :=
  ((ofDialect .generic).run [.select ["id"], .source (.table (.raw "t"))]).1

/-- Where a draft without a name is all that is read, there is no origin. -/
theorem originAlias?_of_unnamedRows :
    let d := ((ofDialect .generic).run [.select ["id"], .source (.derived unnamedRows)]).1
    (∃ s, d.selection? = some s ∧ d.fault = none ∧ s.source = some (.derived unnamedRows)) ∧
      d.tables.originAlias? = none := by
  intro d
  have origin := originAlias?_eq_declared .generic
    [.select ["id"], .source (.derived unnamedRows)] (s := { Selection.ofColumns ["id"] with
      source := some (.derived unnamedRows) }) rfl rfl (by
      intro before e after last _ _ _
      rcases before with - | ⟨first, - | ⟨second, before⟩⟩
      · cases last
      · cases last
        rfl
      · simp at last)
  exact ⟨⟨_, rfl, rfl, rfl⟩, origin.1⟩

/-- A draft without a name that is read after a table takes its place and leaves its name as
the origin, so that the column stands behind a name that is not declared. -/
theorem reread_keeps_origin :
    let d := ((ofDialect .generic).run
      [.select ["id"], .source (.table (.raw "a")), .source (.derived unnamedRows)]).1
    d.kind? = some .select ∧ d.fault = none ∧ d.source? = some (.derived unnamedRows) ∧
      unnamedRows.aliasName = none ∧ d.tables.originAlias? = some "a".toList ∧
      d.rendered.map Rendered.sql =
        .ok "SELECT a.id FROM (SELECT t.id FROM t) AS not_specified".toList := by
  refine ⟨rfl, rfl, rfl, rfl, rfl, rfl⟩

end Draft

end BoundSql
