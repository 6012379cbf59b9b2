import BoundSql.Draft.Step
import Mathlib.Data.List.Infix
import Mathlib.Data.List.Nodup

/-!
# Calls on a registry

Which registries can come about. A registry begins empty and is changed by four calls:
adding a table, setting a role, removing a table and registering a join. Here the calls
are programs that work on one registry in place, so whatever a program had written before
it failed would stand. No program writes before its last check, and so each of them settles
on the registry that the functions in use return (`Registry.Call.perform_eq_settled`).

Through any run of calls, failed ones included, the tables are pairwise distinct, the
aliases are pairwise distinct, and at most one table is the origin (`Registry.IsSound`).
What is registered keeps its table, its alias and its place among the others until it is
removed (`Registry.IsSound.kept_isPrefix`).
-/

set_option autoImplicit false

namespace BoundSql.Registry

/-! ## Programs on a registry in place -/

/-- A program on a registry in place. What it has written stands when it fails. -/
abbrev Action := ExceptT Fault (StateM Registry)

namespace Action

variable {α : Type}

/-- The result of a program on a registry, and the registry that it leaves behind. -/
def on (x : Action α) (r : Registry) : Except Fault α × Registry := x.run.run r

/-- A look at the registry goes on with what it finds. -/
@[simp] theorem on_get_bind (next : Registry → Action α) (r : Registry) :
    on (get >>= next) r = on (next r) r := rfl

/-- A call that fails leaves the registry as it is. -/
@[simp] theorem on_throw (fault : Fault) (r : Registry) :
    on (throw fault : Action α) r = (.error fault, r) := rfl

@[simp] theorem on_pure (a : α) (r : Registry) : on (pure a) r = (.ok a, r) := rfl

/-- A change is made and has no answer of its own. -/
@[simp] theorem on_modify (change : Registry → Registry) (r : Registry) :
    on (modify change) r = (.ok (), change r) := rfl

end Action

/-- Adds a table behind the others, by default under its own name, and as the origin if
there is none yet. -/
def addInPlace (table : Text) (aliasName : Option Text) (role : Option Role) : Action Unit := do
  let e := (← get).proposed table aliasName role
  if (← get).contains e.table then throw (.conflict (.repeatedTable e.table))
  if e.role = .origin then
    if let some origin := (← get).origin? then
      throw (.conflict (.secondOrigin e.table origin.table))
  if let some other := (← get).entries.find? fun other => other.aliasName == e.aliasName then
    throw (.conflict (.sharedAlias e.aliasName other.table e.table))
  modify fun r => ⟨r.entries ++ [e]⟩

/-- Sets the role of a registered table; no second table becomes the origin. -/
def setRoleInPlace (table : Text) (role : Role) : Action Unit := do
  if role = .origin then
    if let some origin := (← get).origin? then
      if origin.table ≠ table then throw (.conflict (.secondOrigin table origin.table))
  if (← get).contains table then
    modify fun r => ⟨r.entries.map fun e => if e.table = table then { e with role := role } else e⟩
  else throw (.configuration (.unregisteredTable table))

/-- Adds the table of a join, unless it is known. -/
def registerInPlace (j : Join) (lex : Lexicon) : Action Unit := do
  let (table, aliasName) := j.table.split lex
  if (← get).contains table then return ()
  addInPlace table aliasName (some .join)

/-- A call on a registry. -/
inductive Call where
  | add (table : Text) (aliasName : Option Text) (role : Option Role)
  | setRole (table : Text) (role : Role)
  | remove (table : Text)
  | register (j : Join) (dialect : Dialect)

namespace Call

/-- The program of a call. -/
def program : Call → Action Unit
  | .add table aliasName role => addInPlace table aliasName role
  | .setRole table role => setRoleInPlace table role
  | .remove table => modify fun r => r.remove table
  | .register j dialect => registerInPlace j dialect.toLexicon

/-- The result of a call, and the registry that it leaves behind. -/
def perform (c : Call) (r : Registry) : Except Fault Unit × Registry := c.program.on r

/-- The registry that a call makes of another one, or its fault. -/
def answer (r : Registry) : Call → Except Fault Registry
  | .add table aliasName role => r.insert (r.proposed table aliasName role)
  | .setRole table role => r.setRole table role
  | .remove table => .ok (r.remove table)
  | .register j dialect => (j.register dialect.toLexicon r).map Prod.fst

end Call

/-- What is left of a registry by an answer: the registry in it, or the old one beside the
fault. -/
def settled (r : Registry) : Except Fault Registry → Except Fault Unit × Registry
  | .ok after => (.ok (), after)
  | .error fault => (.error fault, r)

/-- A registry that is accepted takes the place of the old one. -/
@[simp] theorem settled_ok (r after : Registry) : r.settled (.ok after) = (.ok (), after) := rfl

/-- A fault leaves the old one in its place. -/
@[simp] theorem settled_error (r : Registry) (fault : Fault) :
    r.settled (.error fault) = (.error fault, r) := rfl

theorem addInPlace_on (r : Registry) (table : Text) (aliasName : Option Text)
    (role : Option Role) :
    (addInPlace table aliasName role).on r =
      r.settled (r.insert (r.proposed table aliasName role)) := by
  unfold addInPlace insert
  by_cases known : r.contains (r.proposed table aliasName role).table = true
  · simp [known]
  · cases taken : r.entries.find? fun other =>
        other.aliasName == (r.proposed table aliasName role).aliasName with
    | some other =>
      by_cases first : (r.proposed table aliasName role).role = .origin
      · cases ho : r.origin? <;> simp [known, first, ho, taken]
      · simp [known, first, taken]
    | none =>
      by_cases first : (r.proposed table aliasName role).role = .origin
      · cases ho : r.origin? <;> simp [known, first, ho, taken]
      · simp [known, first, taken]

theorem setRoleInPlace_on (r : Registry) (table : Text) (role : Role) :
    (setRoleInPlace table role).on r = r.settled (r.setRole table role) := by
  unfold setRoleInPlace setRole
  by_cases first : role = .origin
  · cases ho : r.origin? with
    | none => by_cases known : r.contains table = true <;> simp [known, first, ho]
    | some origin =>
      by_cases same : origin.table = table
      · by_cases known : r.contains table = true <;>
          simp [known, first, ho, same, Option.filter]
      · simp [first, ho, same, Option.filter]
  · by_cases known : r.contains table = true <;> simp [known, first]

/-- Registering inserts an entry and reports it; the report aside it is the insertion. -/
theorem map_fst_register (r : Registry) (e : TableEntry) :
    (r.register e).map Prod.fst = r.insert e := by
  rw [register]
  cases r.insert e <;> rfl

theorem registerInPlace_on (r : Registry) (j : Join) (lex : Lexicon) :
    (registerInPlace j lex).on r = r.settled ((j.register lex r).map Prod.fst) := by
  have entry : j.entry lex =
      r.proposed (j.table.split lex).1 (j.table.split lex).2 (some .join) := rfl
  unfold registerInPlace Join.register
  by_cases known : r.contains (j.table.split lex).1 = true
  · simp [known, entry, proposed, Except.map]
  · have added := r.addInPlace_on (j.table.split lex).1 (j.table.split lex).2 (some .join)
    have unknown : ¬r.contains (j.entry lex).table = true := known
    rw [if_neg unknown, map_fst_register, entry, ← added]
    simp [known]

/-- A call in place leaves what it answers, and the registry as it was when it fails. -/
theorem Call.perform_eq_settled (c : Call) (r : Registry) :
    c.perform r = r.settled (c.answer r) := by
  cases c with
  | add table aliasName role => exact r.addInPlace_on table aliasName role
  | setRole table role => exact r.setRoleInPlace_on table role
  | remove table => rfl
  | register j dialect => exact r.registerInPlace_on j dialect.toLexicon

/-! ## What a successful answer says -/

variable {r after : Registry}

/-- A table that is not found has no entry. -/
theorem contains_eq_false_iff (table : Text) :
    r.contains table = false ↔ ∀ e ∈ r.entries, e.table ≠ table := by
  simp [contains, find?]

/-- Without an origin no entry has that role. -/
theorem origin?_eq_none_iff : r.origin? = none ↔ ∀ e ∈ r.entries, e.role ≠ .origin := by
  simp [origin?]

/-- What is known of an entry that has been inserted. -/
structure Inserts (r : Registry) (e : TableEntry) (after : Registry) : Prop where
  table : ∀ other ∈ r.entries, other.table ≠ e.table
  aliasName : ∀ other ∈ r.entries, other.aliasName ≠ e.aliasName
  origin : e.role = .origin → ∀ other ∈ r.entries, other.role ≠ .origin
  entries : after.entries = r.entries ++ [e]

/-- An insertion that succeeds has passed every check, and it appends one entry. -/
theorem inserts_of_insert {e : TableEntry} (h : r.insert e = .ok after) : r.Inserts e after := by
  unfold insert at h
  split at h
  · cases h
  · rename_i unknown
    split at h
    · cases h
    · rename_i noOrigin
      split at h
      · cases h
      · rename_i free
        cases h
        refine ⟨(contains_eq_false_iff _).1 (by simpa using unknown), ?_, ?_, rfl⟩
        · intro other ho same
          have differs := List.find?_eq_none.1 free other ho
          exact differs (by simpa using same)
        · intro first
          rw [if_pos first] at noOrigin
          exact origin?_eq_none_iff.1 noOrigin

/-- What is known of a role that has been set. -/
structure SetsRole (r : Registry) (table : Text) (role : Role) (after : Registry) : Prop where
  origin : role = .origin → ∀ origin, r.origin? = some origin → origin.table = table
  entries : after.entries =
    r.entries.map fun e => if e.table = table then { e with role := role } else e

/-- A role that can be set is set for one table, and the other entries stay. -/
theorem setsRole_of_setRole {table : Text} {role : Role} (h : r.setRole table role = .ok after) :
    r.SetsRole table role after := by
  unfold setRole at h
  split at h
  · cases h
  · rename_i noOther
    split at h
    · cases h
      refine ⟨?_, rfl⟩
      intro first origin ho
      rw [if_pos first, ho] at noOther
      by_contra differs
      simp [Option.filter, differs] at noOther
    · cases h

/-! ## Sound registries -/

/-- A registry in which tables and aliases can be told apart and reads have one origin at
most. -/
structure IsSound (r : Registry) : Prop where
  tables : (r.entries.map TableEntry.table).Nodup
  aliases : (r.entries.map TableEntry.aliasName).Nodup
  origin : (r.entries.countP fun e => e.role == .origin) ≤ 1

/-- A registry without entries is sound. -/
theorem isSound_empty : empty.IsSound := ⟨List.nodup_nil, List.nodup_nil, Nat.zero_le 1⟩

/-- Keys stay distinct with a new last one. -/
theorem nodup_map_concat {key : TableEntry → Text} {entries : List TableEntry} {e : TableEntry}
    (distinct : (entries.map key).Nodup) (new : ∀ other ∈ entries, key other ≠ key e) :
    ((entries ++ [e]).map key).Nodup := by
  rw [List.map_append, List.map_singleton, ← List.concat_eq_append]
  refine List.Nodup.concat ?_ distinct
  intro known
  obtain ⟨other, ho, same⟩ := List.mem_map.1 known
  exact new other ho same

/-- An insertion keeps the registry sound, because it checks the table, the alias and the origin. -/
theorem IsSound.insert {e : TableEntry} (h : r.IsSound) (inserts : r.Inserts e after) :
    after.IsSound := by
  refine ⟨?_, ?_, ?_⟩
  · rw [inserts.entries]
    exact nodup_map_concat h.tables inserts.table
  · rw [inserts.entries]
    exact nodup_map_concat h.aliases inserts.aliasName
  · rw [inserts.entries, List.countP_append]
    by_cases first : e.role = .origin
    · have none_ : r.entries.countP (fun e => e.role == .origin) = 0 := by
        rw [List.countP_eq_zero]
        intro other ho
        simpa using inserts.origin first other ho
      simp [none_, first]
    · simpa [first] using h.origin

/-- Two origins of a sound registry are one entry. -/
theorem IsSound.eq_of_isOrigin (h : r.IsSound) {a b : TableEntry} (ha : a ∈ r.entries)
    (hb : b ∈ r.entries) (first : a.role = .origin) (second : b.role = .origin) : a = b := by
  have ha' : a ∈ r.entries.filter fun e => e.role == .origin := by simp [ha, first]
  have hb' : b ∈ r.entries.filter fun e => e.role == .origin := by simp [hb, second]
  have one := h.origin
  rw [List.countP_eq_length_filter] at one
  generalize r.entries.filter (fun e => e.role == .origin) = origins at one ha' hb'
  obtain ⟨c, rfl⟩ := List.length_eq_one_iff.1
    (le_antisymm one (List.length_pos_of_mem ha'))
  rw [List.mem_singleton.1 ha', List.mem_singleton.1 hb']

/-- Setting a role keeps tables and aliases, and it makes no second origin. -/
theorem IsSound.setRole {table : Text} {role : Role} (h : r.IsSound)
    (sets : r.SetsRole table role after) : after.IsSound := by
  have tables : after.entries.map TableEntry.table = r.entries.map TableEntry.table := by
    rw [sets.entries, List.map_map]
    refine List.map_congr_left fun e _ => ?_
    by_cases named : e.table = table <;> simp [named]
  have aliases : after.entries.map TableEntry.aliasName = r.entries.map TableEntry.aliasName := by
    rw [sets.entries, List.map_map]
    refine List.map_congr_left fun e _ => ?_
    by_cases named : e.table = table <;> simp [named]
  refine ⟨tables ▸ h.tables, aliases ▸ h.aliases, ?_⟩
  rw [sets.entries, List.countP_map]
  cases role with
  | join =>
    -- No entry becomes an origin that was none.
    refine le_trans (List.countP_mono_left fun e _ he => ?_) h.origin
    by_cases named : e.table = table <;> simp_all
  | origin =>
    -- Every origin is now the one entry of the table.
    have one : r.entries.countP (fun e => e.table == table) ≤ 1 := by
      have count := List.nodup_iff_count_le_one.1 h.tables table
      rwa [List.count, List.countP_map] at count
    refine le_trans (List.countP_mono_left fun e he first => ?_) one
    by_cases named : e.table = table
    · simpa using named
    · have isOrigin : e.role = .origin := by simpa [named] using first
      cases ho : r.origin? with
      | none => exact absurd isOrigin (origin?_eq_none_iff.1 ho e he)
      | some o =>
        have same := h.eq_of_isOrigin he (List.mem_of_find?_eq_some ho) isOrigin
          (by simpa using List.find?_some ho)
        rw [same]
        simpa using sets.origin rfl o ho

/-- A removal takes entries away and brings none. -/
theorem IsSound.remove (h : r.IsSound) (table : Text) : (r.remove table).IsSound := by
  have fewer : (r.remove table).entries.Sublist r.entries := List.eraseP_sublist
  exact ⟨h.tables.sublist (fewer.map _), h.aliases.sublist (fewer.map _),
    le_trans (fewer.countP_le) h.origin⟩

/-! ## What one call does -/

/-- What a call that succeeds does to a registry. -/
def Call.Effect (before after : Registry) : Call → Prop
  | .add table aliasName role =>
    after.entries = before.entries ++ [before.proposed table aliasName role]
  | .setRole table role =>
    List.Forall₂ (fun e e' => e' = e ∨ e.table = table ∧ e' = { e with role := role })
      before.entries after.entries
  | .remove table => after.entries = before.entries.filter fun e => e.table != table
  | .register j dialect =>
    if before.contains (j.entry dialect.toLexicon).table then after = before
    else after.entries = before.entries ++ [j.entry dialect.toLexicon]

/-- With distinct tables the first entry of a table is its only one, so removing the first one
removes all. -/
theorem eraseP_eq_filter {table : Text} :
    ∀ {entries : List TableEntry}, (entries.map TableEntry.table).Nodup →
      entries.eraseP (fun e => e.table == table) = entries.filter fun e => e.table != table
  | [], _ => rfl
  | e :: rest, distinct => by
    rw [List.map_cons, List.nodup_cons] at distinct
    by_cases named : e.table = table
    · have others : ∀ other ∈ rest, (other.table != table) = true := by
        intro other ho
        simp only [bne_iff_ne]
        rintro same
        exact distinct.1 (List.mem_map.2 ⟨other, ho, same.trans named.symm⟩)
      rw [List.eraseP_cons_of_pos (by simpa using named),
        List.filter_cons_of_neg (by simp [named]), List.filter_eq_self.2 others]
    · rw [List.eraseP_cons_of_neg (by simpa using named),
        List.filter_cons_of_pos (by simpa using named), eraseP_eq_filter distinct.2]

/-- What a join's registration says: nothing where its table is known, and else an entry. -/
theorem register_cases {j : Join} {lex : Lexicon}
    (h : (j.register lex r).map Prod.fst = .ok after) :
    (r.contains (j.entry lex).table = true ∧ after = r) ∨
      (r.contains (j.entry lex).table = false ∧ r.Inserts (j.entry lex) after) := by
  unfold Join.register at h
  split at h
  · rename_i known
    cases h
    exact .inl ⟨known, rfl⟩
  · rename_i unknown
    rw [map_fst_register] at h
    exact .inr ⟨by simpa using unknown, inserts_of_insert h⟩

/-- Whatever a call answers, the registry behind it is sound. -/
theorem IsSound.answer (h : r.IsSound) {c : Call} (ok : c.answer r = .ok after) :
    after.IsSound := by
  cases c with
  | add table aliasName role => exact h.insert (inserts_of_insert ok)
  | setRole table role => exact h.setRole (setsRole_of_setRole ok)
  | remove table =>
    cases ok
    exact h.remove table
  | register j dialect =>
    rcases register_cases ok with ⟨-, rfl⟩ | ⟨-, inserts⟩
    · exact h
    · exact h.insert inserts

/-- And it differs from the one before by what the call says. -/
theorem IsSound.effect (h : r.IsSound) {c : Call} (ok : c.answer r = .ok after) :
    c.Effect r after := by
  cases c with
  | add table aliasName role => exact (inserts_of_insert ok).entries
  | setRole table role =>
    rw [Call.Effect, (setsRole_of_setRole ok).entries, List.forall₂_map_right_iff]
    refine List.forall₂_same.2 fun e _ => ?_
    by_cases named : e.table = table <;> simp [named]
  | remove table =>
    cases ok
    exact eraseP_eq_filter h.tables
  | register j dialect =>
    rw [Call.Effect]
    rcases register_cases ok with ⟨known, rfl⟩ | ⟨unknown, inserts⟩
    · rw [if_pos known]
    · rw [if_neg (by simp [unknown])]
      exact inserts.entries

/-! ## What is kept -/

/-- The tables of a registry with their aliases, in order of registration. -/
def names (r : Registry) : List (Text × Text) := r.entries.map fun e => (e.table, e.aliasName)

/-- Whether a call asks for a table to be removed. -/
def Call.removes (table : Text) : Call → Bool
  | .remove other => table == other
  | _ => false

/-- Whether none of some calls asks for a table to be removed. -/
def keeps (calls : List Call) (name : Text × Text) : Bool :=
  calls.all fun c => !c.removes name.1

/-- The registry after some calls, failed ones included. -/
def performAll (r : Registry) : List Call → Registry
  | [] => r
  | c :: rest => (c.perform r).2.performAll rest

theorem Call.Effect.kept_isPrefix {c : Call} (h : c.Effect r after) :
    (r.names.filter fun name => !c.removes name.1) <+: after.names := by
  have all (other : Registry) : other.names.filter (fun _ => true) = other.names :=
    List.filter_eq_self.2 fun _ _ => rfl
  cases c with
  | add table aliasName role =>
    refine (all r).symm ▸ ?_
    rw [names, names, h, List.map_append]
    exact List.prefix_append _ _
  | setRole table role =>
    refine (all r).symm ▸ ?_
    -- A role is changed in place, and names do not tell of roles.
    have same : List.Forall₂ (· = ·) r.names after.names := by
      rw [names, names, List.forall₂_map_left_iff, List.forall₂_map_right_iff]
      refine List.Forall₂.imp ?_ h
      rintro e e' (rfl | ⟨-, rfl⟩) <;> rfl
    rw [List.forall₂_eq_eq_eq] at same
    rw [same]
  | remove table =>
    rw [names, names, h, List.filter_map]
    exact List.prefix_rfl
  | register j dialect =>
    refine (all r).symm ▸ ?_
    rw [Call.Effect] at h
    split at h
    · rw [h]
    · rw [names, names, h, List.map_append]
      exact List.prefix_append _ _

/-- What the result of a call says of the registry that the call leaves behind. -/
structure Call.ActsOn (c : Call) (r : Registry) : Prop where
  /-- A call that fails leaves the registry as it was. -/
  refused : ∀ fault, (c.perform r).1 = .error fault → (c.perform r).2 = r
  /-- A call that succeeds has its effect and no other. -/
  accepted : (c.perform r).1 = .ok () → c.Effect r (c.perform r).2
  /-- The functions in use return the same registry, or the same fault. -/
  inUse : c.perform r = r.settled (c.answer r)

/-- A call acts on a sound registry, or is refused and changes nothing. -/
theorem IsSound.actsOn (h : r.IsSound) (c : Call) : c.ActsOn r := by
  refine ⟨?_, ?_, c.perform_eq_settled r⟩
  · intro fault failed
    rw [c.perform_eq_settled] at failed ⊢
    cases answer : c.answer r with
    | ok after =>
      rw [answer] at failed
      cases failed
    | error fault => rfl
  · intro ok
    rw [c.perform_eq_settled] at ok ⊢
    cases answer : c.answer r with
    | ok after => exact h.effect answer
    | error fault =>
      rw [answer] at ok
      cases ok

/-- So soundness is kept by every call. -/
theorem IsSound.perform (h : r.IsSound) (c : Call) : (c.perform r).2.IsSound := by
  rw [c.perform_eq_settled]
  cases answer : c.answer r with
  | ok after => exact h.answer answer
  | error fault => exact h

/-- And by every run of calls, refused ones included. -/
theorem IsSound.performAll (h : r.IsSound) (calls : List Call) :
    (r.performAll calls).IsSound := by
  induction calls generalizing r with
  | nil => exact h
  | cons c rest ih => exact ih (h.perform c)

/-- A run of calls goes on where the one before it has ended. -/
theorem performAll_append (r : Registry) (calls more : List Call) :
    r.performAll (calls ++ more) = (r.performAll calls).performAll more := by
  induction calls generalizing r with
  | nil => rfl
  | cons c rest ih => exact ih (c.perform r).2

/-- The names that a call does not remove keep their order, and new ones come behind them. -/
theorem IsSound.kept_isPrefix_perform (h : r.IsSound) (c : Call) :
    (r.names.filter fun name => !c.removes name.1) <+: (c.perform r).2.names := by
  cases answer : c.answer r with
  | ok after =>
    rw [c.perform_eq_settled, answer]
    exact (h.effect answer).kept_isPrefix
  | error fault =>
    have all : (r.names.filter fun name => !c.removes name.1) = r.names := by
      refine List.filter_eq_self.2 fun name _ => ?_
      -- A removal does not fail.
      cases c with
      | remove table => cases answer
      | add table aliasName role => rfl
      | setRole table role => rfl
      | register j dialect => rfl
    rw [c.perform_eq_settled, answer, all]
    exact List.prefix_rfl

/-- The names that no later call removes come first, in the order that they had. -/
theorem IsSound.kept_isPrefix (h : r.IsSound) (more : List Call) :
    r.names.filter (keeps more) <+: (r.performAll more).names := by
  induction more generalizing r with
  | nil =>
    have all : r.names.filter (keeps []) = r.names := List.filter_eq_self.2 fun _ _ => rfl
    rw [all]
    exact List.prefix_rfl
  | cons c rest ih =>
    have both : r.names.filter (keeps (c :: rest)) =
        (r.names.filter fun name => !c.removes name.1).filter (keeps rest) := by
      rw [List.filter_filter]
      refine List.filter_congr fun name _ => ?_
      simp [keeps, Bool.and_comm]
    rw [both]
    exact ((h.kept_isPrefix_perform c).filter (keeps rest)).trans (ih (h.perform c))

/-- Whatever calls are made on a registry that is empty at first, failed ones included: the
registry is sound, each further call leaves it as it was or has its one effect, and what no
further call removes stays in its order, before all that is registered later. -/
theorem performAll_isSound (calls : List Call) :
    (empty.performAll calls).IsSound ∧
    (∀ c : Call, c.ActsOn (empty.performAll calls)) ∧
    ∀ more : List Call,
      (empty.performAll calls).names.filter (keeps more) <+:
        (empty.performAll (calls ++ more)).names := by
  have sound := isSound_empty.performAll calls
  refine ⟨sound, sound.actsOn, fun more => ?_⟩
  rw [performAll_append]
  exact sound.kept_isPrefix more

-- The first attempt to make `b` the origin fails, and the second one comes after the removal.
example :
    (empty.performAll [.add "a" none none, .add "b" (some "x") none, .setRole "b" .origin,
      .add "c" none none, .remove "a", .setRole "b" .origin]).entries =
      [⟨"b", "x", .origin⟩, ⟨"c", "c", .join⟩] := rfl

end BoundSql.Registry
