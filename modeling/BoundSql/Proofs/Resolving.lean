import BoundSql.Proofs.Entries

/-!
# Tables by their names and by their aliases

A column may be given with the table to which it belongs, by the name or by the alias of the table.
Whichever it is, it is looked up among the names of the registered tables. A name always leads to
the alias. An alias leads to itself, unless it is the name of another table as well: tables are
distinct and aliases are distinct, but the two may meet, and then the other table is found
(`Registry.resolve_either`).
-/

set_option autoImplicit false

namespace BoundSql.Registry

variable {r : Registry} {e other : TableEntry}

/-- No other table has the alias of an entry for its name. -/
def KeepsAlias (r : Registry) (e : TableEntry) : Prop :=
  ∀ other ∈ r.entries, other.table = e.aliasName → other = e

instance : Decidable (r.KeepsAlias e) :=
  inferInstanceAs (Decidable (∀ other ∈ r.entries, other.table = e.aliasName → other = e))

/-- The name of a registered table leads to its alias. -/
theorem IsSound.resolve_table (h : r.IsSound) (known : e ∈ r.entries) :
    r.resolve e.table = e.aliasName := by
  have found : r.find? e.table = some e := h.find?_eq_some_iff.2 ⟨known, rfl⟩
  rw [resolve, aliasOf?, found]
  rfl

/-- A name that is not the name of a registered table stays as it is. -/
theorem resolve_of_unknown {name : Text} (unknown : ∀ other ∈ r.entries, other.table ≠ name) :
    r.resolve name = name := by
  have absent : r.find? name = none := by
    apply List.find?_eq_none.2
    intro other known
    simpa using unknown other known
  rw [resolve, aliasOf?, absent]
  rfl

/-- An alias that is also the name of a registered table leads to the alias of that table. -/
theorem IsSound.resolve_alias (h : r.IsSound) (known : other ∈ r.entries)
    (named : other.table = e.aliasName) : r.resolve e.aliasName = other.aliasName := by
  rw [← named]
  exact h.resolve_table known

/-- An alias leads to itself just when no other table has it for its name. -/
theorem IsSound.resolve_alias_iff (h : r.IsSound) (known : e ∈ r.entries) :
    r.resolve e.aliasName = e.aliasName ↔ r.KeepsAlias e := by
  constructor
  · intro itself other known' named
    have same : other.aliasName = e.aliasName := by
      rw [← h.resolve_alias known' named]
      exact itself
    exact List.inj_on_of_nodup_map h.aliases known' known same
  · intro keeps
    by_cases taken : ∃ other ∈ r.entries, other.table = e.aliasName
    · obtain ⟨other, known', named⟩ := taken
      rw [h.resolve_alias known' named, keeps other known' named]
    · apply resolve_of_unknown
      intro other known' named
      exact taken ⟨other, known', named⟩

/-- Where the name and the alias of a table lead to the same alias, they qualify every column in
the same way. -/
theorem column_congr {scope : Scope} {a b : Text}
    (same : scope.tables.resolve a = scope.tables.resolve b) (position : Position) (name : Text) :
    scope.column position name (some a) = scope.column position name (some b) := by
  show scope.lexicon.qualify (scope.tables.resolve a) name = _
  rw [same]
  rfl

/-- In whatever registry comes about by calls, failed ones included: the name of each registered
table leads to its alias. Its alias leads to itself just when no other table has it for its name,
and else to the alias of that other table. As long as none has, columns are qualified alike with
the name and with the alias. -/
theorem resolve_either (calls : List Call) {e : TableEntry}
    (known : e ∈ (empty.performAll calls).entries) :
    (empty.performAll calls).resolve e.table = e.aliasName ∧
      ((empty.performAll calls).resolve e.aliasName = e.aliasName ↔
        (empty.performAll calls).KeepsAlias e) ∧
      (∀ other ∈ (empty.performAll calls).entries, other.table = e.aliasName →
        (empty.performAll calls).resolve e.aliasName = other.aliasName) ∧
      ((empty.performAll calls).KeepsAlias e → ∀ scope : Scope,
        scope.tables = empty.performAll calls → ∀ position name,
          scope.column position name (some e.table) =
            scope.column position name (some e.aliasName)) := by
  have sound := isSound_empty.performAll calls
  have byName := sound.resolve_table known
  have byAlias := sound.resolve_alias_iff known
  refine ⟨byName, byAlias, fun other => sound.resolve_alias, fun keeps scope is position name => ?_⟩
  have same : scope.tables.resolve e.table = scope.tables.resolve e.aliasName := by
    rw [is, byName, byAlias.2 keeps]
  exact column_congr same position name

/-- Of two tables that are called by one letter each, the second keeps its alias although the
alias of the first is its name. -/
theorem resolve_either_of_letters :
    ∃ e ∈ (empty.performAll [.add "a" (some "b") none, .add "b" (some "c") none]).entries,
      e.aliasName = "c" ∧
        (empty.performAll [.add "a" (some "b") none, .add "b" (some "c") none]).resolve
          e.aliasName = e.aliasName := by
  have known : (⟨"b", "c", .join⟩ : TableEntry) ∈
      (empty.performAll [.add "a" (some "b") none, .add "b" (some "c") none]).entries := by decide
  have either := resolve_either [.add "a" (some "b") none, .add "b" (some "c") none] known
  exact ⟨⟨"b", "c", .join⟩, known, rfl, either.2.1.2 (by decide)⟩

/-- The alias of the first of two tables is the name of the second, and leads to the alias of the
second. A column of the first table that is given with its alias is taken for one of the other. -/
theorem alias_leads_astray :
    ∃ calls : List Call, ∃ e ∈ (empty.performAll calls).entries,
      (empty.performAll calls).resolve e.aliasName ≠ e.aliasName ∧
        ∃ scope : Scope, scope.tables = empty.performAll calls ∧
          scope.column .source "id" (some e.table) = "b.id" ∧
          scope.column .source "id" (some e.aliasName) = "c.id" := by
  refine ⟨[.add "a" (some "b") none, .add "b" (some "c") none], ⟨"a", "b", .origin⟩, by decide,
    by decide, .ofStatement Dialect.generic.toLexicon
      (empty.performAll [.add "a" (some "b") none, .add "b" (some "c") none]), rfl, ?_, ?_⟩
  · decide
  · decide

end BoundSql.Registry
