import BoundSql.Proofs.Ingredients

/-!
# Rules for given texts

What is known of the texts that are given for a statement is a rule: it says of each
text, by what the text is for, whether it obeys. A scope is covered by a rule when all
the aliases that it may write obey. Scopes are made only from registries and from the
tables that joins declare, and so a rule for the ingredients of a statement covers
every scope within it.
-/

set_option autoImplicit false

namespace BoundSql

/-- A rule for given texts. A table reference that obeys it has parts that do. -/
structure TextRule (lex : Lexicon) where
  Holds : TextUse → Text → Prop
  table : ∀ t, Holds .reference t → Holds .name (lex.splitTable t).1
  aliasName : ∀ t a, Holds .reference t → (lex.splitTable t).2 = some a → Holds .name a

namespace TextRule

/-- The rule that every text obeys. -/
def any (lex : Lexicon) : TextRule lex where
  Holds _ _ := True
  table _ _ := trivial
  aliasName _ _ _ _ := trivial

variable {lex : Lexicon} (rule : TextRule lex)

/-- Every text among some ingredients obeys the rule. -/
def Covers (ingredients : List Ingredient) : Prop :=
  ∀ use t, Ingredient.text use t ∈ ingredients → rule.Holds use t

/-- A scope over the lexicon of the rule in which every alias obeys the rule. -/
structure CoversScope (scope : Scope) : Prop where
  lexicon : scope.lexicon = lex
  tables : ∀ e ∈ scope.tables.entries, rule.Holds .name e.aliasName
  source : ∀ a, scope.source = some a → rule.Holds .name a
  destination : ∀ a, scope.destination = some a → rule.Holds .name a

variable {rule}

/-- A rule covers two lists of ingredients if it covers both. -/
@[simp] theorem covers_append {ps qs : List Ingredient} :
    rule.Covers (ps ++ qs) ↔ rule.Covers ps ∧ rule.Covers qs := by
  constructor
  · intro h
    exact ⟨fun use t ht => h use t (List.mem_append_left _ ht),
      fun use t ht => h use t (List.mem_append_right _ ht)⟩
  · rintro ⟨hp, hq⟩ use t ht
    rcases List.mem_append.1 ht with ht | ht
    · exact hp use t ht
    · exact hq use t ht

/-- A text is covered if the rule holds for it in its use. -/
@[simp] theorem covers_text {use : TextUse} {t : Text} {ps : List Ingredient} :
    rule.Covers (.text use t :: ps) ↔ rule.Holds use t ∧ rule.Covers ps := by
  constructor
  · intro h
    exact ⟨h use t List.mem_cons_self, fun use t ht => h use t (List.mem_cons_of_mem _ ht)⟩
  · rintro ⟨h, hp⟩ use' t' ht
    rcases List.mem_cons.1 ht with ht | ht
    · cases ht
      exact h
    · exact hp use' t' ht

/-- A draft among the ingredients has texts of its own and asks nothing of the rule. -/
@[simp] theorem covers_draft {d : Draft} {ps : List Ingredient} :
    rule.Covers (.draft d :: ps) ↔ rule.Covers ps := by
  simp [Covers]

/-- Texts of one use are covered one by one. -/
@[simp] theorem covers_map_text {use : TextUse} {texts : List Text} :
    rule.Covers (texts.map (.text use)) ↔ ∀ t ∈ texts, rule.Holds use t := by
  induction texts with
  | nil => simp [Covers]
  | cons t rest ih => simp [ih]

/-- The aliases of the tables are names, and a covered registry has them under the rule. -/
theorem holds_of_mem_entries {r : Registry} (h : rule.Covers r.ingredients) :
    ∀ e ∈ r.entries, rule.Holds .name e.aliasName :=
  fun e he => h .name e.aliasName (List.mem_map.2 ⟨e, he, rfl⟩)

end TextRule

/-! ## The aliases that a scope writes -/

namespace Registry

/-- The alias of the origin is the alias of some entry. -/
theorem exists_of_originAlias? {r : Registry} {a : Text} (h : r.originAlias? = some a) :
    ∃ e ∈ r.entries, e.aliasName = a := by
  obtain ⟨e, he, rfl⟩ := Option.map_eq_some_iff.1 h
  exact ⟨e, List.mem_of_find?_eq_some he, rfl⟩

/-- So is the alias of the first joined table. -/
theorem exists_of_joinAlias? {r : Registry} {a : Text} (h : r.joinAlias? = some a) :
    ∃ e ∈ r.entries, e.aliasName = a := by
  obtain ⟨e, he, rfl⟩ := Option.map_eq_some_iff.1 h
  exact ⟨e, (List.mem_filter.1 (List.mem_of_head? he)).1, rfl⟩

/-- So is the alias that is found for a table. -/
theorem exists_of_aliasOf? {r : Registry} {table a : Text} (h : r.aliasOf? table = some a) :
    ∃ e ∈ r.entries, e.aliasName = a := by
  obtain ⟨e, he, rfl⟩ := Option.map_eq_some_iff.1 h
  exact ⟨e, List.mem_of_find?_eq_some he, rfl⟩

end Registry

namespace TextRule

variable {lex : Lexicon} {rule : TextRule lex}

/-- The scope of a statement takes its names from the registry, and they are covered there. -/
theorem coversScope_ofStatement {r : Registry} (h : rule.Covers r.ingredients) :
    rule.CoversScope (.ofStatement lex r) where
  lexicon := rfl
  tables := holds_of_mem_entries h
  source a ha := by
    obtain ⟨e, he, rfl⟩ := Registry.exists_of_originAlias? ha
    exact holds_of_mem_entries h e he
  destination a ha := by
    obtain ⟨e, he, rfl⟩ := Registry.exists_of_joinAlias? ha
    exact holds_of_mem_entries h e he

namespace CoversScope

variable {scope : Scope} (h : rule.CoversScope scope)
include h

theorem originAlias (a : Text) (ha : scope.tables.originAlias? = some a) :
    rule.Holds .name a := by
  obtain ⟨e, he, rfl⟩ := Registry.exists_of_originAlias? ha
  exact h.tables e he

/-- In a join the joined alias is the default, and it has to be covered as well. -/
theorem forJoin {joined : Text} (hj : rule.Holds .name joined) :
    rule.CoversScope (scope.forJoin joined) where
  lexicon := h.lexicon
  tables := h.tables
  source a ha := by
    cases ha
    exact hj
  destination := h.originAlias

/-- The default alias at either side is under the rule. -/
theorem defaultAlias {position : Position} {a : Text}
    (ha : scope.defaultAlias position = some a) : rule.Holds .name a := by
  -- Each side has an alias of its own.
  cases position with
  | source => exact h.source a ha
  | destination => exact h.destination a ha

/-- A qualifier is looked up among names under the rule, or stays as it is. -/
theorem resolve {name : Text} (hn : rule.Holds .name name) :
    rule.Holds .name (scope.tables.resolve name) := by
  rw [Registry.resolve]
  cases ha : scope.tables.aliasOf? name with
  | none => exact hn
  | some a =>
    obtain ⟨e, he, rfl⟩ := Registry.exists_of_aliasOf? ha
    exact h.tables e he

/-- Both texts that a join declares obey the rule if its table reference does. -/
theorem declared {ref : TableRef} (hr : rule.Covers ref.ingredients) :
    rule.Holds .name (ref.declared scope).1 ∧ rule.Holds .name (ref.declared scope).2 := by
  obtain ⟨htable, hgiven⟩ : rule.Holds .name (ref.split scope.lexicon).1 ∧
      ∀ a, (ref.split scope.lexicon).2 = some a → rule.Holds .name a := by
    cases ref with
    | raw text =>
      have ht : rule.Holds .reference text := hr _ _ List.mem_cons_self
      rw [h.lexicon]
      exact ⟨rule.table text ht, fun a ha => rule.aliasName text a ht ha⟩
    | aliased table aliasName =>
      simp only [TableRef.ingredients, covers_text] at hr
      exact ⟨hr.1, fun a ha => by cases ha; exact hr.2.1⟩
  refine ⟨htable, ?_⟩
  show rule.Holds .name (((ref.split scope.lexicon).2 <|>
    scope.tables.aliasOf? (ref.split scope.lexicon).1).getD (ref.split scope.lexicon).1)
  cases hg : (ref.split scope.lexicon).2 with
  | some a => exact hgiven a hg
  | none =>
    -- Without an alias of its own the table goes by the registered one, or by its name.
    cases ha : scope.tables.aliasOf? (ref.split scope.lexicon).1 with
    | none => exact htable
    | some a =>
      obtain ⟨e, he, rfl⟩ := Registry.exists_of_aliasOf? ha
      exact h.tables e he

end CoversScope

end TextRule

end BoundSql
