import BoundSql.Proofs.Cutting

/-!
# Finished SQL is balanced

Whether every parenthesis in finished SQL has its partner. Where the given queries, columns and
lists of columns are balanced and names have no parentheses, finished SQL is balanced
(`Draft.isBalanced_of_renderedWithin`).

Whether a text is balanced depends on its parentheses alone (`Text.isBalanced_congr`). A list of
columns is cut at commas wherever they stand, also within parentheses, so that an item by itself
need not be balanced. The parentheses of all the items together are those of the list, in their
order, since neither commas and blanks nor the aliases put before the items are parentheses
(`Scope.flatMap_parentheses_listItems`).
-/

set_option autoImplicit false

namespace BoundSql

open Fragment (plain)

/-- Whether a character is a parenthesis. -/
def isParenthesis (c : Char) : Bool := c == '(' || c == ')'

/-- A class of characters that has neither parenthesis has none at all. -/
theorem isParenthesis_eq_false {p : Char → Bool} (opening : p '(' = false)
    (closing : p ')' = false) {c : Char} (h : p c = true) : isParenthesis c = false := by
  cases parenthesis : isParenthesis c with
  | false => rfl
  | true =>
    have which : c = '(' ∨ c = ')' := by simpa [isParenthesis] using parenthesis
    rcases which with rfl | rfl
    · rw [opening] at h
      cases h
    · rw [closing] at h
      cases h

/-! ## Balanced texts -/

namespace Text

/-- A word of keywords, signs and numbers has no parentheses. -/
theorem not_isParenthesis_of_word {t : Text} (h : t.all isWordChar = true) :
    ∀ c ∈ t, isParenthesis c = false := fun c hc =>
  isParenthesis_eq_false (by decide) (by decide) (List.all_eq_true.1 h c hc)

/-- The parentheses of a text, in order. -/
def parentheses (t : Text) : Text := t.filter isParenthesis

/-- Every parenthesis of a text has its partner. -/
structure IsBalanced (t : Text) : Prop where
  /-- Nothing is closed that has not been opened. -/
  opened : ∀ p, p <+: t → p.count ')' ≤ p.count '('
  /-- All that is opened is closed. -/
  closed : t.count '(' = t.count ')'

instance (t : Text) : Decidable t.IsBalanced :=
  decidable_of_iff ((∀ p ∈ t.inits, p.count ')' ≤ p.count '(') ∧ t.count '(' = t.count ')')
    ⟨fun h => ⟨fun p hp => h.1 p ((List.mem_inits p t).2 hp), h.2⟩,
      fun h => ⟨fun p hp => h.opened p ((List.mem_inits p t).1 hp), h.closed⟩⟩

variable {t u : Text}

/-- The parentheses of two texts follow one another. -/
@[simp] theorem parentheses_append (t u : Text) :
    (t ++ u).parentheses = t.parentheses ++ u.parentheses := List.filter_append t u

theorem parentheses_of_none (h : ∀ c ∈ t, isParenthesis c = false) : t.parentheses = [] :=
  List.filter_eq_nil_iff.2 fun c hc => by simp [h c hc]

/-- Each of the two parentheses occurs as often among the parentheses as in the whole text. -/
theorem count_parentheses {c : Char} (h : isParenthesis c = true) (t : Text) :
    t.parentheses.count c = t.count c := List.count_filter h

/-- A text is balanced when its parentheses by themselves are. -/
theorem isBalanced_parentheses : t.parentheses.IsBalanced ↔ t.IsBalanced := by
  have opening : ∀ p : Text, (parentheses p).count '(' = p.count '(' :=
    count_parentheses (by decide)
  have closing : ∀ p : Text, (parentheses p).count ')' = p.count ')' :=
    count_parentheses (by decide)
  constructor
  · intro h
    refine ⟨fun p hp => ?_, ?_⟩
    · rw [← opening, ← closing]
      exact h.opened (parentheses p) (hp.filter isParenthesis)
    · rw [← opening, ← closing]
      exact h.closed
  · intro h
    refine ⟨fun p hp => ?_, ?_⟩
    · -- A prefix of what is left is what is left of a prefix.
      obtain ⟨whole, hw, rfl⟩ := List.prefix_filter_iff.1 hp
      have counts := h.opened whole hw
      rw [← opening, ← closing] at counts
      exact counts
    · rw [opening, closing]
      exact h.closed

/-- Whether a text is balanced depends on its parentheses only. -/
theorem isBalanced_congr (h : t.parentheses = u.parentheses) : t.IsBalanced ↔ u.IsBalanced := by
  rw [← isBalanced_parentheses, h, isBalanced_parentheses]

theorem isBalanced_nil : IsBalanced [] := by decide

/-- A text without any is balanced. -/
theorem isBalanced_of_none (h : ∀ c ∈ t, isParenthesis c = false) : t.IsBalanced := by
  rw [← isBalanced_parentheses, parentheses_of_none h]
  exact isBalanced_nil

/-- Balanced texts side by side are balanced. -/
theorem IsBalanced.append (ht : t.IsBalanced) (hu : u.IsBalanced) : (t ++ u).IsBalanced := by
  refine ⟨fun p hp => ?_, ?_⟩
  · rcases List.prefix_or_prefix_of_prefix hp (List.prefix_append t u) with left | beyond
    · exact ht.opened p left
    · -- The prefix ends in the second text, and the first one adds as much on either side.
      obtain ⟨q, rfl⟩ := beyond
      have inner := hu.opened q ((List.prefix_append_right_inj t).1 hp)
      have outer := ht.closed
      rw [List.count_append, List.count_append]
      omega
  · rw [List.count_append, List.count_append, ht.closed, hu.closed]

/-- A balanced text in parentheses is balanced. -/
theorem IsBalanced.enclosed (h : t.IsBalanced) : IsBalanced ('(' :: (t ++ [')'])) := by
  refine ⟨fun p hp => ?_, ?_⟩
  · rcases List.prefix_cons_iff.1 hp with rfl | ⟨q, rfl, hq⟩
    · exact Nat.le_refl _
    · rcases List.prefix_concat_iff.1 hq with rfl | inner
      · have all := h.closed
        simp [List.count_append]
        omega
      · have counts := h.opened q inner
        simp
        omega
  · have all := h.closed
    simp [List.count_append]
    omega

/-- So are balanced texts in a row. -/
theorem isBalanced_flatten {parts : List Text} (h : ∀ part ∈ parts, part.IsBalanced) :
    IsBalanced parts.flatten := by
  induction parts with
  | nil => exact isBalanced_nil
  | cons part rest ih =>
    have later := ih fun p hp => h p (List.mem_cons_of_mem part hp)
    exact (h part List.mem_cons_self).append later

/-! ### Joining, trimming and cutting -/

/-- A separator without parentheses adds none. -/
theorem parentheses_joined {separator : Text} (hs : ∀ c ∈ separator, isParenthesis c = false)
    (parts : List Text) : (joined separator parts).parentheses = parts.flatMap parentheses := by
  induction parts with
  | nil => rfl
  | cons part rest ih =>
    cases rest with
    | nil => simp [joined]
    | cons next rest =>
      rw [joined, List.intercalate_cons_cons, parentheses_append, parentheses_append,
        parentheses_of_none hs, List.append_nil, ← joined, ih]
      rfl

/-- Blanks are no parentheses, and trimming takes only blanks away. -/
theorem parentheses_trim (t : Text) : t.trim.parentheses = t.parentheses := by
  obtain ⟨front, back, front_, back_, whole⟩ := exists_of_trim t
  have blanks : ∀ {u : Text}, (∀ c ∈ u, isBlank c = true) → u.parentheses = [] := fun blank =>
    parentheses_of_none fun c hc => isParenthesis_eq_false (by decide) (by decide) (blank c hc)
  have same := congrArg parentheses whole
  rw [parentheses_append, parentheses_append, blanks front_, blanks back_, List.nil_append,
    List.append_nil] at same
  exact same.symm

/-- The pieces between commas have the parentheses of the whole, in order. -/
theorem flatMap_parentheses_cutFrom (q : Quotes) (s : Span) (t : Text) :
    (cutFrom q ',' s t).flatMap parentheses = t.parentheses := by
  have comma : ∀ c ∈ [','], isParenthesis c = false := List.forall_mem_singleton.2 rfl
  rw [← parentheses_joined comma, joined_cutFrom]

end Text

/-! ## Balanced names and lists -/

/-- What a lexicon writes of its own accord has no parentheses. -/
structure Lexicon.WritesNoParentheses (lex : Lexicon) : Prop where
  field : isParenthesis lex.quotes.field = false
  value : isParenthesis lex.quotes.value = false
  separator : isParenthesis lex.separator = false

/-- Whether a given text keeps finished SQL balanced. A query, a column or a list of columns has
to be balanced, and a name or a table reference has to be without parentheses. -/
def Text.KeepsBalance (use : TextUse) (t : Text) : Prop :=
  if use = .sql then t.IsBalanced else ∀ c ∈ t, isParenthesis c = false

theorem Text.KeepsBalance.isBalanced {use : TextUse} {t : Text} (h : t.KeepsBalance use) :
    t.IsBalanced := by
  cases use with
  | sql => exact h
  | name => exact Text.isBalanced_of_none h
  | reference => exact Text.isBalanced_of_none h

/-- The rule that given texts keep finished SQL balanced. -/
def TextRule.balancing (lex : Lexicon) : TextRule lex where
  Holds := Text.KeepsBalance
  table t h := fun c hc => h c ((lex.mem_splitTable t).1 c hc)
  aliasName t a h ha := fun c hc => h c ((lex.mem_splitTable t).2 a ha c hc)

/-- Under the rule every text is balanced, in whatever use. -/
theorem TextRule.isBalanced_of_balancing {lex : Lexicon} {use : TextUse} {t : Text}
    (h : (TextRule.balancing lex).Holds use t) : t.IsBalanced :=
  Text.KeepsBalance.isBalanced h

namespace Lexicon

variable {lex : Lexicon}

/-- The items of a text have the parentheses of the text, in order. -/
theorem flatMap_parentheses_items (lex : Lexicon) (t : Text) :
    (lex.items t).flatMap Text.parentheses = t.parentheses := by
  rw [← Text.flatMap_parentheses_cutFrom lex.quotes .plain t, items, List.flatMap_map]
  exact List.flatMap_congr fun piece _ => piece.parentheses_trim

variable (none_ : lex.WritesNoParentheses)
include none_

/-- Doubled quotes bring no parentheses in. -/
theorem parentheses_doubled (t : Text) :
    (doubled lex.quotes.field t).parentheses = t.parentheses := by
  induction t with
  | nil => rfl
  | cons c rest ih =>
    rw [doubled]
    split
    · rename_i quote
      simp only [Text.parentheses, List.filter_cons, quote, none_.field] at ih ⊢
      exact ih
    · simp only [Text.parentheses, List.filter_cons] at ih ⊢
      rw [ih]

/-- Nor do the quotes around a name. -/
theorem parentheses_quoteName (t : Text) : (lex.quoteName t).parentheses = t.parentheses := by
  have quote : ∀ c ∈ [lex.quotes.field], isParenthesis c = false := by
    intro c hc
    rw [List.mem_singleton.1 hc]
    exact none_.field
  have split_ : lex.quoteName t =
      [lex.quotes.field] ++ doubled lex.quotes.field t ++ [lex.quotes.field] := rfl
  rw [split_, Text.parentheses_append, Text.parentheses_append, Text.parentheses_of_none quote,
    parentheses_doubled none_, List.nil_append, List.append_nil]

theorem parentheses_ensureQuoted (t : Text) :
    (lex.ensureQuoted t).parentheses = t.parentheses := by
  rw [ensureQuoted]
  split
  · rfl
  · exact parentheses_quoteName none_ t

theorem parentheses_behind_separator (a t : Text) :
    Text.parentheses (a ++ lex.separator :: t) = a.parentheses ++ t.parentheses := by
  rw [Text.parentheses_append]
  simp [Text.parentheses, none_.separator]

/-- Qualifying a column adds no parentheses to those of the alias and the column. -/
theorem parentheses_qualify (a t : Text) :
    (lex.qualify a t).parentheses = a.parentheses ++ t.parentheses := by
  rw [qualify]
  split
  · rw [parentheses_behind_separator none_, parentheses_ensureQuoted none_,
      parentheses_ensureQuoted none_]
  · exact parentheses_behind_separator none_ a t

end Lexicon

section Lists

variable {lex : Lexicon} {scope : Scope}

theorem Scope.parentheses_listItem (none_ : lex.WritesNoParentheses)
    (covers : (TextRule.balancing lex).CoversScope scope) (item : Text) :
    (scope.listItem item).parentheses = item.parentheses := by
  rw [listItem]
  split
  · rename_i a ha
    split
    · have name : a.parentheses = [] := Text.parentheses_of_none (covers.originAlias a ha)
      rw [covers.lexicon, Lexicon.parentheses_behind_separator none_, name, List.nil_append]
    · rfl
  · rfl

/-- The items of listed columns have the parentheses of the columns, in order: an item that is
left out is empty, and what is put before an item has none. -/
theorem Scope.flatMap_parentheses_listItems (none_ : lex.WritesNoParentheses)
    (covers : (TextRule.balancing lex).CoversScope scope) (columns : List Text) :
    (scope.listItems columns).flatMap Text.parentheses = Text.parentheses columns.flatten := by
  have kept : ∀ items : List Text, ((items.filter fun item => !item.isEmpty).map
      scope.listItem).flatMap Text.parentheses = items.flatMap Text.parentheses := by
    intro items
    induction items with
    | nil => rfl
    | cons item rest ih =>
      cases item with
      -- An item that is dropped had no parentheses to lose.
      | nil => exact ih
      | cons c text =>
        have first := parentheses_listItem none_ covers (c :: text)
        simp only [List.filter_cons, List.isEmpty_cons, Bool.not_false, if_true, List.map_cons,
          List.flatMap_cons, first, ih]
  rw [listItems, kept]
  induction columns with
  | nil => rfl
  | cons column rest ih =>
    rw [List.flatMap_cons, List.flatMap_append, ih, Lexicon.flatMap_parentheses_items,
      List.flatten_cons, Text.parentheses_append]

theorem Scope.isBalanced_joined_listItems (none_ : lex.WritesNoParentheses)
    (covers : (TextRule.balancing lex).CoversScope scope) {columns : List Text}
    (h : ∀ t ∈ columns, t.IsBalanced) :
    (Text.joined ", " (scope.listItems columns)).IsBalanced := by
  have comma : ∀ c ∈ (", " : Text), isParenthesis c = false :=
    Text.not_isParenthesis_of_word (by decide)
  have same : (Text.joined ", " (scope.listItems columns)).parentheses =
      Text.parentheses columns.flatten := by
    rw [Text.parentheses_joined comma, flatMap_parentheses_listItems none_ covers]
  exact (Text.isBalanced_congr same).2 (Text.isBalanced_flatten h)

end Lists

/-! ## Balanced fragments -/

/-- A mark has no parentheses in any style. -/
theorem Placeholder.not_isParenthesis_of_mem_token (style : Placeholder) (index : Nat) :
    ∀ c ∈ style.token index, isParenthesis c = false := by
  intro c hc
  cases style with
  | question =>
    rw [List.mem_singleton.1 hc]
    decide
  | format =>
    rcases List.mem_pair.1 hc with rfl | rfl
    · decide
    · decide
  | numbered =>
    rcases List.mem_cons.1 hc with rfl | hc
    · decide
    · exact Text.not_isParenthesis_of_word (Text.ofNat_isWord index) c hc

namespace Fragment

/-- The SQL of a fragment is balanced, whatever marks stand in it. -/
def IsBalanced (f : Fragment) : Prop := ∀ style prior, (f.sql style prior).IsBalanced

/-- A balanced text is a balanced fragment. -/
theorem isBalanced_plain {t : Text} (h : t.IsBalanced) : IsBalanced (plain t) := by
  intro style prior
  rw [sql_plain]
  exact h

variable {f g : Fragment}

theorem IsBalanced.append (hf : IsBalanced f) (hg : IsBalanced g) : IsBalanced (f ++ g) := by
  intro style prior
  rw [sql_append]
  exact (hf style prior).append (hg style _)

/-- The parentheses around a fragment stand around its SQL. -/
theorem sql_parenthesized (style : Placeholder) (prior : Nat) (f : Fragment) :
    f.parenthesized.sql style prior = '(' :: (f.sql style prior ++ [')']) := by
  rw [parenthesized, sql_append, sql_append, sql_plain, sql_plain, values_plain]
  rfl

theorem IsBalanced.parenthesized (h : IsBalanced f) : IsBalanced f.parenthesized := by
  intro style prior
  rw [sql_parenthesized]
  exact (h style prior).enclosed

end Fragment

/-- What is assembled of texts that keep the balance is balanced. -/
theorem Assembled.isBalanced {lex : Lexicon} (none_ : lex.WritesNoParentheses)
    {ps : List Ingredient} {f : Fragment} (h : Assembled (.balancing lex) ps f) :
    f.IsBalanced := by
  induction h with
  | word chars =>
    have none_ := Text.not_isParenthesis_of_word chars
    exact Fragment.isBalanced_plain (Text.isBalanced_of_none none_)
  | emptyString =>
    refine Fragment.isBalanced_plain (Text.isBalanced_of_none fun c hc => ?_)
    rcases List.mem_pair.1 hc with rfl | rfl
    · exact none_.value
    · exact none_.value
  | given holds => exact Fragment.isBalanced_plain (TextRule.isBalanced_of_balancing holds)
  | @quoted t holds =>
    have same := Lexicon.parentheses_quoteName none_ t
    have name : t.IsBalanced := TextRule.isBalanced_of_balancing holds
    exact Fragment.isBalanced_plain ((Text.isBalanced_congr same).2 name)
  | @qualified a t alias_ column =>
    have same : (lex.qualify a t).parentheses = Text.parentheses (a ++ t) := by
      rw [Lexicon.parentheses_qualify none_, Text.parentheses_append]
    have name : a.IsBalanced := TextRule.isBalanced_of_balancing alias_
    have both := name.append (TextRule.isBalanced_of_balancing column)
    exact Fragment.isBalanced_plain ((Text.isBalanced_congr same).2 both)
  | listed covers holds =>
    -- The items need not be balanced one by one, where a call was cut within its parentheses.
    have columns := Scope.isBalanced_joined_listItems none_ covers
      fun t ht => TextRule.isBalanced_of_balancing (holds t ht)
    exact Fragment.isBalanced_plain columns
  | slot v =>
    intro style prior
    have token : Fragment.sql style prior [.slot v] = style.token (prior + 1) := List.append_nil _
    rw [token]
    exact Text.isBalanced_of_none (style.not_isParenthesis_of_mem_token _)
  | nested _ _ ih => exact ih
  | enclosed _ ih => exact ih.parenthesized
  | spaced word _ _ ihl ihr =>
    have glue := Text.not_isParenthesis_of_word (Bool.and_eq_true_iff.1 word).1
    have between := Fragment.isBalanced_plain (Text.isBalanced_of_none glue)
    exact (ihl.append between).append ihr

/-! ## Finished SQL -/

namespace Draft

/-- Every text that goes into the SQL of the draft keeps it balanced. -/
def KeepsBalance (d : Draft) : Prop :=
  ∀ use t, Ingredient.text use t ∈ d.ingredients → t.KeepsBalance use

/-- A draft keeps its SQL balanced if everything that it is built of does, in whatever dialect it
is built. -/
theorem keepsBalance_run (own : Dialect) {steps : List Step}
    (given : ∀ step ∈ steps, ∀ use t, Ingredient.text use t ∈ step.ingredients →
      t.KeepsBalance use) :
    ((ofDialect own).run steps).1.KeepsBalance := by
  have splits : (TextRule.balancing own.toLexicon).Splits own.toLexicon := fun t holds =>
    ⟨(TextRule.balancing own.toLexicon).table t holds,
      fun a ha => (TextRule.balancing own.toLexicon).aliasName t a holds ha⟩
  exact (covers_run (coveredBy_ofDialect own) splits given).ingredients

/-- Finished SQL is balanced, in every dialect that writes no parentheses of its own accord, with
marks of any style and behind any bound values. -/
theorem isBalanced_of_renderedWithin (d : Draft) (dialect : Dialect) (prior : List Value)
    {r : Rendered} (none_ : dialect.toLexicon.WritesNoParentheses) (texts : d.KeepsBalance)
    (ok : d.renderedWithin dialect prior = .ok r) : r.sql.IsBalanced := by
  cases hf : d.render dialect.toLexicon with
  | error fault =>
    rw [renderedWithin_of_error hf] at ok
    cases ok
  | ok f =>
    rw [renderedWithin_of_ok hf] at ok
    cases ok
    have covers : (TextRule.balancing dialect.toLexicon).Covers d.ingredients := texts
    have assembled := d.yields_assembled covers f hf
    exact assembled.isBalanced none_ dialect.placeholder prior.length

/-- Users by a call that is cut within its parentheses, with a query as the only item of a list
and with one of two filters enclosed. -/
def listedUsers : List Step :=
  [.select ["COALESCE(nick, name), id"], .source (.table (.raw "users u")),
    .filter ((Condition.ofColumn "id").isIn (.list [.query (.text "SELECT id FROM (paid)")])),
    .filter ((((Condition.ofColumn "kind").equals (.value (.text ":)"))).or "kind").isNull)]

/-- The call is cut at its comma and each piece is qualified, and the SQL is balanced all the same.
The parenthesis in the bound text does not get into it. -/
theorem isBalanced_of_listedUsers :
    ∃ r, ((ofDialect .postgres).run listedUsers).1.renderedWithin .postgres [] = .ok r ∧
      r.sql = ("SELECT u.COALESCE(nick, u.name), u.id FROM users u " ++
        "WHERE u.id IN (SELECT id FROM (paid)) AND (u.kind = %s OR u.kind IS NULL)").toList ∧
      r.sql.IsBalanced := by
  let d := ((ofDialect .postgres).run listedUsers).1
  have texts : d.KeepsBalance := by
    -- The text `:)` is bound and not written, and nothing is asked of it.
    apply keepsBalance_run
    intro step member use t given
    simp only [listedUsers, List.mem_cons, List.not_mem_nil, or_false] at member
    rcases member with rfl | rfl | rfl | rfl
    · obtain ⟨rfl, rfl⟩ := by simpa [Step.ingredients] using given
      show Text.IsBalanced _
      decide
    · obtain ⟨rfl, rfl⟩ := by simpa [Step.ingredients, TableRef.ingredients] using given
      show ∀ c ∈ ("users u" : Text), isParenthesis c = false
      exact Text.not_isParenthesis_of_word (by decide)
    · have given : Ingredient.text use t ∈
        [.text .sql "id", .text .sql "SELECT id FROM (paid)"] := given
      simp only [List.mem_cons, Ingredient.text.injEq, List.not_mem_nil, or_false] at given
      rcases given with ⟨rfl, rfl⟩ | ⟨rfl, rfl⟩
      · show Text.IsBalanced _
        decide
      · show Text.IsBalanced _
        decide
    · have given : Ingredient.text use t ∈
        [.text .sql "kind", .value (.text ":)"), .text .sql "kind"] := given
      simp only [List.mem_cons, Ingredient.text.injEq, reduceCtorEq, List.not_mem_nil, or_false,
        false_or, or_self] at given
      obtain ⟨rfl, rfl⟩ := given
      show Text.IsBalanced _
      decide
  have none_ : Dialect.postgres.toLexicon.WritesNoParentheses := ⟨rfl, rfl, rfl⟩
  have sql : (d.renderedWithin .postgres []).toOption.map Rendered.sql =
      some ("SELECT u.COALESCE(nick, u.name), u.id FROM users u " ++
        "WHERE u.id IN (SELECT id FROM (paid)) AND (u.kind = %s OR u.kind IS NULL)").toList := by
    decide +kernel
  cases ok : d.renderedWithin .postgres [] with
  | error fault =>
    rw [ok] at sql
    cases sql
  | ok r =>
    rw [ok] at sql
    have balanced := isBalanced_of_renderedWithin d .postgres [] none_ texts ok
    exact ⟨r, rfl, Option.some.inj sql, balanced⟩

end Draft

end BoundSql
