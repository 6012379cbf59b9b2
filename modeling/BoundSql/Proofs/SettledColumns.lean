import BoundSql.Proofs.QualifiedNames
import Mathlib.Data.List.DropRight

/-!
# Columns are qualified once

What is written for a column is a column text again, and may be given again. It stays as it is. An
item of a list that was put behind an alias is qualified to whoever reads it afresh, since neither
the alias nor the separator leaves a quote open before the column; all other items are left alone,
as they were before (`Scope.listItems_of_settled`, `Scope.isSettled_of_mem_listItems`). A column of
a comparison that was put behind its qualifier has an unquoted separator, whether the names around
it are quoted or not (`Lexicon.isQualified_qualify`). So no column is qualified twice
(`Scope.column_qualified_once`).

A column without a character is the exception: of it only the qualifier and the separator are
written, and a separator at the end qualifies nothing.
-/

set_option autoImplicit false

namespace BoundSql

/-! ## Trimmed texts -/

namespace Text

/-- The text has no blank at either end. -/
structure IsTrimmed (t : Text) : Prop where
  first : ∀ c, t.head? = some c → isBlank c = false
  last : ∀ c, t.getLast? = some c → isBlank c = false

variable {q : Quotes} {mark : Char} {t : Text}

theorem IsTrimmed.trim_eq (h : t.IsTrimmed) : t.trim = t := by
  have start : t.trimStart = t := by
    cases t with
    | nil => rfl
    | cons c rest => exact List.dropWhile_cons_of_neg (by simp [h.first c rfl])
  have end_ : t.trimEnd = t := by
    apply List.rdropWhile_eq_self_iff.2
    intro written
    simp [h.last _ (List.getLast?_eq_some_getLast written)]
  rw [trim, start, end_]

theorem isTrimmed_trim (t : Text) : t.trim.IsTrimmed where
  first := by
    intro c first
    -- What is taken away at the end leaves the beginning as it is.
    obtain ⟨back, start⟩ : t.trim <+: t.trimStart := List.rdropWhile_prefix isBlank t.trimStart
    have first' : t.trimStart.head? = some c := by
      rw [← start, List.head?_append, first]
      rfl
    have visible := List.head?_dropWhile_not isBlank t
    rw [← trimStart, first'] at visible
    exact visible
  last := by
    intro c last
    have written : t.trim ≠ [] := by
      rintro empty
      rw [empty] at last
      cases last
    have visible : ¬ isBlank (t.trim.getLast written) = true :=
      List.rdropWhile_last_not isBlank t.trimStart written
    rw [List.getLast?_eq_some_getLast written] at last
    rw [← Option.some.inj last]
    simpa using visible

/-- Blanks that are no quotes hide nothing, so that what is unquoted in a trimmed text is unquoted
in the text. -/
theorem mem_plainChars_of_trim (blanks : ∀ c, q.has c → isBlank c = false)
    (h : mark ∈ t.trim.plainChars q) : mark ∈ t.plainChars q := by
  obtain ⟨front, back, front_, -, whole⟩ := exists_of_trim t
  have unquoted : ∀ c ∈ front, ¬ q.has c := by
    intro c hc quote
    have visible := blanks c quote
    rw [front_ c hc] at visible
    cases visible
  rw [plainChars_eq] at h
  rw [plainChars_eq, whole, unquotedFrom_append, unquotedFrom_append,
    openAfter_of_not_has unquoted]
  exact List.mem_append_right _ (List.mem_append_left _ h)

end Text

/-! ## Qualified texts -/

namespace Lexicon

variable {lex : Lexicon} {qualifier column : Text}

/-- A separator behind a closed text and before a character qualifies what follows it. -/
theorem isQualified_append_cons (apart : ¬ lex.quotes.has lex.separator)
    (closed : qualifier.isClosed lex.quotes = true) (written : column ≠ []) :
    lex.isQualified (qualifier ++ lex.separator :: column) = true := by
  have label := Span.label_of_not_has (s := .plain) apart
  have next := Span.next_of_not_has (s := .plain) apart
  have spans : (qualifier ++ lex.separator :: column).spans lex.quotes =
      qualifier.spans lex.quotes ++ .plain :: column.spans lex.quotes := by
    rw [Text.spans, Text.spansFrom_append, Text.isClosed_iff.1 closed, Text.spansFrom, label, next]
    rfl
  have same : qualifier.length = (qualifier.spans lex.quotes).length :=
    (Text.length_spansFrom _ _ _).symm
  -- The column has a last character, and so the separator is not the last one.
  have behind : column.zip (column.spans lex.quotes) ≠ [] := by
    intro none_
    have length := congrArg List.length none_
    rw [List.length_zip, Text.spans, Text.length_spansFrom, Nat.min_self] at length
    exact written (List.length_eq_zero_iff.1 length)
  rw [isQualified, spans, List.zip_append same, List.zip_cons_cons,
    List.dropLast_append_of_ne_nil (List.cons_ne_nil _ _), List.dropLast_cons_of_ne_nil behind]
  simp

theorem length_le_ensureQuoted (lex : Lexicon) (name : Text) :
    name.length ≤ (lex.ensureQuoted name).length := by
  rw [ensureQuoted]
  split
  · exact Nat.le_refl _
  · have longer := length_le_doubled lex.quotes.field name
    rw [quoteName, List.length_cons, List.length_append]
    omega

/-- A column behind its qualifier is qualified, unless it has no character. The qualifier closes
its quotes: it is quoted as a whole, or it has no reserved character and so no quote. -/
theorem isQualified_qualify (apart : ¬ lex.quotes.has lex.separator)
    (reserved : ∀ c, lex.quotes.has c → c ∈ lex.reserved)
    (noQuotes : lex.isQuotedName qualifier = false) (written : column ≠ []) :
    lex.isQualified (lex.qualify qualifier column) = true := by
  rw [qualify]
  split
  · have closed : (lex.ensureQuoted qualifier).isClosed lex.quotes = true := by
      rw [ensureQuoted, noQuotes]
      exact lex.isClosed_quoteName qualifier
    have written' : lex.ensureQuoted column ≠ [] := by
      have longer := lex.length_le_ensureQuoted column
      have some_ := List.length_pos_of_ne_nil written
      exact List.ne_nil_of_length_pos (Nat.lt_of_lt_of_le some_ longer)
    exact isQualified_append_cons apart closed written'
  · rename_i fits
    have closed : qualifier.isClosed lex.quotes = true := by
      apply Text.isClosed_of_not_has
      intro c hc quote
      apply fits
      rw [needsQuotes, noQuotes, Bool.or_eq_true]
      exact .inl (List.any_eq_true.2 ⟨c, hc, by simpa using reserved c quote⟩)
    exact isQualified_append_cons apart closed written

end Lexicon

/-! ## Items of lists -/

/-- The quotes and the separator of a lexicon are visible, and no separator is a quote or divides
the items of a list. -/
structure Lexicon.ListsNames (lex : Lexicon) : Prop where
  quotes : ∀ c, lex.quotes.has c → Text.isBlank c = false
  apart : ¬ lex.quotes.has lex.separator
  comma : lex.separator ≠ ','
  visible : Text.isBlank lex.separator = false

theorem Preset.listsNames (preset : Preset) : preset.dialect.toLexicon.ListsNames := by
  cases preset with
  | generic | postgres | mysql | sqlite =>
    refine ⟨?_, by unfold Quotes.has; decide, by decide, by decide⟩
    rintro c (rfl | rfl) <;> decide

/-- An alias that may stand before an item of a list: it opens no quote, divides nothing, and is
not trimmed where it begins. -/
structure Lexicon.Leads (lex : Lexicon) (aliasName : Text) : Prop where
  quotes : ∀ c ∈ aliasName, ¬ lex.quotes.has c
  comma : ',' ∉ aliasName
  visible : ∀ c, aliasName.head? = some c → Text.isBlank c = false

namespace Scope

variable {scope : Scope} {item : Text} {columns : List Text}

/-- The text is one item of a list and is written as it is. -/
structure IsSettled (scope : Scope) (item : Text) : Prop where
  whole : ',' ∉ item.plainChars scope.lexicon.quotes
  trimmed : item.IsTrimmed
  written : item ≠ []
  stays : scope.listItem item = item

/-- Items that are settled are listed as they are. -/
theorem listItems_of_settled (settled : ∀ item ∈ columns, scope.IsSettled item) :
    scope.listItems columns = columns := by
  have whole : columns.flatMap scope.lexicon.items = columns := by
    have one : ∀ item ∈ columns, scope.lexicon.items item = [item] := by
      intro item member
      obtain ⟨whole, trimmed, -, -⟩ := settled item member
      rw [Lexicon.items, Text.cutAt_of_notMem whole, List.map_singleton, trimmed.trim_eq]
    rw [List.flatMap_congr one, List.flatMap_singleton']
  have kept : columns.filter (fun item => !item.isEmpty) = columns := by
    apply List.filter_eq_self.2
    intro item member
    simpa using (settled item member).written
  have stay : columns.map scope.listItem = columns.map id :=
    List.map_congr_left fun item member => (settled item member).stays
  rw [listItems, whole, kept, stay, List.map_id]

/-- An item is left as it is, or put behind the alias of the origin. -/
theorem listItem_cases (scope : Scope) (item : Text) : scope.listItem item = item ∨
    ∃ a, scope.tables.originAlias? = some a ∧
      scope.listItem item = a ++ scope.lexicon.separator :: item := by
  rw [listItem]
  split
  · rename_i a origin
    split
    · exact .inr ⟨a, origin, rfl⟩
    · exact .inl rfl
  · exact .inl rfl

/-- An item that is qualified stays as it is. -/
theorem listItem_of_isQualified (h : scope.lexicon.isQualified item = true) :
    scope.listItem item = item := by
  have notPlain : scope.isPlainName item = false := by rw [isPlainName, h]; rfl
  rw [listItem, notPlain]
  split
  · rfl
  · rfl

/-- An item behind an alias is one item still, and qualified. -/
theorem isSettled_behind (lists : scope.lexicon.ListsNames) {aliasName : Text}
    (leads : scope.lexicon.Leads aliasName) (whole : ',' ∉ item.plainChars scope.lexicon.quotes)
    (trimmed : item.IsTrimmed) (written : item ≠ []) :
    scope.IsSettled (aliasName ++ scope.lexicon.separator :: item) := by
  have closed : aliasName.isClosed scope.lexicon.quotes = true :=
    Text.isClosed_of_not_has leads.quotes
  -- No comma is unquoted, neither end is blank, there is a character, and the item is qualified.
  refine ⟨?_, ⟨?_, ?_⟩, by simp, ?_⟩
  · rw [Text.plainChars_append_cons closed lists.apart]
    intro comma
    rcases List.mem_append.1 comma with inAlias | behind
    · rw [Text.plainChars_eq] at inAlias
      exact leads.comma (Text.mem_of_mem_unquotedFrom inAlias)
    · rcases List.mem_cons.1 behind with separator | inItem
      · exact lists.comma separator.symm
      · exact whole inItem
  · intro c first
    cases aliasName with
    | nil =>
      obtain rfl : scope.lexicon.separator = c := Option.some.inj first
      exact lists.visible
    | cons d rest => exact leads.visible c first
  · intro c last
    rw [List.getLast?_append_of_ne_nil _ (List.cons_ne_nil _ _),
      List.getLast?_cons_of_ne_nil written] at last
    exact trimmed.last c last
  · exact listItem_of_isQualified (Lexicon.isQualified_append_cons lists.apart closed written)

/-- Whatever is listed is settled. -/
theorem isSettled_of_mem_listItems (lists : scope.lexicon.ListsNames)
    (leads : ∀ a, scope.tables.originAlias? = some a → scope.lexicon.Leads a)
    (listed : item ∈ scope.listItems columns) : scope.IsSettled item := by
  obtain ⟨given, kept, rfl⟩ := List.mem_map.1 listed
  obtain ⟨member, written⟩ := List.mem_filter.1 kept
  have written : given ≠ [] := by simpa using written
  obtain ⟨column, -, piece_⟩ := List.mem_flatMap.1 member
  obtain ⟨piece, cut, rfl⟩ := List.mem_map.1 piece_
  have trimmed := Text.isTrimmed_trim piece
  have whole : ',' ∉ piece.trim.plainChars scope.lexicon.quotes := by
    intro comma
    exact Text.notMem_of_mem_cutAt column piece cut (Text.mem_plainChars_of_trim lists.quotes comma)
  rcases scope.listItem_cases piece.trim with stays | ⟨a, origin, behind⟩
  · rw [stays]
    exact ⟨whole, trimmed, written, stays⟩
  · rw [behind]
    exact isSettled_behind lists (leads a origin) whole trimmed written

theorem listItems_listItems (lists : scope.lexicon.ListsNames)
    (leads : ∀ a, scope.tables.originAlias? = some a → scope.lexicon.Leads a)
    (columns : List Text) : scope.listItems (scope.listItems columns) = scope.listItems columns :=
  listItems_of_settled fun _ listed => isSettled_of_mem_listItems lists leads listed

/-! ## Columns of comparisons -/

/-- The alias behind which a column is written at a position, if it is not left as it is. -/
def qualifierOf? (scope : Scope) (position : Position) (name : Text) : Option Text → Option Text
  | some qualifier => some (scope.tables.resolve qualifier)
  | none =>
    if scope.lexicon.isQualified name || scope.lexicon.isFunction name then none
    else scope.defaultAlias position

variable {position : Position} {name : Text} {qualifier : Option Text}

theorem column_of_qualifierOf? {a : Text}
    (h : scope.qualifierOf? position name qualifier = some a) :
    scope.column position name qualifier = scope.lexicon.qualify a name := by
  cases qualifier with
  | some given =>
    obtain rfl : scope.tables.resolve given = a := Option.some.inj h
    rfl
  | none =>
    rw [qualifierOf?] at h
    rw [column]
    split at h
    · cases h
    · rename_i open_
      rw [if_neg open_, h]

/-- A column that is left as it is has no qualifier of its own. -/
theorem column_of_qualifierOf?_eq_none (h : scope.qualifierOf? position name qualifier = none) :
    qualifier = none ∧ scope.column position name none = name := by
  cases qualifier with
  | some given => cases h
  | none =>
    rw [qualifierOf?] at h
    refine ⟨rfl, ?_⟩
    rw [column]
    split at h
    · rename_i kept
      rw [if_pos kept]
    · rename_i open_
      rw [if_neg open_, h]

theorem column_column (apart : ¬ scope.lexicon.quotes.has scope.lexicon.separator)
    (reserved : ∀ c, scope.lexicon.quotes.has c → c ∈ scope.lexicon.reserved)
    (written : name ≠ [])
    (noQuotes : ∀ a, scope.qualifierOf? position name qualifier = some a →
      scope.lexicon.isQuotedName a = false) :
    scope.column position (scope.column position name qualifier) none =
      scope.column position name qualifier := by
  cases alias_ : scope.qualifierOf? position name qualifier with
  | none =>
    obtain ⟨rfl, stays⟩ := column_of_qualifierOf?_eq_none alias_
    rw [stays, stays]
  | some a =>
    have qualified := Lexicon.isQualified_qualify apart reserved (noQuotes a alias_) written
    rw [column_of_qualifierOf? alias_, column, qualified]
    rfl

/-- No column is qualified twice. A list of columns that was written is listed again as it is,
and so every clause that lists columns is written from it alike, if quotes and separator are
visible, if the separator neither is a quote nor divides a list, and if the alias of the origin may
stand before an item. A column of a comparison that was written is written again as it is, if the
quotes are reserved, and neither the column is empty nor its qualifier already in quotes. -/
theorem column_qualified_once (scope : Scope) :
    (scope.lexicon.ListsNames →
      (∀ a, scope.tables.originAlias? = some a → scope.lexicon.Leads a) →
        ∀ columns : List Text,
          scope.listItems (scope.listItems columns) = scope.listItems columns ∧
            scope.selectList (scope.listItems columns) = scope.selectList columns ∧
            ∀ keyword, scope.listClause keyword (scope.listItems columns) =
              scope.listClause keyword columns) ∧
      (¬ scope.lexicon.quotes.has scope.lexicon.separator →
        (∀ c, scope.lexicon.quotes.has c → c ∈ scope.lexicon.reserved) →
          ∀ (position : Position) (name : Text) (qualifier : Option Text), name ≠ [] →
            (∀ a, scope.qualifierOf? position name qualifier = some a →
              scope.lexicon.isQuotedName a = false) →
              scope.column position (scope.column position name qualifier) none =
                scope.column position name qualifier) := by
  constructor
  · intro lists leads columns
    -- Every clause is written from the items of its list, and these do not change.
    have again := listItems_listItems lists leads columns
    refine ⟨again, ?_, fun keyword => ?_⟩
    · rw [selectList, again, selectList]
    · rw [listClause, again, listClause]
  · intro apart reserved position name qualifier written noQuotes
    exact column_column apart reserved written noQuotes

/-- The scope of a statement over one table that is called by one letter. -/
def ofUsers : Scope := .ofStatement Dialect.postgres.toLexicon ⟨[⟨"users", "u", .origin⟩]⟩

example : ofUsers.column .source "" none = "u." ∧
    ofUsers.column .source "u." none = "\"u\".\"u.\"" := by decide +kernel

/-- A string that is not closed and a separator at the end of a column do not lead to a second
alias, and neither do quotes around a name with a blank. -/
theorem column_qualified_once_of_users :
    ofUsers.listItems ["id, name. ", "'it"] = ["u.id", "u.name.", "u.'it"] ∧
      ofUsers.listItems ["u.id", "u.name.", "u.'it"] = ["u.id", "u.name.", "u.'it"] ∧
      ofUsers.column .source "first name" none = "\"u\".\"first name\"" ∧
      ofUsers.column .source "\"u\".\"first name\"" none = "\"u\".\"first name\"" := by
  have leads : ∀ a, ofUsers.tables.originAlias? = some a → ofUsers.lexicon.Leads a := by
    intro a origin
    obtain rfl : "u".toList = a := Option.some.inj origin
    refine ⟨Quotes.all_iff.1 (by decide), by decide, fun c first => ?_⟩
    obtain rfl : 'u' = c := Option.some.inj first
    decide
  have noQuotes : ∀ a, ofUsers.qualifierOf? .source "first name" none = some a →
      ofUsers.lexicon.isQuotedName a = false := by
    intro a alias_
    obtain rfl : "u".toList = a := Option.some.inj alias_
    decide
  have separates := Preset.separatesNames .postgres
  have listed : ofUsers.listItems ["id, name. ", "'it"] = ["u.id", "u.name.", "u.'it"] := by
    decide +kernel
  have written : ofUsers.column .source "first name" none = "\"u\".\"first name\"" := by
    decide +kernel
  obtain ⟨lists, columns⟩ := column_qualified_once ofUsers
  have again := (lists (Preset.listsNames .postgres) leads ["id, name. ", "'it"]).1
  have again' := columns separates.apart separates.quotes .source "first name" none
    (List.cons_ne_nil _ _) noQuotes
  rw [listed] at again
  rw [written] at again'
  exact ⟨listed, again, written, again'⟩

end Scope

end BoundSql
