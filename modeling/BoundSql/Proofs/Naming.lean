import BoundSql.Render.Scope

/-!
# Characters of written names

Where the characters of a written name come from. Quoting, qualifying and taking apart
add the quotes and the separator of the lexicon and nothing else, so that a character
that is foreign to the given texts and to the lexicon is foreign to what is written.
-/

set_option autoImplicit false

namespace BoundSql

variable {c : Char}

namespace Text

/-- Trimming adds no character. -/
theorem mem_of_mem_trim {text : Text} (h : c ∈ text.trim) : c ∈ text := by
  -- The end is trimmed as the start of the reversed text.
  have start : c ∈ text.trimStart.reverse.dropWhile isBlank := List.mem_reverse.1 h
  have trimmed : c ∈ text.trimStart :=
    List.mem_reverse.1 (List.dropWhile_subset _ start)
  exact List.dropWhile_subset _ trimmed

/-- What is in a piece of a cut text is in the text. -/
theorem mem_of_mem_cutFrom {q : Quotes} {mark : Char} {s : Span} {text piece : Text}
    (hp : piece ∈ cutFrom q mark s text) (hc : c ∈ piece) : c ∈ text := by
  induction text generalizing s piece with
  | nil =>
    rw [List.mem_singleton.1 hp] at hc
    cases hc
  | cons first rest ih =>
    simp only [cutFrom] at hp
    -- A mark outside quotes ends the piece and stands in none; any other character goes on with it.
    split at hp
    · rcases List.mem_cons.1 hp with rfl | hp
      · cases hc
      · exact List.mem_cons_of_mem _ (ih hp hc)
    · split at hp
      · rw [List.mem_singleton.1 hp, List.mem_singleton] at hc
        rw [hc]
        exact List.mem_cons_self
      · rename_i open_ later hcut
        rcases List.mem_cons.1 hp with rfl | hp
        · rcases List.mem_cons.1 hc with rfl | hc
          · exact List.mem_cons_self
          · exact List.mem_cons_of_mem _ (ih (hcut ▸ List.mem_cons_self) hc)
        · exact List.mem_cons_of_mem _ (ih (hcut ▸ List.mem_cons_of_mem _ hp) hc)

/-- What is in joined texts is in one of them or in the separator. -/
theorem mem_joined {separator : Text} {parts : List Text} (h : c ∈ joined separator parts) :
    c ∈ separator ∨ ∃ part ∈ parts, c ∈ part := by
  induction parts with
  | nil => cases h
  | cons part rest ih =>
    cases rest with
    | nil =>
      rw [joined, List.intercalate_singleton] at h
      exact .inr ⟨part, List.mem_cons_self, h⟩
    | cons next rest =>
      rw [joined, List.intercalate_cons_cons, List.append_assoc] at h
      rcases List.mem_append.1 h with h | h
      · exact .inr ⟨part, List.mem_cons_self, h⟩
      rcases List.mem_append.1 h with h | h
      · exact .inl h
      rcases ih h with h | ⟨found, hf, h⟩
      · exact .inl h
      · exact .inr ⟨found, List.mem_cons_of_mem _ hf, h⟩

end Text

namespace Lexicon

variable {lex : Lexicon}

/-- What is in an item of a column list is in the list. -/
theorem mem_of_mem_items {text item : Text} (hi : item ∈ lex.items text) (hc : c ∈ item) :
    c ∈ text := by
  obtain ⟨piece, hp, rfl⟩ := List.mem_map.1 hi
  exact Text.mem_of_mem_cutFrom hp (Text.mem_of_mem_trim hc)

/-- Doubling quotes adds no character that is not there. -/
theorem mem_of_mem_doubled {quote : Char} {text : Text} (h : c ∈ doubled quote text) :
    c ∈ text := by
  induction text with
  | nil => cases h
  | cons first rest ih =>
    simp only [doubled] at h
    -- A quote stands twice, and both times it is a character of the text.
    split at h <;> simp only [List.mem_cons] at h ⊢
    · rcases h with h | h | h
      · exact .inl h
      · exact .inl h
      · exact .inr (ih h)
    · rcases h with h | h
      · exact .inl h
      · exact .inr (ih h)

/-- A name in quotes is made of its own characters and of quotes. -/
theorem mem_quoteName {name : Text} (h : c ∈ lex.quoteName name) :
    c = lex.quotes.field ∨ c ∈ name := by
  simp only [quoteName, List.mem_cons, List.mem_append, List.not_mem_nil, or_false] at h
  rcases h with h | h | h
  · exact .inl h
  · exact .inr (mem_of_mem_doubled h)
  · exact .inl h

/-- So is a name that is put in quotes if it lacks them. -/
theorem mem_ensureQuoted {name : Text} (h : c ∈ lex.ensureQuoted name) :
    c = lex.quotes.field ∨ c ∈ name := by
  rw [ensureQuoted] at h
  split at h
  · exact .inr h
  · exact mem_quoteName h

/-- A qualified column is made of its two names, of quotes and of the separator. -/
theorem mem_qualify {qualifier column : Text} (h : c ∈ lex.qualify qualifier column) :
    c = lex.quotes.field ∨ c = lex.separator ∨ c ∈ qualifier ∨ c ∈ column := by
  rw [qualify] at h
  -- Either both names are in quotes or neither is.
  split at h
  · rcases List.mem_append.1 h with h | h
    · rcases mem_ensureQuoted h with h | h
      · exact .inl h
      · exact .inr (.inr (.inl h))
    rcases List.mem_cons.1 h with h | h
    · exact .inr (.inl h)
    rcases mem_ensureQuoted h with h | h
    · exact .inl h
    · exact .inr (.inr (.inr h))
  · rcases List.mem_append.1 h with h | h
    · exact .inr (.inr (.inl h))
    rcases List.mem_cons.1 h with h | h
    · exact .inr (.inl h)
    · exact .inr (.inr (.inr h))

/-- Both parts of a table text are made of its characters. -/
theorem mem_splitTable (lex : Lexicon) (text : Text) :
    (∀ c ∈ (lex.splitTable text).1, c ∈ text) ∧
      ∀ a, (lex.splitTable text).2 = some a → ∀ c ∈ a, c ∈ text := by
  have whole : (∀ c ∈ text, c ∈ text) ∧ ∀ a : Text, none = some a → ∀ c ∈ a, c ∈ text :=
    ⟨fun _ hc => hc, fun _ h => by cases h⟩
  -- A quoted text, one without a blank and one with several blanks are all kept whole.
  rw [splitTable]
  split
  · exact whole
  split
  · exact whole
  rename_i blank rest hcut
  split
  · exact whole
  · refine ⟨fun c hc => List.takeWhile_subset _ hc, fun a ha c hc => ?_⟩
    cases ha
    have later : c ∈ text.dropWhile (· != ' ') := by
      rw [hcut]
      exact List.mem_cons_of_mem _ hc
    exact List.dropWhile_subset _ later

end Lexicon

namespace Scope

variable {scope : Scope}

/-- A listed column is made of its own characters, of the separator and of the alias of the
origin. -/
theorem mem_listItem {item : Text} (h : c ∈ scope.listItem item) :
    c = scope.lexicon.separator ∨ c ∈ item ∨
      ∃ a, scope.tables.originAlias? = some a ∧ c ∈ a := by
  rw [listItem] at h
  split at h
  · rename_i a ha
    split at h
    · rcases List.mem_append.1 h with h | h
      · exact .inr (.inr ⟨a, ha, h⟩)
      rcases List.mem_cons.1 h with h | h
      · exact .inl h
      · exact .inr (.inl h)
    · exact .inr (.inl h)
  · exact .inr (.inl h)

/-- An item of a list is made of the listed columns, the separator and the alias of the
origin. -/
theorem mem_listItems {columns : List Text} {item : Text} (hi : item ∈ scope.listItems columns)
    (hc : c ∈ item) :
    c = scope.lexicon.separator ∨ (∃ column ∈ columns, c ∈ column) ∨
      ∃ a, scope.tables.originAlias? = some a ∧ c ∈ a := by
  obtain ⟨given, hg, rfl⟩ := List.mem_map.1 hi
  obtain ⟨column, hcolumn, hitem⟩ := List.mem_flatMap.1 (List.mem_filter.1 hg).1
  rcases mem_listItem hc with h | h | h
  · exact .inl h
  · exact .inr (.inl ⟨column, hcolumn, Lexicon.mem_of_mem_items hitem h⟩)
  · exact .inr (.inr h)

end Scope

end BoundSql
