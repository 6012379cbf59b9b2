import BoundSql.Proofs.Naming
import BoundSql.Proofs.Renumbering
import BoundSql.Proofs.StepTexts
import Mathlib.Data.List.TakeWhile

/-!
# Quotes are closed

A quote that is left open hides whatever follows it. Where the given texts close their quotes,
finished SQL closes all of its own, and no mark of a bound value stands inside a quoted span
(`Draft.isClosed_of_renderedWithin`).

A text is closed when it is read from outside any quote to outside any quote, and so closed texts
may be put side by side. Names are quoted with every quote in them doubled, and each pair closes
and opens again. A list of columns is cut only where no quote is open, so that all of its items
are closed, and the blanks that are trimmed from them are no quotes.
-/

set_option autoImplicit false

namespace BoundSql

open Fragment (plain)

/-! ## Closed texts -/

/-- Whether a character is one of the quotes. -/
def Quotes.has (q : Quotes) (c : Char) : Prop := c = q.field ∨ c = q.value

section Scanning

variable {q : Quotes} {s : Span} {c : Char}

/-- That a text has no quotes can be computed. -/
theorem Quotes.all_iff {text : Text} :
    (text.all fun c => c != q.field && c != q.value) = true ↔ ∀ c ∈ text, ¬ q.has c := by
  simp [has, List.all_eq_true]

/-- A character that is no quote leaves the span open or closed as it is. -/
theorem Span.next_of_not_has (h : ¬ q.has c) : s.next q c = s := by
  rw [Quotes.has, not_or] at h
  cases s with
  | plain => simp [Span.next, Span.label, h.1, h.2]
  | field => simp [Span.next, h.1]
  | value => simp [Span.next, h.2]

/-- And it stands in that span. -/
theorem Span.label_of_not_has (h : ¬ q.has c) : s.label q c = s := by
  rw [Quotes.has, not_or] at h
  cases s with
  | plain => simp [Span.label, h.1, h.2]
  | field => rfl
  | value => rfl

/-- Only outside any span is a character unquoted, and none is opened by it. -/
theorem Span.of_label_eq_plain (h : s.label q c = .plain) : s = .plain ∧ s.next q c = .plain := by
  cases s with
  | plain => exact ⟨rfl, h⟩
  | field => cases h
  | value => cases h

namespace Text

variable {text : Text}

/-- A text is closed if no span is open behind it. -/
theorem isClosed_iff : text.isClosed q = true ↔ openAfter q .plain text = .plain :=
  beq_iff_eq

theorem openAfter_of_not_has (h : ∀ c ∈ text, ¬ q.has c) : openAfter q s text = s := by
  induction text with
  | nil => rfl
  | cons c rest ih =>
    rw [openAfter, Span.next_of_not_has (h c List.mem_cons_self)]
    exact ih fun d hd => h d (List.mem_cons_of_mem c hd)

theorem spansFrom_of_not_has (h : ∀ c ∈ text, ¬ q.has c) :
    spansFrom q s text = List.replicate text.length s := by
  induction text with
  | nil => rfl
  | cons c rest ih =>
    have first := h c List.mem_cons_self
    rw [spansFrom, Span.label_of_not_has first, Span.next_of_not_has first,
      ih fun d hd => h d (List.mem_cons_of_mem c hd)]
    rfl

theorem isClosed_of_not_has (h : ∀ c ∈ text, ¬ q.has c) : text.isClosed q = true :=
  isClosed_iff.2 (openAfter_of_not_has h)

/-- Closed texts side by side are closed. -/
theorem isClosed_append {rest : Text} (h : text.isClosed q = true) (h' : rest.isClosed q = true) :
    (text ++ rest).isClosed q = true := by
  rw [isClosed_iff] at h h' ⊢
  rw [openAfter_append, h, h']

/-- So are closed texts with a closed separator between them. -/
theorem isClosed_joined {separator : Text} (hs : separator.isClosed q = true) {parts : List Text}
    (h : ∀ part ∈ parts, part.isClosed q = true) : (joined separator parts).isClosed q = true := by
  induction parts with
  | nil => rfl
  | cons part rest ih =>
    have first := h part List.mem_cons_self
    have later := ih fun p hp => h p (List.mem_cons_of_mem part hp)
    cases rest with
    | nil => simpa [joined] using first
    | cons next rest =>
      rw [joined, List.intercalate_cons_cons]
      exact isClosed_append (isClosed_append first hs) later

/-! ### Trimming and cutting -/

/-- What trimming takes away are blanks at either end. -/
theorem exists_of_trim (text : Text) : ∃ front back, (∀ c ∈ front, isBlank c = true) ∧
    (∀ c ∈ back, isBlank c = true) ∧ text = front ++ (text.trim ++ back) := by
  have start : text.takeWhile isBlank ++ text.trimStart = text := List.takeWhile_append_dropWhile
  have end_ : text.trim ++ (text.trimStart.reverse.takeWhile isBlank).reverse =
      text.trimStart := by
    rw [trim, trimEnd, ← List.reverse_append, List.takeWhile_append_dropWhile, List.reverse_reverse]
  refine ⟨text.takeWhile isBlank, (text.trimStart.reverse.takeWhile isBlank).reverse,
    fun c hc => List.mem_takeWhile_imp hc,
    fun c hc => List.mem_takeWhile_imp (List.mem_reverse.1 hc), ?_⟩
  rw [end_, start]

/-- Blanks that are no quotes leave what is open as it is. -/
theorem openAfter_trim (blanks : ∀ c, q.has c → isBlank c = false) (text : Text) :
    openAfter q .plain text.trim = openAfter q .plain text := by
  have unquoted : ∀ {t : Text}, (∀ c ∈ t, isBlank c = true) → ∀ c ∈ t, ¬ q.has c := by
    intro t blank c hc quote
    have quoted := blanks c quote
    rw [blank c hc] at quoted
    cases quoted
  obtain ⟨front, back, front_, back_, whole⟩ := exists_of_trim text
  conv_rhs => rw [whole]
  rw [openAfter_append, openAfter_append, openAfter_of_not_has (unquoted front_),
    openAfter_of_not_has (unquoted back_)]

/-- A text that is closed in the end is cut into a first piece that closes what is open and into
closed pieces behind it. -/
theorem openAfter_cutFrom (mark : Char) (closed : openAfter q s text = .plain) :
    ∃ first later, cutFrom q mark s text = first :: later ∧ openAfter q s first = .plain ∧
      ∀ piece ∈ later, openAfter q .plain piece = .plain := by
  induction text generalizing s with
  | nil => exact ⟨[], [], rfl, closed, by simp⟩
  | cons c rest ih =>
    obtain ⟨first, later, pieces, first_, later_⟩ := ih (s := s.next q c) closed
    by_cases cut : s.label q c = .plain ∧ c = mark
    · obtain ⟨outside, after⟩ := Span.of_label_eq_plain cut.1
      rw [after] at first_
      refine ⟨[], first :: later, ?_, outside, ?_⟩
      · simp only [cutFrom, if_pos cut, pieces]
      · intro piece hp
        rcases List.mem_cons.1 hp with rfl | hp
        · exact first_
        · exact later_ piece hp
    · refine ⟨c :: first, later, ?_, first_, later_⟩
      simp only [cutFrom, if_neg cut, pieces]

end Text

end Scanning

/-! ## Closed names and lists -/

/-- The quotes are characters of their own: no blank, no separator, and nothing of which words,
parentheses and marks consist. -/
structure Lexicon.SetsQuotesApart (lex : Lexicon) : Prop where
  blank : ∀ c, lex.quotes.has c → Text.isBlank c = false
  word : ∀ c, lex.quotes.has c → isWordChar c = false
  sign : ∀ c ∈ "()?%$".toList, ¬ lex.quotes.has c
  separator : ¬ lex.quotes.has lex.separator

/-- Every preset sets its quotes apart from the characters of keywords, marks and separators. -/
theorem Preset.setsQuotesApart (preset : Preset) :
    preset.dialect.toLexicon.SetsQuotesApart := by
  cases preset with
  | generic | postgres | mysql | sqlite =>
    refine ⟨?_, ?_, Quotes.all_iff.1 (by decide), by unfold Quotes.has; decide⟩
    · rintro c (rfl | rfl) <;> decide
    · rintro c (rfl | rfl) <;> decide

/-- Whether a given text closes its quotes; a table reference has to have none. -/
def Quotes.AreClosedBy (q : Quotes) (use : TextUse) (t : Text) : Prop :=
  if use = .reference then ∀ c ∈ t, ¬ q.has c else t.isClosed q = true

/-- Every text among some ingredients closes its quotes. -/
def Quotes.AreClosedIn (q : Quotes) (ingredients : List Ingredient) : Prop :=
  ∀ use t, Ingredient.text use t ∈ ingredients → q.AreClosedBy use t

/-- The rule that given texts close their quotes, and that a table reference has none. -/
def TextRule.closing (lex : Lexicon) : TextRule lex where
  Holds := lex.quotes.AreClosedBy
  table t h := Text.isClosed_of_not_has fun c hc => h c ((lex.mem_splitTable t).1 c hc)
  aliasName t a h ha :=
    Text.isClosed_of_not_has fun c hc => h c ((lex.mem_splitTable t).2 a ha c hc)

/-- Under the rule every text is closed, in whatever use. -/
theorem TextRule.isClosed_of_closing {lex : Lexicon} {use : TextUse} {t : Text}
    (h : (TextRule.closing lex).Holds use t) : t.isClosed lex.quotes = true := by
  cases use with
  | reference => exact Text.isClosed_of_not_has h
  | name => exact h
  | sql => exact h

namespace Lexicon

variable {lex : Lexicon}

/-- Inside a quoted name each quote is written twice, and the second opens what the first closes. -/
theorem openAfter_doubled (lex : Lexicon) (name : Text) :
    Text.openAfter lex.quotes .field (doubled lex.quotes.field name) = .field := by
  induction name with
  | nil => rfl
  | cons c rest ih =>
    rw [doubled]
    split
    · rename_i quote
      simp [Text.openAfter, Span.next, Span.label, quote, ih]
    · rename_i other
      simp [Text.openAfter, Span.next, other, ih]

/-- A name in quotes is closed whatever the name is, since the quotes in it are doubled. -/
theorem isClosed_quoteName (lex : Lexicon) (name : Text) :
    (lex.quoteName name).isClosed lex.quotes = true := by
  have opened : Span.next lex.quotes .plain lex.quotes.field = .field := if_pos rfl
  rw [Text.isClosed_iff, quoteName, Text.openAfter, opened, Text.openAfter_append,
    openAfter_doubled]
  exact if_pos rfl

/-- A name that has its quotes already has to be closed by itself. -/
theorem isClosed_ensureQuoted {name : Text} (h : name.isClosed lex.quotes = true) :
    (lex.ensureQuoted name).isClosed lex.quotes = true := by
  rw [ensureQuoted]
  split
  · exact h
  · exact lex.isClosed_quoteName name

variable (apart : lex.SetsQuotesApart)
include apart

theorem isClosed_behind_separator {qualifier column : Text}
    (hq : qualifier.isClosed lex.quotes = true) (hc : column.isClosed lex.quotes = true) :
    (qualifier ++ lex.separator :: column).isClosed lex.quotes = true := by
  rw [List.append_cons]
  refine Text.isClosed_append (Text.isClosed_append hq (Text.isClosed_of_not_has ?_)) hc
  intro c hc
  rw [List.mem_singleton.1 hc]
  exact apart.separator

/-- A qualified column is closed if both its names are. -/
theorem isClosed_qualify {qualifier column : Text} (hq : qualifier.isClosed lex.quotes = true)
    (hc : column.isClosed lex.quotes = true) :
    (lex.qualify qualifier column).isClosed lex.quotes = true := by
  rw [qualify]
  split
  · exact isClosed_behind_separator apart (isClosed_ensureQuoted hq) (isClosed_ensureQuoted hc)
  · exact isClosed_behind_separator apart hq hc

/-- A list is cut at commas outside of quotes, so its items are closed if it is. -/
theorem isClosed_of_mem_items {text item : Text} (h : text.isClosed lex.quotes = true)
    (hi : item ∈ lex.items text) : item.isClosed lex.quotes = true := by
  obtain ⟨piece, hp, rfl⟩ := List.mem_map.1 hi
  obtain ⟨first, later, pieces, first_, later_⟩ :=
    Text.openAfter_cutFrom ',' (Text.isClosed_iff.1 h)
  rw [Text.isClosed_iff, Text.openAfter_trim apart.blank]
  rw [Text.cutAt, pieces] at hp
  rcases List.mem_cons.1 hp with rfl | hp
  · exact first_
  · exact later_ piece hp

/-- Keywords, signs and numbers have no quotes. -/
theorem isClosed_of_word {text : Text} (h : text.all isWordChar = true) :
    text.isClosed lex.quotes = true := by
  refine Text.isClosed_of_not_has fun c hc quote => ?_
  have word := List.all_eq_true.1 h c hc
  rw [apart.word c quote] at word
  cases word

/-- Nor has a mark in any style. -/
theorem not_has_of_mem_token (style : Placeholder) (index : Nat) :
    ∀ c ∈ style.token index, ¬ lex.quotes.has c := by
  intro c hc
  -- A question mark, a percent sign with an `s`, or a dollar sign with digits.
  cases style with
  | question =>
    rw [List.mem_singleton.1 hc]
    exact apart.sign '?' (by decide)
  | format =>
    rcases List.mem_cons.1 hc with rfl | hc
    · exact apart.sign '%' (by decide)
    · rw [List.mem_singleton.1 hc]
      intro quote
      exact absurd (apart.word 's' quote) (by decide)
  | numbered =>
    rcases List.mem_cons.1 hc with rfl | hc
    · exact apart.sign '$' (by decide)
    · intro quote
      have word := List.all_eq_true.1 (Text.ofNat_isWord index) c hc
      rw [apart.word c quote] at word
      cases word

end Lexicon

theorem Scope.isClosed_of_mem_listItems {lex : Lexicon} (apart : lex.SetsQuotesApart)
    {scope : Scope} (covers : (TextRule.closing lex).CoversScope scope) {columns : List Text}
    (h : ∀ t ∈ columns, t.isClosed lex.quotes = true) {item : Text}
    (hi : item ∈ scope.listItems columns) : item.isClosed lex.quotes = true := by
  obtain ⟨given, hg, rfl⟩ := List.mem_map.1 hi
  obtain ⟨column, hcolumn, hitem⟩ := List.mem_flatMap.1 (List.mem_filter.1 hg).1
  rw [covers.lexicon] at hitem
  have closed := Lexicon.isClosed_of_mem_items apart (h column hcolumn) hitem
  rw [Scope.listItem]
  split
  · rename_i a ha
    split
    · rw [covers.lexicon]
      exact Lexicon.isClosed_behind_separator apart
        (TextRule.isClosed_of_closing (covers.originAlias a ha)) closed
    · exact closed
  · exact closed

/-! ## Closed fragments -/

namespace Fragment

variable {q : Quotes} {style : Placeholder} {f g : Fragment}

/-- For each character of the SQL of a fragment, whether it belongs to the mark of a value. -/
def inMark (style : Placeholder) (prior : Nat) : Fragment → List Bool
  | [] => []
  | .char _ :: rest => false :: inMark style prior rest
  | .slot _ :: rest =>
    List.replicate (style.token (prior + 1)).length true ++ inMark style (prior + 1) rest

/-- There is one answer for each character of the SQL. -/
theorem length_inMark (style : Placeholder) (prior : Nat) (f : Fragment) :
    (f.inMark style prior).length = (f.sql style prior).length := by
  induction f generalizing prior with
  | nil => rfl
  | cons cell rest ih =>
    cases cell with
    | char c => simp [inMark, sql, ih]
    | slot v => simp [inMark, sql, ih]

/-- The marks of the second fragment are numbered behind the values of the first. -/
theorem inMark_append (style : Placeholder) (prior : Nat) (f g : Fragment) :
    inMark style prior (f ++ g) =
      inMark style prior f ++ inMark style (prior + (values f).length) g := by
  induction f generalizing prior with
  | nil => rfl
  | cons cell rest ih =>
    cases cell with
    | char c => simp [inMark, values, ih]
    | slot v => simp [inMark, values, ih, Nat.add_assoc, Nat.add_comm 1]

/-- Text without slots has no marks. -/
theorem inMark_plain (style : Placeholder) (prior : Nat) (text : Text) :
    inMark style prior (plain text) = List.replicate text.length false := by
  induction text with
  | nil => rfl
  | cons c rest ih => exact congrArg (false :: ·) ih

/-- The SQL of a fragment is closed, and the marks in it stand outside the quoted spans. -/
structure Closed (q : Quotes) (style : Placeholder) (f : Fragment) : Prop where
  sql : ∀ prior, (f.sql style prior).isClosed q = true
  marks : ∀ prior, ∀ p ∈ (f.inMark style prior).zip ((f.sql style prior).spans q),
    p.1 = true → p.2 = .plain

/-- A closed text is a closed fragment. -/
theorem closed_plain {text : Text} (h : text.isClosed q = true) : Closed q style (plain text) := by
  refine ⟨fun prior => ?_, fun prior p hp mark => ?_⟩
  · rw [sql_plain]
    exact h
  · rw [inMark_plain] at hp
    have no := List.eq_of_mem_replicate (List.of_mem_zip (a := p.1) (b := p.2) hp).1
    rw [mark] at no
    cases no

/-- So is a mark, for it has no quotes. -/
theorem closed_slot {v : Value} (h : ∀ index, ∀ c ∈ style.token index, ¬ q.has c) :
    Closed q style [.slot v] := by
  have token : ∀ prior, Fragment.sql style prior [.slot v] = style.token (prior + 1) :=
    fun prior => List.append_nil _
  refine ⟨fun prior => ?_, fun prior p hp _ => ?_⟩
  · rw [token]
    exact Text.isClosed_of_not_has (h _)
  · rw [token, Text.spans, Text.spansFrom_of_not_has (h _)] at hp
    exact List.eq_of_mem_replicate (List.of_mem_zip (a := p.1) (b := p.2) hp).2

/-- Closed fragments side by side are closed: each is read as it would be by itself. -/
theorem Closed.append (hf : Closed q style f) (hg : Closed q style g) :
    Closed q style (f ++ g) := by
  refine ⟨fun prior => ?_, fun prior p hp mark => ?_⟩
  · rw [sql_append]
    exact Text.isClosed_append (hf.sql prior) (hg.sql _)
  · have outside := Text.isClosed_iff.1 (hf.sql prior)
    have same : (f.inMark style prior).length =
        (Text.spansFrom q .plain (f.sql style prior)).length := by
      rw [Text.length_spansFrom, length_inMark]
    rw [sql_append, inMark_append, Text.spans, Text.spansFrom_append, outside,
      List.zip_append same] at hp
    rcases List.mem_append.1 hp with hp | hp
    · exact hf.marks prior p hp mark
    · exact hg.marks _ p hp mark

end Fragment

/-- What is assembled of closed texts is closed. -/
theorem Assembled.closed {lex : Lexicon} (apart : lex.SetsQuotesApart) (style : Placeholder)
    {ps : List Ingredient} {f : Fragment} (h : Assembled (.closing lex) ps f) :
    f.Closed lex.quotes style := by
  induction h with
  | word chars => exact Fragment.closed_plain (Lexicon.isClosed_of_word apart chars)
  | emptyString =>
    refine Fragment.closed_plain (Text.isClosed_iff.2 ?_)
    -- The second quote closes what the first opens, also where both kinds of quote are one.
    by_cases one : lex.quotes.value = lex.quotes.field
    · simp [Text.openAfter, Span.next, Span.label, one]
    · simp [Text.openAfter, Span.next, Span.label, one]
  | given holds => exact Fragment.closed_plain (TextRule.isClosed_of_closing holds)
  | quoted holds => exact Fragment.closed_plain (lex.isClosed_quoteName _)
  | qualified alias_ column =>
    exact Fragment.closed_plain (Lexicon.isClosed_qualify apart
      (TextRule.isClosed_of_closing alias_) (TextRule.isClosed_of_closing column))
  | listed covers holds =>
    have comma : Text.isClosed lex.quotes ", " = true :=
      Lexicon.isClosed_of_word apart (by decide)
    refine Fragment.closed_plain (Text.isClosed_joined comma fun item hi => ?_)
    exact Scope.isClosed_of_mem_listItems apart covers
      (fun t ht => TextRule.isClosed_of_closing (holds t ht)) hi
  | slot v => exact Fragment.closed_slot (Lexicon.not_has_of_mem_token apart style)
  | nested _ _ ih => exact ih
  | enclosed _ ih =>
    have opening : Fragment.Closed lex.quotes style (plain "(") := by
      refine Fragment.closed_plain (Text.isClosed_of_not_has fun c hc => ?_)
      rw [List.mem_singleton.1 hc]
      exact apart.sign '(' (by decide)
    have closing : Fragment.Closed lex.quotes style (plain ")") := by
      refine Fragment.closed_plain (Text.isClosed_of_not_has fun c hc => ?_)
      rw [List.mem_singleton.1 hc]
      exact apart.sign ')' (by decide)
    exact (opening.append ih).append closing
  | spaced word _ _ ihl ihr =>
    have glue := Lexicon.isClosed_of_word apart (Bool.and_eq_true_iff.1 word).1
    exact (ihl.append (Fragment.closed_plain glue)).append ihr

/-! ## Finished SQL -/

namespace Draft

/-- Every text that goes into the SQL of the draft closes its quotes, and no table reference has
any. -/
def ClosesQuotes (d : Draft) (q : Quotes) : Prop := q.AreClosedIn d.ingredients

/-- A draft that is built of closed texts closes its quotes, in whatever dialect it is built. -/
theorem closesQuotes_run (own : Dialect) (lex : Lexicon) {steps : List Step}
    (given : ∀ step ∈ steps, lex.quotes.AreClosedIn step.ingredients) :
    ((ofDialect own).run steps).1.ClosesQuotes lex.quotes := by
  have splits : (TextRule.closing lex).Splits own.toLexicon := by
    intro t plain_
    obtain ⟨table, aliasName⟩ := own.mem_splitTable t
    exact ⟨Text.isClosed_of_not_has fun c hc => plain_ c (table c hc),
      fun a ha => Text.isClosed_of_not_has fun c hc => plain_ c (aliasName a ha c hc)⟩
  exact (covers_run (coveredBy_ofDialect own) splits given).ingredients

/-- In the dialect of a preset, with marks of any style and behind any bound values, a draft of
closed texts is rendered to closed SQL. Every character of every mark that is written for a bound
value stands outside the quoted spans. -/
theorem isClosed_of_renderedWithin (d : Draft) (preset : Preset) (style : Placeholder)
    (prior : List Value) {r : Rendered} (texts : d.ClosesQuotes preset.dialect.quotes)
    (ok : d.renderedWithin (preset.dialect.inStyle style) prior = .ok r) :
    r.sql.isClosed preset.dialect.quotes = true ∧
      ∃ f, d.render preset.dialect.toLexicon = .ok f ∧ r.sql = f.sql style prior.length ∧
        ∀ i : Nat, (f.inMark style prior.length)[i]? = some true →
          (r.sql.spans preset.dialect.quotes)[i]? = some .plain := by
  cases hf : d.render (preset.dialect.inStyle style).toLexicon with
  | error fault =>
    rw [renderedWithin_of_error hf] at ok
    cases ok
  | ok f =>
    rw [renderedWithin_of_ok hf] at ok
    cases ok
    have covers : (TextRule.closing preset.dialect.toLexicon).Covers d.ingredients := texts
    have closed := (d.yields_assembled covers f hf).closed preset.setsQuotesApart style
    refine ⟨closed.sql prior.length, f, hf, rfl, fun i mark => ?_⟩
    -- The mark is a position of the SQL, and so it has a label, which is found beside it.
    have inside : i < (f.sql style prior.length).length := by
      rw [← Fragment.length_inMark]
      exact (List.getElem?_eq_some_iff.1 mark).1
    have label : i < ((f.sql style prior.length).spans preset.dialect.quotes).length := by
      rw [Text.spans, Text.length_spansFrom]
      exact inside
    obtain ⟨span, span_⟩ : ∃ span,
        ((f.sql style prior.length).spans preset.dialect.quotes)[i]? = some span :=
      ⟨_, List.getElem?_eq_getElem label⟩
    have pair : (true, span) ∈ (f.inMark style prior.length).zip
        ((f.sql style prior.length).spans preset.dialect.quotes) :=
      List.mem_of_getElem? (List.getElem?_zip_eq_some.2 ⟨mark, span_⟩)
    have outside := closed.marks prior.length _ pair rfl
    rw [← outside]
    exact span_

/-- Users by a full name that is empty or a nick name, with names in quotes and a comma in a
string. -/
def quotedUsers (nick : Value) : List Step :=
  [.select ["'a,b' AS s, `odd name`"], .source (.table (.raw "users u")),
    .join ⟨.raw "logs l", .left, some ((Condition.ofColumn "user id").equals (.column "id" none))⟩,
    .filter ((((Condition.ofColumn "full name").isEmpty).or "nick").equals (.value nick))]

/-- The quote within the bound text does not get into the SQL, and the mark for it stands outside
the quotes that do. -/
theorem isClosed_of_quotedUsers :
    ∃ r, ((ofDialect .postgres).run (quotedUsers (.text "it's"))).1.renderedWithin
        (Dialect.generic.inStyle .numbered) [.bool true] = .ok r ∧
      r.sql = ("SELECT u.'a,b' AS s, u.`odd name` FROM users u LEFT JOIN logs l " ++
        "ON (`l`.`user id` = u.id) WHERE `u`.`full name` = '' OR u.nick = $2").toList ∧
      r.sql.isClosed Dialect.generic.quotes = true := by
  let d := ((ofDialect .postgres).run (quotedUsers (.text "it's"))).1
  have texts : d.ClosesQuotes Preset.generic.dialect.quotes := by
    apply closesQuotes_run
    intro step member use t given
    simp only [quotedUsers, List.mem_cons, List.not_mem_nil, or_false] at member
    rcases member with rfl | rfl | rfl | rfl
    · obtain ⟨rfl, rfl⟩ := by simpa [Step.ingredients] using given
      show Text.isClosed _ _ = true
      decide
    · obtain ⟨rfl, rfl⟩ := by simpa [Step.ingredients, TableRef.ingredients] using given
      exact Quotes.all_iff.1 (by decide)
    · have given : Ingredient.text use t ∈
        [.text .reference "logs l", .text .sql "user id", .text .sql "id"] := given
      simp only [List.mem_cons, Ingredient.text.injEq, List.not_mem_nil, or_false] at given
      rcases given with ⟨rfl, rfl⟩ | ⟨rfl, rfl⟩ | ⟨rfl, rfl⟩
      · exact Quotes.all_iff.1 (by decide)
      · show Text.isClosed _ _ = true
        decide
      · show Text.isClosed _ _ = true
        decide
    · have given : Ingredient.text use t ∈
        [.text .sql "full name", .text .sql "nick", .value (.text "it's")] := given
      simp only [List.mem_cons, Ingredient.text.injEq, reduceCtorEq, List.not_mem_nil, or_false]
        at given
      rcases given with ⟨rfl, rfl⟩ | ⟨rfl, rfl⟩
      · show Text.isClosed _ _ = true
        decide
      · show Text.isClosed _ _ = true
        decide
  have sql : (d.renderedWithin (Dialect.generic.inStyle .numbered) [.bool true]).toOption.map
      Rendered.sql = some ("SELECT u.'a,b' AS s, u.`odd name` FROM users u LEFT JOIN logs l " ++
        "ON (`l`.`user id` = u.id) WHERE `u`.`full name` = '' OR u.nick = $2").toList := by
    decide +kernel
  cases ok : d.renderedWithin (Dialect.generic.inStyle .numbered) [.bool true] with
  | error fault =>
    rw [ok] at sql
    cases sql
  | ok r =>
    rw [ok] at sql
    have closed := isClosed_of_renderedWithin d .generic .numbered [.bool true] texts ok
    exact ⟨r, rfl, Option.some.inj sql, closed.1⟩

end Draft

end BoundSql
