import BoundSql.Proofs.Division

/-!
# Quoted names

A name is quoted by writing every field quote in it twice and one more at either end. Reading a
text knows nothing of quotes that are written twice: within a name, the first of two closes the
name and the second opens it again. As both belong to a name, a quoted name is one stretch of
quoted characters all the same, after which nothing is open (`Lexicon.spans_quoteName`). The name
can be read off what is written (`Lexicon.nameOf_quoteName`), and so no two names are written
alike. What is quoted already is not found to need quotes, although quoting it again would change
it (`Lexicon.quoteName_injective_and_settled`).
-/

set_option autoImplicit false

namespace BoundSql

/-- A text with a character at either end that is not blank is left alone by trimming. -/
theorem Text.trim_enclosed {c d : Char} (first : isBlank c = false) (last : isBlank d = false)
    (t : Text) : trim (c :: (t ++ [d])) = c :: (t ++ [d]) := by
  have start : trimStart (c :: (t ++ [d])) = c :: (t ++ [d]) :=
    List.dropWhile_cons_of_neg (by simp [first])
  have backwards : (c :: (t ++ [d])).reverse = d :: (c :: t).reverse := by simp
  have end_ : (d :: (c :: t).reverse).dropWhile isBlank = d :: (c :: t).reverse :=
    List.dropWhile_cons_of_neg (by simp [last])
  rw [trim, start, trimEnd, backwards, end_, ← backwards, List.reverse_reverse]

namespace Lexicon

variable {lex : Lexicon} {quote : Char}

/-! ## Reading a name back -/

/-- The text with every two quotes side by side taken for one. -/
def undoubled (quote : Char) : Text → Text
  | [] => []
  | [c] => [c]
  | c :: d :: rest =>
    if c = quote ∧ d = quote then c :: undoubled quote rest else c :: undoubled quote (d :: rest)

/-- The name that is written: what stands between its quotes, or all of it if it has none. -/
def nameOf (lex : Lexicon) : Text → Text
  | [] => []
  | c :: rest => if c = lex.quotes.field then undoubled c rest.dropLast else c :: rest

theorem undoubled_cons_of_ne {c : Char} (other : c ≠ quote) (rest : Text) :
    undoubled quote (c :: rest) = c :: undoubled quote rest := by
  cases rest with
  | nil => rfl
  | cons d rest =>
    rw [undoubled, if_neg]
    rintro ⟨same, -⟩
    exact other same

theorem undoubled_doubled (quote : Char) (name : Text) :
    undoubled quote (doubled quote name) = name := by
  induction name with
  | nil => rfl
  | cons c rest ih =>
    by_cases same : c = quote
    · subst same
      rw [doubled, if_pos rfl, undoubled, if_pos ⟨rfl, rfl⟩, ih]
    · rw [doubled, if_neg same, undoubled_cons_of_ne same, ih]

theorem nameOf_quoteName (lex : Lexicon) (name : Text) :
    lex.nameOf (lex.quoteName name) = name := by
  rw [quoteName, nameOf, if_pos rfl, List.dropLast_concat, undoubled_doubled]

theorem nameOf_of_notMem {name : Text} (bare : lex.quotes.field ∉ name) :
    lex.nameOf name = name := by
  cases name with
  | nil => rfl
  | cons c rest =>
    rw [nameOf, if_neg]
    rintro rfl
    exact bare List.mem_cons_self

/-- No two names are quoted alike. -/
theorem quoteName_injective (lex : Lexicon) : Function.Injective lex.quoteName := by
  intro name other same
  rw [← lex.nameOf_quoteName name, same, lex.nameOf_quoteName]

theorem length_le_doubled (quote : Char) (name : Text) :
    name.length ≤ (doubled quote name).length := by
  induction name with
  | nil => exact Nat.le_refl 0
  | cons c rest ih =>
    rw [doubled]
    split
    · simp only [List.length_cons]
      omega
    · simp only [List.length_cons]
      omega

theorem quoteName_ne (lex : Lexicon) (name : Text) : lex.quoteName name ≠ name := by
  intro same
  have longer := length_le_doubled lex.quotes.field name
  have lengths := congrArg List.length same
  simp only [quoteName, List.length_cons, List.length_append, List.length_nil] at lengths
  omega

/-! ## Reading what is written -/

/-- Of two quotes side by side the first closes the name and the second opens it again, and both
belong to a name. -/
theorem spansFrom_doubled (lex : Lexicon) (name : Text) :
    Text.spansFrom lex.quotes .field (doubled lex.quotes.field name) =
      List.replicate (doubled lex.quotes.field name).length .field := by
  induction name with
  | nil => rfl
  | cons c rest ih =>
    by_cases same : c = lex.quotes.field
    · have closing : Span.next lex.quotes .field c = .plain := if_pos same
      have opening : Span.label lex.quotes .plain c = .field := if_pos same
      rw [doubled, if_pos same, Text.spansFrom, closing, Text.spansFrom, opening, Span.next,
        opening, ih]
      rfl
    · have inside : Span.next lex.quotes .field c = .field := if_neg same
      rw [doubled, if_neg same, Text.spansFrom, inside, ih]
      rfl

/-- Every character of a quoted name belongs to a name. -/
theorem spans_quoteName (lex : Lexicon) (name : Text) :
    (lex.quoteName name).spans lex.quotes =
      List.replicate (lex.quoteName name).length .field := by
  have opening : Span.label lex.quotes .plain lex.quotes.field = .field := if_pos rfl
  rw [Text.spans, quoteName, Text.spansFrom, Span.next, opening, Text.spansFrom_append,
    spansFrom_doubled, openAfter_doubled, List.length_cons, List.length_append,
    List.replicate_succ, List.replicate_add]
  rfl

theorem plainChars_quoteName (lex : Lexicon) (name : Text) :
    (lex.quoteName name).plainChars lex.quotes = [] := by
  have none_ : (lex.quoteName name).plainAt lex.quotes = [] := by
    apply Text.plainFrom_eq_nil
    have spans := lex.spans_quoteName name
    rw [Text.spans] at spans
    rw [spans]
    intro label hl
    rw [List.eq_of_mem_replicate hl]
    exact Span.noConfusion
  rw [Text.plainChars, none_]
  rfl

/-- A quoted name does not need quotes, if trimming leaves them alone. -/
theorem needsQuotes_quoteName (blank : Text.isBlank lex.quotes.field = false) (name : Text) :
    lex.needsQuotes (lex.quoteName name) = false := by
  have trimmed : (lex.quoteName name).trim = lex.quoteName name :=
    Text.trim_enclosed blank blank _
  have first : (lex.quoteName name).head? = some lex.quotes.field := rfl
  have last : (lex.quoteName name).getLast? = some lex.quotes.field := by
    rw [quoteName, ← List.cons_append, List.getLast?_concat]
  have quoted : lex.isQuotedName (lex.quoteName name) = true := by
    rw [isQuotedName, trimmed, Text.isWrappedIn, first, last]
    simp
  rw [needsQuotes, quoted]
  rfl

/-- Names are quoted apart: no two of them alike. Every character of a quoted name belongs to a
name, no quote is open after it, and whatever is put behind it is read as by itself. It does not
need quotes again, unless its own are blanks, and quoting it again would change it. -/
theorem quoteName_injective_and_settled (lex : Lexicon) :
    Function.Injective lex.quoteName ∧ ∀ name : Text,
      (lex.quoteName name).spans lex.quotes =
          List.replicate (lex.quoteName name).length .field ∧
        (lex.quoteName name).isClosed lex.quotes = true ∧
        (∀ later : Text, (lex.quoteName name ++ later).spans lex.quotes =
          List.replicate (lex.quoteName name).length .field ++ later.spans lex.quotes) ∧
        (Text.isBlank lex.quotes.field = false → lex.needsQuotes (lex.quoteName name) = false) ∧
        lex.quoteName (lex.quoteName name) ≠ lex.quoteName name := by
  refine ⟨lex.quoteName_injective, fun name => ?_⟩
  have spans := lex.spans_quoteName name
  have closed := lex.isClosed_quoteName name
  have again : lex.quoteName (lex.quoteName name) ≠ lex.quoteName name :=
    lex.quoteName_ne (lex.quoteName name)
  refine ⟨spans, closed, fun later => ?_, fun blank => needsQuotes_quoteName blank name, again⟩
  rw [Text.spans, Text.spansFrom_append, Text.isClosed_iff.1 closed, ← Text.spans, spans]
  rfl

/-- A name with a quote in it is quoted once. -/
theorem quoteName_injective_and_settled_backquoted :
    Dialect.generic.quoteName "a`b" = "`a``b`" ∧
      Dialect.generic.needsQuotes "`a``b`" = false ∧
      Dialect.generic.quoteName "`a``b`" ≠ "`a``b`" := by
  have written : Dialect.generic.quoteName "a`b" = "`a``b`" := by decide
  have settled := (quoteName_injective_and_settled Dialect.generic.toLexicon).2 "a`b"
  rw [written] at settled
  obtain ⟨-, -, -, needs, again⟩ := settled
  exact ⟨written, needs (by decide), again⟩

end Lexicon

end BoundSql
