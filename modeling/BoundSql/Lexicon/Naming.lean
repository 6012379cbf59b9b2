import BoundSql.Lexicon.Reading

/-!
# Writing names

Quoting a name, qualifying a column with an alias, and taking a table reference
such as `users u` apart. Inside a quoted name the quote is written twice.
-/

set_option autoImplicit false

namespace BoundSql.Lexicon

/-- The text with every `quote` in it written twice. -/
def doubled (quote : Char) : Text → Text
  | [] => []
  | c :: rest => if c = quote then c :: c :: doubled quote rest else c :: doubled quote rest

/-- The name in field quotes. -/
def quoteName (lex : Lexicon) (name : Text) : Text :=
  lex.quotes.field :: (doubled lex.quotes.field name ++ [lex.quotes.field])

/-- The name in field quotes, or as it is when it has them already. -/
def ensureQuoted (lex : Lexicon) (name : Text) : Text :=
  if lex.isQuotedName name then name else lex.quoteName name

/-- A column with its qualifier; both are quoted when one of them needs it. -/
def qualify (lex : Lexicon) (qualifier column : Text) : Text :=
  if lex.needsQuotes qualifier || lex.needsQuotes column then
    lex.ensureQuoted qualifier ++ lex.separator :: lex.ensureQuoted column
  else qualifier ++ lex.separator :: column

/-- A table text as table and alias: cut at its space when it is not quoted and
has exactly one, else the table alone. -/
def splitTable (lex : Lexicon) (text : Text) : Text × Option Text :=
  if lex.isQuotedText text || lex.isQuotedName text then (text, none)
  else
    match text.dropWhile (· != ' ') with
    | [] => (text, none)
    | _ :: rest => if rest.contains ' ' then (text, none) else (text.takeWhile (· != ' '), some rest)

end BoundSql.Lexicon
