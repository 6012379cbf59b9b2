import BoundSql.Quote.Span

/-!
# Lexicon

The part of a dialect that decides how SQL text is read and how names are
written: the quotes, the separator between a qualifier and a column, the words
for truth values and the characters that force a name into quotes.
-/

set_option autoImplicit false

namespace BoundSql

/-- The characters and words with which a backend reads and writes names. -/
structure Lexicon where
  quotes : Quotes
  /-- Stands between a table alias and a column. -/
  separator : Char
  /-- Spellings of the truth values, compared without regard to letter case. -/
  booleans : List Text
  /-- Characters that force a name to be quoted. -/
  reserved : List Char
  deriving DecidableEq, Repr

/-- The characters that must be quoted to stand literally in a name. -/
def usualReserved : List Char := " `~!@#$%^&*()-=+[]\x7b\x7d\\|;:'\",.<>/?".toList

end BoundSql
