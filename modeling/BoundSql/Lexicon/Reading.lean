import BoundSql.Lexicon.Basic
import BoundSql.Number.Numeral
import BoundSql.Text.Blank
import BoundSql.Text.LetterCase

/-!
# Reading column text

What a column text is: a function call, an expression, a literal, a qualified
name, or a plain name that may still be qualified. The answers look at unquoted
characters only and do not parse SQL.
-/

set_option autoImplicit false

namespace BoundSql

/-- Words that stand for a function call without arguments. -/
def niladicFunctions : List Text :=
  ["CURRENT_TIME", "CURRENT_DATE", "CURRENT_TIMESTAMP", "LOCALTIMESTAMP", "CURRENT_USER"]

/-- The characters that make a column text an expression. -/
def comparisonMarks : List Char := ['=', '<', '>']

/-- Whether the text begins with `select` after its leading blanks. -/
def Text.isQuery (text : Text) : Bool := text.trim.startsWithWord "select"

namespace Lexicon

/-- Whether an opening parenthesis has a closing one somewhere after it. -/
def hasParentheses (text : Text) : Bool := (text.dropWhile (· != '(')).contains ')'

/-- A niladic function, or an unquoted `(` with an unquoted `)` after it. -/
def isFunction (lex : Lexicon) (text : Text) : Bool :=
  niladicFunctions.contains text.trim.upper || hasParentheses (text.plainChars lex.quotes)

/-- Begins with `case`, or has an unquoted comparison mark. -/
def isExpression (lex : Lexicon) (text : Text) : Bool :=
  text.trimStart.startsWithWord "case" ||
    (text.plainChars lex.quotes).any comparisonMarks.contains

/-- Has an unquoted separator that is not its last character. -/
def isQualified (lex : Lexicon) (text : Text) : Bool :=
  (text.zip (text.spans lex.quotes)).dropLast.contains (lex.separator, .plain)

/-- Enclosed in field quotes, blanks around it aside. -/
def isQuotedName (lex : Lexicon) (text : Text) : Bool := text.trim.isWrappedIn lex.quotes.field

/-- Enclosed in value quotes, blanks around it aside. -/
def isQuotedText (lex : Lexicon) (text : Text) : Bool := text.trim.isWrappedIn lex.quotes.value

/-- Has a reserved character and is not already a quoted name. -/
def needsQuotes (lex : Lexicon) (text : Text) : Bool :=
  !lex.isQuotedName text && text.any lex.reserved.contains

/-- Spells a truth value of the lexicon. -/
def isBoolean (lex : Lexicon) (text : Text) : Bool :=
  lex.booleans.any fun word => word.lower == text.lower

/-- A truth value, a quoted string or a number; blanks alone are none of them. -/
def isLiteral (lex : Lexicon) (text : Text) : Bool :=
  let body := text.trim
  !body.isEmpty && (lex.isBoolean body || lex.isQuotedText body || body.isNumeral)

/-- The items between unquoted commas, each trimmed. -/
def items (lex : Lexicon) (text : Text) : List Text := (text.cutAt lex.quotes ',').map Text.trim

end Lexicon

end BoundSql
