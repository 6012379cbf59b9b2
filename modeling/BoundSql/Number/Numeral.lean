import BoundSql.Text.Basic

/-!
# Numerals

The written forms of a number: an optional sign, then `inf`, `infinity` or `nan`
in any letter case, or digits with an optional point and an optional exponent.
At least one digit stands before or after the point, and at least one in the
exponent.
-/

set_option autoImplicit false

namespace BoundSql.Text

/-- The text without one sign at its start. -/
def withoutSign : Text → Text
  | '+' :: rest => rest
  | '-' :: rest => rest
  | text => text

/-- Whether the text is not empty and consists of decimal digits. -/
def isDigits (text : Text) : Bool := !text.isEmpty && text.all Char.isDigit

/-- Whether the text is empty or an exponent such as `e-3`. -/
def isExponent : Text → Bool
  | [] => true
  | c :: rest => (c == 'e' || c == 'E') && isDigits (withoutSign rest)

/-- Whether the text is a decimal number without a sign. -/
def isDecimal (text : Text) : Bool :=
  let whole := text.takeWhile Char.isDigit
  match text.dropWhile Char.isDigit with
  | '.' :: rest =>
    (!whole.isEmpty || !(rest.takeWhile Char.isDigit).isEmpty) &&
      isExponent (rest.dropWhile Char.isDigit)
  | rest => !whole.isEmpty && isExponent rest

/-- Whether the text names an infinity or the value that is no number. -/
def isSpecialNumber (text : Text) : Bool :=
  let small := text.map Char.toLower
  small == "inf" || small == "infinity" || small == "nan"

/-- Whether the text is a numeral. -/
def isNumeral (text : Text) : Bool :=
  isDecimal (withoutSign text) || isSpecialNumber (withoutSign text)

end BoundSql.Text
