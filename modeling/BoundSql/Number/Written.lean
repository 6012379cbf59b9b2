import BoundSql.Number.Shortest

/-!
# Numbers with a fraction in JSON

The text of a double as a JSON number: the fewest digits that read back,
positionally while the leading digit is worth between `1e-5` and `1e15`, and else
with a signed exponent. JSON has no infinite or undefined numbers, and these are
written as `null`.
-/

set_option autoImplicit false

namespace BoundSql

namespace Decimal

/-- The digits of a decimal without the zeros at their end, and the power of ten
of the last one that is left. -/
def significant (d : Decimal) : Text × Int :=
  let digits := Text.ofNat d.digits
  let kept := (digits.reverse.dropWhile (· == '0')).reverse
  if kept.isEmpty then ("0", 0) else (kept, d.exponent + (digits.length - kept.length : Nat))

/-- The decimal with a point and without an exponent. -/
def positional (digits : Text) (exponent : Int) : Text :=
  if 0 ≤ exponent then digits ++ List.replicate exponent.toNat '0' ++ ".0"
  else
    let places := exponent.natAbs
    if places < digits.length then
      digits.take (digits.length - places) ++ '.' :: digits.drop (digits.length - places)
    else "0." ++ List.replicate (places - digits.length) '0' ++ digits

/-- The decimal with one digit before the point and a signed exponent. -/
def scientific (digits : Text) (leading : Int) : Text :=
  let exponent := (if leading < 0 then '-' else '+') :: Text.ofNat leading.natAbs
  match digits with
  | [] => []
  | [d] => d :: 'e' :: exponent
  | d :: rest => d :: '.' :: rest ++ 'e' :: exponent

/-- The decimal as a JSON number. -/
def written (d : Decimal) : Text :=
  let (digits, exponent) := d.significant
  let leading := exponent + digits.length - 1
  if -5 ≤ leading ∧ leading ≤ 15 then positional digits exponent else scientific digits leading

end Decimal

/-- The number as JSON, or `null` if it is not finite. -/
def Double.written (d : Double) : Text :=
  if d.isFinite then
    if d.isNegative then '-' :: d.shortest.written else d.shortest.written
  else "null"

end BoundSql
