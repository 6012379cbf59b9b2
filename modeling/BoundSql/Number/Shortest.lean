import BoundSql.Number.Double

/-!
# Shortest decimals

The decimal number with the fewest digits that is read back as a given finite
double, and of those the nearest. The numbers that are read back as a double fill
an interval around it, whose ends belong to it exactly when its mantissa is even.
A decimal grid has a point in the interval only if one of the two grid points next
to the double lies in it, so two candidates for each number of digits suffice.
-/

set_option autoImplicit false

namespace BoundSql

/-- A decimal number: `digits` times ten to the power of `exponent`. -/
structure Decimal where
  digits : Nat
  exponent : Int
  deriving DecidableEq, Repr

/-- The quotient `num / den` of whole numbers. -/
structure Ratio where
  num : Nat
  den : Nat

/-- `n` times two to the power of `e`. -/
def Ratio.ofScaled (n : Nat) (e : Int) : Ratio :=
  ⟨n * Nat.pow 2 e.toNat, Nat.pow 2 (-e).toNat⟩

/-- A decimal number as a quotient. -/
def Decimal.ratio (d : Decimal) : Ratio :=
  ⟨d.digits * Nat.pow 10 d.exponent.toNat, Nat.pow 10 (-d.exponent).toNat⟩

/-- Whether one quotient is less than another. -/
def Ratio.lt (a b : Ratio) : Bool := a.num * b.den < b.num * a.den

/-- The distance of two quotients. -/
def Ratio.distance (a b : Ratio) : Ratio :=
  let left := a.num * b.den
  let right := b.num * a.den
  ⟨(left - right) + (right - left), a.den * b.den⟩

namespace Double

/-- The magnitude of a finite double. -/
def ratio (d : Double) : Ratio := .ofScaled d.mantissa d.exponent

/-- The lower end of the interval of numbers that round to a finite double. -/
def lowerEnd (d : Double) : Ratio :=
  .ofScaled (4 * d.mantissa - if d.fraction = 0 ∧ 1 < d.exponentField then 1 else 2)
    (d.exponent - 2)

/-- The upper end of the interval of numbers that round to a finite double. -/
def upperEnd (d : Double) : Ratio := .ofScaled (4 * d.mantissa + 2) (d.exponent - 2)

/-- Whether a decimal is read back as the magnitude of a finite double. -/
def readsBack (d : Double) (x : Decimal) : Bool :=
  if d.mantissa % 2 = 0 then !x.ratio.lt d.lowerEnd && !d.upperEnd.lt x.ratio
  else d.lowerEnd.lt x.ratio && x.ratio.lt d.upperEnd

/-- The power of ten of the leading digit of a finite double other than zero. -/
def magnitude (d : Double) : Int :=
  let scaled := d.ratio.num * Nat.pow 10 400 / d.ratio.den
  ((Nat.toDigits 10 scaled).length : Int) - 401

/-- The nearer of the two decimals with `count` digits next to a finite double, if
it or the other one is read back as the double. -/
def candidate (d : Double) (count : Nat) : Option Decimal :=
  let exponent := d.magnitude - (count : Int) + 1
  let below := d.ratio.num * Nat.pow 10 (-exponent).toNat /
    (d.ratio.den * Nat.pow 10 exponent.toNat)
  let low : Decimal := ⟨below, exponent⟩
  let high : Decimal := ⟨below + 1, exponent⟩
  match d.readsBack low, d.readsBack high with
  | true, true =>
    let toLow := low.ratio.distance d.ratio
    let toHigh := high.ratio.distance d.ratio
    if toLow.lt toHigh then some low
    else if toHigh.lt toLow then some high
    else if below % 2 = 0 then some low else some high
  | true, false => some low
  | false, true => some high
  | false, false => none

/-- The shortest decimal that is read back as the magnitude of a finite double. -/
def shortest (d : Double) : Decimal :=
  if d.mantissa = 0 then ⟨0, 0⟩
  else ((List.range 17).findSome? fun count => d.candidate (count + 1)).getD ⟨0, 0⟩

end Double

end BoundSql
