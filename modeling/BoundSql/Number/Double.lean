import BoundSql.Number.Bytes

/-!
# Double-precision numbers

IEEE 754 binary64 numbers held by their bits, the single-precision numbers among
them, and the rounding to single precision. A finite number is a sign, a whole
mantissa and a power of two, and rounding is exact integer arithmetic on these.
-/

set_option autoImplicit false

namespace BoundSql

/-- A binary64 number, given by its bits. -/
structure Double where
  bits : UInt64
  deriving DecidableEq, Repr

/-- `num / den` rounded to a whole number, halves to the even neighbour. -/
def roundHalfEven (num den : Nat) : Nat :=
  let whole := num / den
  let twice := 2 * (num % den)
  if twice < den ∨ (twice = den ∧ whole % 2 = 0) then whole else whole + 1

namespace Double

/-- Whether the sign bit is set. -/
def isNegative (d : Double) : Bool := Nat.pow 2 63 ≤ d.bits.toNat

/-- The eleven bits of the exponent. -/
def exponentField (d : Double) : Nat := d.bits.toNat / Nat.pow 2 52 % Nat.pow 2 11

/-- The fifty-two bits of the fraction. -/
def fraction (d : Double) : Nat := d.bits.toNat % Nat.pow 2 52

/-- Whether the number is neither infinite nor undefined. -/
def isFinite (d : Double) : Bool := d.exponentField != 2047

/-- Whether the bits stand for no number. -/
def isNaN (d : Double) : Bool := d.exponentField == 2047 && d.fraction != 0

/-- The mantissa of a finite number, its leading one included. -/
def mantissa (d : Double) : Nat :=
  if d.exponentField = 0 then d.fraction else d.fraction + Nat.pow 2 52

/-- The power of two by which the mantissa of a finite number is multiplied. -/
def exponent (d : Double) : Int := (max d.exponentField 1 : Nat) - 1075

/-- The number with a sign and the remaining bits. -/
def assemble (negative : Bool) (magnitude : Nat) : Double :=
  ⟨UInt64.ofNat (magnitude + if negative then Nat.pow 2 63 else 0)⟩

/-- The binary32 number with the given bits; a signalling NaN becomes a quiet one. -/
def ofSingle (bits : UInt32) : Double :=
  let negative : Bool := Nat.pow 2 31 ≤ bits.toNat
  let field := bits.toNat / Nat.pow 2 23 % Nat.pow 2 8
  let fraction := bits.toNat % Nat.pow 2 23
  if field = 255 then
    let quiet := if fraction = 0 ∨ Nat.pow 2 22 ≤ fraction then 0 else Nat.pow 2 51
    assemble negative (2047 * Nat.pow 2 52 + fraction * Nat.pow 2 29 + quiet)
  else if field = 0 then
    if fraction = 0 then assemble negative 0
    else
      let top := fraction.log2
      let shifted := (fraction - Nat.pow 2 top) * Nat.pow 2 (52 - top)
      assemble negative ((top + 874) * Nat.pow 2 52 + shifted)
  else assemble negative ((field + 896) * Nat.pow 2 52 + fraction * Nat.pow 2 29)

/-- The bits of the nearest binary32 number, halves to the even neighbour. What
lies beyond the largest one becomes infinite. -/
def toSingle (d : Double) : UInt32 :=
  let sign := if d.isNegative then Nat.pow 2 31 else 0
  if d.isNaN then
    let payload := d.fraction / Nat.pow 2 29
    let quiet := if Nat.pow 2 22 ≤ payload then 0 else Nat.pow 2 22
    UInt32.ofNat (sign + 255 * Nat.pow 2 23 + payload + quiet)
  else if d.isFinite then
    if d.mantissa = 0 then UInt32.ofNat sign
    else
      let grid : Int := max (d.mantissa.log2 + d.exponent - 23) (-149)
      let steps := roundHalfEven (d.mantissa * Nat.pow 2 (d.exponent - grid).toNat)
        (Nat.pow 2 (grid - d.exponent).toNat)
      UInt32.ofNat (sign + min ((grid + 149).toNat * Nat.pow 2 23 + steps) (255 * Nat.pow 2 23))
  else UInt32.ofNat (sign + 255 * Nat.pow 2 23)

end Double

end BoundSql
