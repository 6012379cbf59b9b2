import BoundSql.Text.Basic

/-!
# Bytes and hexadecimal digits

Whole numbers as big-endian bytes, negative ones in two's complement, and the
hexadecimal form of numbers.
-/

set_option autoImplicit false

namespace BoundSql

/-- The lowest `count` bytes of a number, the most significant first. -/
def bigEndian : Nat → Nat → List UInt8
  | 0, _ => []
  | count + 1, n => UInt8.ofNat (n / Nat.pow 256 count) :: bigEndian count n

/-- The two's complement of a whole number in `count` bytes, the most significant first. -/
def bigEndianInt (count : Nat) (i : Int) : List UInt8 :=
  bigEndian count (i % Nat.pow 256 count).toNat

@[simp] theorem length_bigEndian (count n : Nat) : (bigEndian count n).length = count := by
  induction count with
  | zero => rfl
  | succ count ih => simp [bigEndian, ih]

namespace Text

/-- A number in at least `width` lower-case hexadecimal digits. -/
def hex (width n : Nat) : Text :=
  let digits := Nat.toDigits 16 n
  List.replicate (width - digits.length) '0' ++ digits

/-- The value of a hexadecimal digit in either case. -/
def hexDigit? (c : Char) : Option Nat :=
  if '0' ≤ c ∧ c ≤ '9' then some (c.toNat - '0'.toNat)
  else if 'a' ≤ c ∧ c ≤ 'f' then some (c.toNat - 'a'.toNat + 10)
  else if 'A' ≤ c ∧ c ≤ 'F' then some (c.toNat - 'A'.toNat + 10)
  else none

/-- The number whose hexadecimal digits follow `above`. -/
def hexValueFrom (above : Nat) : Text → Option Nat
  | [] => some above
  | c :: rest =>
    match hexDigit? c with
    | some digit => hexValueFrom (16 * above + digit) rest
    | none => none

/-- The number with the given hexadecimal digits; there has to be at least one. -/
def hexValue? (text : Text) : Option Nat :=
  if text.isEmpty then none else hexValueFrom 0 text

/-- Bytes in hexadecimal, two digits each. -/
def ofBytes (bytes : List UInt8) : Text := bytes.flatMap fun b => hex 2 b.toNat

end Text

end BoundSql
