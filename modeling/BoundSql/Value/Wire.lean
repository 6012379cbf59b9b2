import BoundSql.Text.Utf8
import BoundSql.Value.Written

/-!
# Values on the wire

The binary form in which a bound value is sent to PostgreSQL for a parameter of a
given type. Each kind of value has its own types, and any other is refused. A
whole number goes into a type of fewer bytes only if it lies within its range.
-/

set_option autoImplicit false

namespace BoundSql

/-- A parameter type of PostgreSQL. -/
inductive WireType where
  | bool
  | int2
  | int4
  | int8
  | float4
  | float8
  | text
  | varchar
  | bpchar
  | name
  | unknown
  | uuid
  | timestamp
  | timestamptz
  | date
  | json
  | jsonb
  | bytea
  | numeric
  | oid
  deriving DecidableEq, Repr

/-- A value that a parameter cannot take. -/
inductive WireFault where
  /-- The type is none of those for the kind of value. -/
  | wrongType
  /-- The number lies outside the range of the type. -/
  | outOfRange
  deriving DecidableEq, Repr

namespace WireType

/-- The bytes of the whole-number types. -/
def intWidth? : WireType → Option Nat
  | .int2 => some 2
  | .int4 => some 4
  | .int8 => some 8
  | _ => none

/-- Whether the type takes a text. -/
def takesText : WireType → Bool
  | .text | .varchar | .bpchar | .name | .unknown => true
  | _ => false

end WireType

/-- Whether a whole number fits into `width` bytes in two's complement. -/
def fitsBytes (width : Nat) (i : Int) : Bool :=
  let limit : Int := Nat.pow 2 (8 * width - 1)
  i < limit && -limit ≤ i

namespace Value

/-- The bytes of a value for a parameter of a type; `none` is the absent value. -/
def encode (type : WireType) : Value → Except WireFault (Option (List UInt8))
  | .null => .ok none
  | .bool b => if type = .bool then .ok (some [if b then 1 else 0]) else .error .wrongType
  | .int i =>
    match type.intWidth? with
    | some width =>
      if fitsBytes width i.toInt then .ok (some (bigEndianInt width i.toInt))
      else .error .outOfRange
    | none => .error .wrongType
  | .float d =>
    match type with
    | .float4 => .ok (some (bigEndian 4 d.toSingle.toNat))
    | .float8 => .ok (some (bigEndian 8 d.bits.toNat))
    | _ => .error .wrongType
  | .text t => if type.takesText then .ok (some t.utf8) else .error .wrongType
  | .uuid u => if type = .uuid then .ok (some u.bytes) else .error .wrongType
  | .timestamp t =>
    if type = .timestamptz then .ok (some (bigEndianInt 8 t.microsSince2000))
    else .error .wrongType
  | .json j =>
    match type with
    | .json => .ok (some j.compact.utf8)
    | .jsonb => .ok (some (1 :: j.compact.utf8))
    | _ => .error .wrongType

end Value

end BoundSql
