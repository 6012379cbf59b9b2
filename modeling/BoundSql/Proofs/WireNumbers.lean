import BoundSql.Value.Wire
import Mathlib.Algebra.Ring.Int.Defs
import Mathlib.Data.Nat.Cast.Basic

/-!
# Whole numbers on the wire

A value is written for a parameter by a program that works on one buffer in place
(`Value.codec`). It leaves the bytes to the codecs of the driver, one for each type that a value
can hold, and a number is narrowed to the type that the parameter asks for before it is handed to
the codec of that type. Whatever a program had written before it failed would stand. None writes
before its last check, and so with the codecs as they are documented every value settles as
`Value.encode` says (`Value.codec_on`).

Of whole numbers it is shown that no digit is lost. A number that is narrowed keeps its lowest
bytes (`bigEndianInt_bmod`), and these are all of it exactly if it is in the range of the type
(`signedValue_bigEndianInt`). Of the codecs of the driver only those of the three widths are taken
for granted (`Codecs.WriteNumbers`).
-/

set_option autoImplicit false

namespace BoundSql

/-! ## Programs on a buffer -/

/-- Whether a parameter has a value. -/
inductive Presence where
  | absent
  | present

/-- A program on a buffer of bytes in place. What it has written stands when it fails. -/
abbrev Writing := ExceptT WireFault (StateM (List UInt8))

namespace Writing

variable {α : Type}

/-- The result of a program on a buffer, and the buffer that it leaves behind. -/
def on (x : Writing α) (buffer : List UInt8) : Except WireFault α × List UInt8 := x.run.run buffer

/-- Writes bytes behind those in the buffer. -/
def put (bytes : List UInt8) : Writing Presence := do
  modify (· ++ bytes)
  return .present

/-- What an answer leaves of a buffer: the bytes behind it, or the buffer as it was. -/
def settled (buffer : List UInt8) :
    Except WireFault (Option (List UInt8)) → Except WireFault Presence × List UInt8
  | .ok (some bytes) => (.ok .present, buffer ++ bytes)
  | .ok none => (.ok .absent, buffer)
  | .error fault => (.error fault, buffer)

/-- A check before a program: it fails without running the program. -/
theorem on_unless (fits : Bool) (fault : WireFault) (x : Writing α) (buffer : List UInt8) :
    on (do unless fits do throw fault
           x) buffer = if fits then on x buffer else (.error fault, buffer) := by
  cases fits <;> rfl

end Writing

/-! ## Codecs -/

/-- How the values of a type are written: the types of parameter that take them, and what is
written for one of these. -/
structure Codec (α : Type) where
  accepts : WireType → Bool
  write : α → WireType → Writing Presence

namespace Codec

variable {α : Type}

/-- Writes a value for a parameter of a type that takes it, and nothing for any other. -/
def checked (c : Codec α) (a : α) (type : WireType) : Writing Presence :=
  if c.accepts type then c.write a type else throw .wrongType

/-- A codec for one type of parameter, with the bits of a value as so many bytes, the most
significant first. -/
structure WritesBits (c : Codec α) (own : WireType) (width : Nat) (bits : α → Nat) : Prop where
  accepts : ∀ type, c.accepts type = decide (type = own)
  write : ∀ a buffer, (c.write a own).on buffer = (.ok .present, buffer ++ bigEndian width (bits a))

end Codec

/-- The codecs of the types that values hold. A single-precision number is given by its bits. -/
structure Codecs where
  bool : Codec Bool
  int16 : Codec Int16
  int32 : Codec Int32
  int64 : Codec Int64
  single : Codec UInt32
  double : Codec Double
  text : Codec Text
  uuid : Codec Uuid
  timestamp : Codec Timestamp
  json : Codec Json

namespace Codecs

/-- What is documented of the codecs of whole numbers: each width has one type of parameter, and
the bits are written as bytes, the most significant first. -/
structure WriteNumbers (c : Codecs) : Prop where
  int16 : c.int16.WritesBits .int2 2 fun i => i.toBitVec.toNat
  int32 : c.int32.WritesBits .int4 4 fun i => i.toBitVec.toNat
  int64 : c.int64.WritesBits .int8 8 fun i => i.toBitVec.toNat

/-- The codecs as they are documented. -/
def documented : Codecs where
  bool := ⟨(· == .bool), fun b _ => .put [if b then 1 else 0]⟩
  int16 := ⟨(· == .int2), fun i _ => .put (bigEndian 2 i.toBitVec.toNat)⟩
  int32 := ⟨(· == .int4), fun i _ => .put (bigEndian 4 i.toBitVec.toNat)⟩
  int64 := ⟨(· == .int8), fun i _ => .put (bigEndian 8 i.toBitVec.toNat)⟩
  single := ⟨(· == .float4), fun bits _ => .put (bigEndian 4 bits.toNat)⟩
  double := ⟨(· == .float8), fun d _ => .put (bigEndian 8 d.bits.toNat)⟩
  text := ⟨WireType.takesText, fun t _ => .put t.utf8⟩
  uuid := ⟨(· == .uuid), fun u _ => .put u.bytes⟩
  timestamp := ⟨(· == .timestamptz), fun t _ => .put (bigEndianInt 8 t.microsSince2000)⟩
  json :=
    { accepts type := type == .json || type == .jsonb
      -- The binary form begins with the number of its version.
      write j type := do
        if type = .jsonb then discard (Writing.put [1])
        Writing.put j.compact.utf8 }

end Codecs

/-- How a value is written. It decides for itself which types of parameter take it: a number is
narrowed to the type that is asked for, if it is in its range, and all else is left to the codec of
what the value holds. -/
def Value.codec (c : Codecs) : Codec Value where
  accepts _ := true
  write v type :=
    match v with
    | .null => return .absent
    | .bool b => c.bool.checked b type
    | .int i =>
      if type = .int2 then do
        unless fitsBytes 2 i.toInt do throw .outOfRange
        c.int16.checked i.toInt16 type
      else if type = .int4 then do
        unless fitsBytes 4 i.toInt do throw .outOfRange
        c.int32.checked i.toInt32 type
      else c.int64.checked i type
    | .float d =>
      if type = .float4 then c.single.checked d.toSingle type else c.double.checked d type
    | .text t => c.text.checked t type
    | .uuid u => c.uuid.checked u type
    | .timestamp t => c.timestamp.checked t type
    | .json j => c.json.checked j type

/-! ## Bytes and the numbers that they stand for -/

/-- The number with the given bytes, the most significant first. -/
def unsignedValue : List UInt8 → Nat
  | [] => 0
  | b :: rest => b.toNat * 256 ^ rest.length + unsignedValue rest

/-- The whole number whose two's complement has the given bytes, the most significant first. -/
def signedValue (bytes : List UInt8) : Int :=
  let n := unsignedValue bytes
  if 2 * n < 256 ^ bytes.length then n else n - 256 ^ bytes.length

theorem unsignedValue_bigEndian (width n : Nat) :
    unsignedValue (bigEndian width n) = n % 256 ^ width := by
  induction width with
  | zero => rw [Nat.pow_zero, Nat.mod_one]; rfl
  | succ width ih =>
    rw [bigEndian, unsignedValue, ih, length_bigEndian, Nat.mod_pow_succ, UInt8.toNat_ofNat']
    show n / 256 ^ width % 256 * 256 ^ width + n % 256 ^ width = _
    rw [Nat.mul_comm, Nat.add_comm]

theorem fitsBytes_iff (width : Nat) (i : Int) :
    fitsBytes width i = true ↔ -2 ^ (8 * width - 1) ≤ i ∧ i < 2 ^ (8 * width - 1) := by
  simp [fitsBytes, and_comm]

/-- As many bits as there are in some bytes give the numbers of these bytes, half of which are
negative. -/
theorem pow_bytes {width : Nat} (positive : 0 < width) :
    256 ^ width = 2 * 2 ^ (8 * width - 1) := by
  have bits : 8 * width = (8 * width - 1) + 1 := by omega
  calc 256 ^ width = 2 ^ (8 * width) := (Nat.pow_mul 2 8 width).symm
    _ = 2 ^ ((8 * width - 1) + 1) := congrArg (2 ^ ·) bits
    _ = 2 * 2 ^ (8 * width - 1) := Nat.pow_succ'

/-- The remainder of a number in the lower or the upper half of a range, and the number that is
read from it. -/
theorem signed_emod {half m : Nat} (whole : m = 2 * half) {i : Int} (low : -half ≤ i)
    (high : i < half) :
    (if 2 * (i % m).toNat < m then ((i % m).toNat : Int) else (i % m).toNat - m) = i := by
  by_cases negative : i < 0
  · have shifted : i % m = i + m := by
      rw [← Int.add_emod_right, Int.emod_eq_of_lt (by omega) (by omega)]
    rw [shifted, if_neg (by omega)]
    omega
  · have same : i % m = i := Int.emod_eq_of_lt (by omega) (by omega)
    rw [same, if_pos (by omega)]
    omega

/-- A number in the range of a type is the one that its bytes stand for. -/
theorem signedValue_bigEndianInt {width : Nat} (positive : 0 < width) {i : Int}
    (fits : fitsBytes width i = true) : signedValue (bigEndianInt width i) = i := by
  obtain ⟨low, high⟩ := (fitsBytes_iff width i).1 fits
  have below : (i % (256 ^ width : Nat)).toNat < 256 ^ width := by
    have room : 0 < 256 ^ width := Nat.pow_pos (by decide)
    have remainder := Int.emod_lt_of_pos i (Int.natCast_pos.2 room)
    omega
  have read : unsignedValue (bigEndianInt width i) = (i % (256 ^ width : Nat)).toNat :=
    (unsignedValue_bigEndian width _).trans (Nat.mod_eq_of_lt below)
  rw [signedValue, read, bigEndianInt, length_bigEndian]
  exact_mod_cast signed_emod (pow_bytes positive) (by exact_mod_cast low) (by exact_mod_cast high)

/-- The bits of a word as bytes are those of the number that it stands for. -/
theorem bigEndian_toNat {width n : Nat} (bits : n = 8 * width) (x : BitVec n) :
    bigEndian width x.toNat = bigEndianInt width x.toInt := by
  have word : x.toNat = (x.toInt % (2 ^ n : Nat)).toNat := by
    rw [← BitVec.toNat_ofInt, BitVec.ofInt_toInt]
  have size : 2 ^ n = Nat.pow 256 width := by
    rw [bits, Nat.pow_mul]
    rfl
  rw [bigEndianInt, word, size]

/-- A number that is narrowed to so many bytes keeps these of its bytes. -/
theorem bigEndianInt_bmod (width : Nat) (i : Int) :
    bigEndianInt width (i.bmod (256 ^ width)) = bigEndianInt width i := by
  show bigEndian width (i.bmod (256 ^ width) % (256 ^ width : Nat)).toNat = _
  rw [Int.bmod_emod]
  rfl

theorem bigEndian_toInt16 (i : Int64) :
    bigEndian 2 i.toInt16.toBitVec.toNat = bigEndianInt 2 i.toInt := by
  rw [bigEndian_toNat rfl]
  show bigEndianInt 2 i.toInt16.toInt = _
  rw [Int64.toInt_toInt16]
  exact bigEndianInt_bmod 2 i.toInt

theorem bigEndian_toInt32 (i : Int64) :
    bigEndian 4 i.toInt32.toBitVec.toNat = bigEndianInt 4 i.toInt := by
  rw [bigEndian_toNat rfl]
  show bigEndianInt 4 i.toInt32.toInt = _
  rw [Int64.toInt_toInt32]
  exact bigEndianInt_bmod 4 i.toInt

theorem bigEndian_int64 (i : Int64) :
    bigEndian 8 i.toBitVec.toNat = bigEndianInt 8 i.toInt := by
  rw [bigEndian_toNat rfl]
  rfl

/-- A word of eight bytes fits into eight. -/
theorem fitsBytes_int64 (i : Int64) : fitsBytes 8 i.toInt = true :=
  (fitsBytes_iff 8 i.toInt).2 ⟨i.le_toInt, i.toInt_lt⟩

/-! ## What becomes of a buffer -/

namespace Codec

variable {α : Type} {c : Codec α} {own : WireType} {width : Nat} {bits : α → Nat}

theorem WritesBits.checked_own (h : c.WritesBits own width bits) (a : α) (buffer : List UInt8) :
    (c.checked a own).on buffer = (.ok .present, buffer ++ bigEndian width (bits a)) := by
  have accepts : c.accepts own = true := by rw [h.accepts, decide_eq_true rfl]
  rw [checked, accepts, if_pos rfl, h.write]

theorem WritesBits.checked_other (h : c.WritesBits own width bits) (a : α) {type : WireType}
    (other : type ≠ own) (buffer : List UInt8) :
    (c.checked a type).on buffer = (.error .wrongType, buffer) := by
  have accepts : c.accepts type = false := by rw [h.accepts, decide_eq_false other]
  rw [checked, accepts]
  rfl

end Codec

theorem Codecs.documented_writeNumbers : documented.WriteNumbers where
  int16 := ⟨fun _ => rfl, fun _ _ => rfl⟩
  int32 := ⟨fun _ => rfl, fun _ _ => rfl⟩
  int64 := ⟨fun _ => rfl, fun _ _ => rfl⟩

/-! ### Numbers -/

namespace Value

variable {c : Codecs} {type : WireType}

theorem codec_on_write (c : Codecs) (v : Value) (type : WireType) (buffer : List UInt8) :
    ((codec c).checked v type).on buffer = ((codec c).write v type).on buffer := by
  rw [Codec.checked]
  exact congrArg (fun x => Writing.on x buffer) (if_pos rfl)

/-- A number settles on its bytes behind the buffer, or on a fault and the buffer as it was. -/
theorem codec_int_on (numbers : c.WriteNumbers) (i : Int64) (type : WireType)
    (buffer : List UInt8) :
    ((codec c).checked (.int i) type).on buffer =
      Writing.settled buffer ((Value.int i).encode type) := by
  rw [codec_on_write]
  cases type with
  | int2 =>
    show Writing.on (do unless fitsBytes 2 i.toInt do throw .outOfRange
                        c.int16.checked i.toInt16 .int2) buffer = _
    rw [Writing.on_unless, numbers.int16.checked_own, bigEndian_toInt16]
    simp only [encode, WireType.intWidth?]
    cases fitsBytes 2 i.toInt <;> rfl
  | int4 =>
    show Writing.on (do unless fitsBytes 4 i.toInt do throw .outOfRange
                        c.int32.checked i.toInt32 .int4) buffer = _
    rw [Writing.on_unless, numbers.int32.checked_own, bigEndian_toInt32]
    simp only [encode, WireType.intWidth?]
    cases fitsBytes 4 i.toInt <;> rfl
  | int8 =>
    show (c.int64.checked i .int8).on buffer = _
    rw [numbers.int64.checked_own, bigEndian_int64]
    simp only [encode, WireType.intWidth?, fitsBytes_int64, if_true]
    rfl
  | _ =>
    -- All other types are left to the codec of the widest number, which takes none of them.
    exact numbers.int64.checked_other i (by decide) buffer

/-- Every value settles as it is encoded, with the codecs as they are documented. -/
theorem codec_on (v : Value) (type : WireType) (buffer : List UInt8) :
    ((codec .documented).checked v type).on buffer = Writing.settled buffer (v.encode type) := by
  cases v with
  | int i => exact codec_int_on Codecs.documented_writeNumbers i type buffer
  | null => rfl
  | json j =>
    cases type with
    | jsonb => exact congrArg (Prod.mk _) (List.append_assoc buffer [1] j.compact.utf8)
    | _ => rfl
  | bool | float | text | uuid | timestamp => cases type <;> rfl

/-- A number for a parameter of two, four or eight bytes is written exactly if it is in the range
of the type, in as many bytes, and it is the number that they stand for in two's complement. Out of
range it is refused, and a parameter of any other type takes no number. Whatever is refused leaves
the buffer as it was. -/
theorem int_written (c : Codecs) (numbers : c.WriteNumbers) (i : Int64) (type : WireType)
    (buffer : List UInt8) :
    let outcome := ((codec c).checked (.int i) type).on buffer
    outcome = Writing.settled buffer ((Value.int i).encode type) ∧
    (∀ width, (type, width) ∈ [(WireType.int2, 2), (.int4, 4), (.int8, 8)] →
      (-2 ^ (8 * width - 1) ≤ i.toInt ∧ i.toInt < 2 ^ (8 * width - 1) →
        ∃ bytes, outcome = (.ok .present, buffer ++ bytes) ∧ bytes.length = width ∧
          signedValue bytes = i.toInt) ∧
      (¬(-2 ^ (8 * width - 1) ≤ i.toInt ∧ i.toInt < 2 ^ (8 * width - 1)) →
        outcome = (.error .outOfRange, buffer))) ∧
    (type ∉ [.int2, .int4, .int8] → outcome = (.error .wrongType, buffer)) := by
  intro outcome
  have settles : outcome = Writing.settled buffer ((Value.int i).encode type) :=
    codec_int_on numbers i type buffer
  refine ⟨settles, ?_, ?_⟩
  · intro width listed
    -- The three types are those with a width, and they differ in nothing else here.
    have known : type.intWidth? = some width ∧ 0 < width := by
      simp only [List.mem_cons, Prod.mk.injEq, List.not_mem_nil, or_false] at listed
      rcases listed with ⟨rfl, rfl⟩ | ⟨rfl, rfl⟩ | ⟨rfl, rfl⟩ <;> decide
    obtain ⟨known, positive⟩ := known
    simp only [encode, known] at settles
    rw [← fitsBytes_iff]
    constructor
    · intro fits
      rw [if_pos fits] at settles
      exact ⟨_, settles, length_bigEndian _ _, signedValue_bigEndianInt positive fits⟩
    · intro beyond
      rw [if_neg beyond] at settles
      exact settles
  · intro other
    rw [settles]
    cases type with
    | int2 | int4 | int8 => exact absurd (by decide) other
    | _ => rfl

/-- The least number of two bytes, one beyond the greatest, and one for a text. -/
theorem int_written_of_bounds :
    (∃ bytes, ((codec .documented).checked (.int (-32768)) .int2).on [7] =
        (.ok .present, [7] ++ bytes) ∧ bytes.length = 2 ∧ signedValue bytes = -32768) ∧
      ((codec .documented).checked (.int 32768) .int2).on [7] = (.error .outOfRange, [7]) ∧
      ((codec .documented).checked (.int 5) .text).on [7] = (.error .wrongType, [7]) := by
  have numbers := Codecs.documented_writeNumbers
  refine ⟨?_, ?_, ?_⟩
  · exact ((int_written .documented numbers (-32768) .int2 [7]).2.1 2 (by decide)).1 (by decide)
  · exact ((int_written .documented numbers 32768 .int2 [7]).2.1 2 (by decide)).2 (by decide)
  · exact (int_written .documented numbers 5 .text [7]).2.2 (by decide)

end Value

end BoundSql
