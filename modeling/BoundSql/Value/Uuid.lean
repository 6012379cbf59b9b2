import BoundSql.Number.Bytes

/-!
# UUIDs

Universally unique identifiers, their written forms and their sixteen bytes.
-/

set_option autoImplicit false

namespace BoundSql

/-- A universally unique identifier. -/
structure Uuid where
  value : BitVec 128
  deriving DecidableEq, Repr

namespace Uuid

/-- The sixteen bytes of an identifier. -/
def bytes (u : Uuid) : List UInt8 := bigEndian 16 u.value.toNat

/-- The identifier in lower-case digits with hyphens between its five groups. -/
def text (u : Uuid) : Text :=
  let digits := Text.hex 32 u.value.toNat
  digits.take 8 ++ '-' :: (digits.drop 8).take 4 ++ '-' :: (digits.drop 12).take 4 ++
    '-' :: (digits.drop 16).take 4 ++ '-' :: digits.drop 20

/-- The thirty-two digits of an identifier, with hyphens between its groups or without. -/
def ofDigits? (body : Text) : Option Uuid :=
  let digits := body.filter (· != '-')
  let hyphens := (List.range body.length).filter fun i => body[i]? == some '-'
  if digits.length = 32 ∧ (hyphens = [] ∨ hyphens = [8, 13, 18, 23]) then
    (Text.hexValue? digits).map fun n => ⟨BitVec.ofNat 128 n⟩
  else none

/-- The name space that introduces an identifier as a resource name. -/
def resourcePrefix : Text := "urn:uuid:"

/-- Reads an identifier: its digits alone, in braces, or as a resource name, whose
name space may be in any letter case. -/
def ofText? (text : Text) : Option Uuid :=
  match text with
  | '\x7b' :: rest => if rest.getLast? = some '\x7d' then ofDigits? rest.dropLast else none
  | _ =>
    if (text.take resourcePrefix.length).map Char.toLower = resourcePrefix then
      ofDigits? (text.drop resourcePrefix.length)
    else ofDigits? text

end Uuid

end BoundSql
