import BoundSql.Number.Written

/-!
# JSON values

JSON values and their compact text. A number is a whole number or a double, and a
double in it is finite, since JSON has no text for the others. The members of an
object are kept in the order of the code points of their names, each name once.
-/

set_option autoImplicit false

namespace BoundSql

/-- A JSON value. -/
inductive Json where
  | null
  | bool (b : Bool)
  | int (i : Int)
  | float (d : Double) (finite : d.isFinite = true)
  | text (t : Text)
  | array (items : List Json)
  | object (members : List (Text × Json))

namespace Json

/-- Puts a member into an ordered list of members, in the place of one of its name. -/
def insertMember (name : Text) (value : Json) : List (Text × Json) → List (Text × Json)
  | [] => [(name, value)]
  | (other, old) :: rest =>
    if name < other then (name, value) :: (other, old) :: rest
    else if name = other then (name, value) :: rest
    else (other, old) :: insertMember name value rest

/-- The object with the given members; a later one replaces an earlier one of its name. -/
def ofMembers (members : List (Text × Json)) : Json :=
  .object (members.foldl (fun sorted m => insertMember m.1 m.2 sorted) [])

/-- A character as it stands within a JSON string. -/
def escaped (c : Char) : Text :=
  if c = '"' then "\\\""
  else if c = '\\' then "\\\\"
  else if c = '\x08' then "\\b"
  else if c = '\x0c' then "\\f"
  else if c = '\n' then "\\n"
  else if c = '\r' then "\\r"
  else if c = '\t' then "\\t"
  else if c.toNat < 0x20 then "\\u" ++ Text.hex 4 c.toNat
  else [c]

/-- A text as a JSON string. -/
def quoted (text : Text) : Text := '"' :: (text.flatMap escaped ++ ['"'])

/-- The items in brackets with commas between them. -/
def arrayText (items : List Text) : Text := '[' :: (Text.joined "," items ++ "]")

/-- The members in braces with commas between them. -/
def objectText (members : List Text) : Text := '\x7b' :: (Text.joined "," members ++ "\x7d")

/-- A member with its written value. -/
def memberText (name value : Text) : Text := quoted name ++ ':' :: value

/-- A whole number in decimal digits, with a minus sign if it is negative. -/
def intText (i : Int) : Text :=
  if i < 0 then '-' :: Text.ofNat i.natAbs else Text.ofNat i.natAbs

mutual

/-- The text of a value without any blanks. -/
def compact : Json → Text
  | .null => "null"
  | .bool b => if b then "true" else "false"
  | .int i => intText i
  | .float d _ => d.written
  | .text t => quoted t
  | .array items => arrayText (compactItems items)
  | .object members => objectText (compactMembers members)

/-- The texts of the items of an array. -/
def compactItems : List Json → List Text
  | [] => []
  | item :: rest => compact item :: compactItems rest

/-- The texts of the members of an object. -/
def compactMembers : List (Text × Json) → List Text
  | [] => []
  | (name, value) :: rest => memberText name (compact value) :: compactMembers rest

end

end Json

end BoundSql
