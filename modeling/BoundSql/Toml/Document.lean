import BoundSql.Text.Basic

/-!
# TOML documents

The tree of a TOML document whose leaves are strings, and the rules by which keys
and headers extend it: a key is assigned once, a table is opened by one header
only, and a table that was written inline or by dotted keys is not opened again.
-/

set_option autoImplicit false

namespace BoundSql.Toml

/-- How a table came into a document. -/
inductive TableForm where
  /-- On the way to a table named by a header. -/
  | implied
  /-- On the way to the last part of a dotted key. -/
  | dotted
  /-- By a header of its own. -/
  | headed
  /-- In braces. -/
  | braced
  deriving DecidableEq, Repr

/-- A node of a document. -/
inductive Node where
  | text (t : Text)
  | array (items : List Node)
  | table (form : TableForm) (members : List (Text × Node))

/-- The members of a table in order. -/
abbrev Members := List (Text × Node)

namespace Members

/-- The member with a key. -/
def find? (members : Members) (key : Text) : Option Node :=
  (List.find? (fun m => m.1 == key) members).map Prod.snd

/-- The members with another node for a key that is there. -/
def replace (members : Members) (key : Text) (node : Node) : Members :=
  members.map fun m => if m.1 = key then (key, node) else m

/-- Assigns to a dotted key; the key must be new, and so must every table on its
way that does not stem from dotted keys. -/
def assign (node : Node) : List Text → Members → Option Members
  | [], _ => none
  | [key], members => if (find? members key).isSome then none else some (members ++ [(key, node)])
  | key :: rest, members =>
    match find? members key with
    | none => (assign node rest []).map fun inner => members ++ [(key, .table .dotted inner)]
    | some (.table .dotted inner) =>
      (assign node rest inner).map fun inner => replace members key (.table .dotted inner)
    | some _ => none

/-- Opens the table named by a header. Tables on its way may have been opened
before, and the table itself may only have been implied. -/
def openTable : List Text → Members → Option Members
  | [], _ => none
  | [key], members =>
    match find? members key with
    | none => some (members ++ [(key, .table .headed [])])
    | some (.table .implied inner) => some (replace members key (.table .headed inner))
    | some _ => none
  | key :: rest, members =>
    match find? members key with
    | none => (openTable rest []).map fun inner => members ++ [(key, .table .implied inner)]
    | some (.table .braced _) => none
    | some (.table form inner) =>
      (openTable rest inner).map fun inner => replace members key (.table form inner)
    | some _ => none

/-- Assigns to a dotted key within the table that a header has opened. -/
def assignWithin (node : Node) (key : List Text) : List Text → Members → Option Members
  | [], members => assign node key members
  | name :: rest, members =>
    match find? members name with
    | some (.table form inner) =>
      (assignWithin node key rest inner).map fun inner => replace members name (.table form inner)
    | _ => none

end Members

end BoundSql.Toml
