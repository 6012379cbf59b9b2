import BoundSql.Fault

/-!
# Table registry

The tables of one statement in order of registration, each with the alias by
which it is known and its role. Reads start at the origin, and all other tables
are joined to it. A registration that fails leaves the registry as it was.
-/

set_option autoImplicit false

namespace BoundSql

/-- The role of a table in a statement. -/
inductive Role where
  /-- The table that the statement reads from. -/
  | origin
  /-- A table joined to the origin. -/
  | join
  deriving DecidableEq, Repr

namespace Role

/-- The word for a role. -/
def name : Role → Text
  | .origin => "origin"
  | .join => "join"

/-- The role with a word. -/
def ofName (name : Text) : Except Fault Role :=
  if name = "origin" then .ok .origin
  else if name = "join" then .ok .join
  else .error (.configuration (.unknownRole name))

end Role

/-- A registered table. -/
structure TableEntry where
  table : Text
  aliasName : Text
  role : Role
  deriving DecidableEq, Repr

/-- The registered tables in order of registration. -/
structure Registry where
  entries : List TableEntry
  deriving DecidableEq, Repr

namespace Registry

/-- The registry without tables. -/
def empty : Registry := ⟨[]⟩

/-- The entry of a table. -/
def find? (r : Registry) (table : Text) : Option TableEntry :=
  r.entries.find? fun e => e.table == table

/-- Whether a table is registered. -/
def contains (r : Registry) (table : Text) : Bool := (r.find? table).isSome

/-- The alias of a registered table. -/
def aliasOf? (r : Registry) (table : Text) : Option Text := (r.find? table).map (·.aliasName)

/-- The role of a registered table. -/
def roleOf? (r : Registry) (table : Text) : Option Role := (r.find? table).map (·.role)

/-- The alias of a registered table, and any other name as it is. -/
def resolve (r : Registry) (name : Text) : Text := (r.aliasOf? name).getD name

/-- The entry of the origin. -/
def origin? (r : Registry) : Option TableEntry := r.entries.find? fun e => e.role == .origin

/-- The entries of the joined tables. -/
def joins (r : Registry) : List TableEntry := r.entries.filter fun e => e.role == .join

/-- The alias of the origin. -/
def originAlias? (r : Registry) : Option Text := r.origin?.map (·.aliasName)

/-- The alias of the first joined table. -/
def joinAlias? (r : Registry) : Option Text := r.joins.head?.map (·.aliasName)

/-- The entry under which a table would be registered: its alias is its own name
if none is given, and it becomes the origin if there is none yet. -/
def proposed (r : Registry) (table : Text) (aliasName : Option Text) (role : Option Role) :
    TableEntry where
  table := table
  aliasName := aliasName.getD table
  role := role.getD (if r.origin?.isSome then .join else .origin)

/-- Registers an entry behind all others, unless its table is registered, it is a
second origin, or its alias is taken. -/
def insert (r : Registry) (e : TableEntry) : Except Fault Registry :=
  if r.contains e.table then .error (.conflict (.repeatedTable e.table))
  else
    match (if e.role = .origin then r.origin? else none) with
    | some origin => .error (.conflict (.secondOrigin e.table origin.table))
    | none =>
      match r.entries.find? fun other => other.aliasName == e.aliasName with
      | some other => .error (.conflict (.sharedAlias e.aliasName other.table e.table))
      | none => .ok ⟨r.entries ++ [e]⟩

/-- Changes the role of a table; there is no second origin. -/
def setRole (r : Registry) (table : Text) (role : Role) : Except Fault Registry :=
  match (if role = .origin then r.origin?.filter (fun e => e.table != table) else none) with
  | some origin => .error (.conflict (.secondOrigin table origin.table))
  | none =>
    if r.contains table then
      .ok ⟨r.entries.map fun e => if e.table = table then { e with role := role } else e⟩
    else .error (.configuration (.unregisteredTable table))

/-- The registry without a table. -/
def remove (r : Registry) (table : Text) : Registry :=
  ⟨r.entries.eraseP fun e => e.table == table⟩

end Registry

end BoundSql
