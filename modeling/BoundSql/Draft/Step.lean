import BoundSql.Draft.Event
import BoundSql.Render.Basic

/-!
# Steps

A draft is built step by step. A verb begins a statement and forgets the one
before; all other steps fill in clauses. A step that does not fit changes nothing
but the recorded mistake, of which only the first is kept. Each step gives the new
draft and the events to be logged.
-/

set_option autoImplicit false

namespace BoundSql

/-- What a FROM step reads from. -/
inductive Origin where
  | table (ref : TableRef)
  | derived (d : Draft)

/-- One step in the building of a statement. -/
inductive Step where
  | select (columns : List Text)
  | insert (target : Text)
  | update (target : Text)
  | delete (target : Text)
  | with_ (name : Text) (recursive : Bool)
  /-- The body of the open table expression, and the name of the next one. -/
  | body (q : Query) (next : Option Text)
  /-- The alias of the draft where another statement reads from it. -/
  | name (aliasName : Text)
  | source (origin : Origin)
  | join (j : Join)
  | group (columns : List Text)
  | having (w : Condition)
  | order (columns : List Text)
  | limit (n : Nat)
  | union (arm : UnionArm)
  | filter (w : Condition)
  /-- Values of an INSERT or an UPDATE. -/
  | values (assignments : List (Text × Assignment))
  /-- Values of an UPDATE. -/
  | set (assignments : List (Text × Assignment))
  | logLimit (limit : Option Nat)

/-- Registers a table and reports it. -/
def Registry.register (r : Registry) (e : TableEntry) : Except Fault (Registry × List Event) :=
  (r.insert e).map fun r => (r, [.registered e])

/-- The entry of a joined table. -/
def Join.entry (j : Join) (lex : Lexicon) : TableEntry :=
  let (table, aliasName) := j.table.split lex
  ⟨table, aliasName.getD table, .join⟩

/-- Registers the joined table, unless it is known. -/
def Join.register (j : Join) (lex : Lexicon) (r : Registry) :
    Except Fault (Registry × List Event) :=
  if r.contains (j.entry lex).table then .ok (r, []) else r.register (j.entry lex)

/-- Registers what is read from as the origin. A draft is registered under its
alias, and not at all if it has none; it has to be a SELECT. -/
def Origin.register (lex : Lexicon) (r : Registry) :
    Origin → Except Fault (Registry × Source × List Event)
  | .table ref => do
    let (name, aliasName) := ref.split lex
    let (r, events) ← r.register ⟨name, aliasName.getD name, .origin⟩
    return (r, .table name aliasName, events)
  | .derived d =>
    if d.kind? = some .select then
      match d.aliasName with
      | some aliasName => do
        let (r, events) ← r.register ⟨aliasName, aliasName, .origin⟩
        return (r, .derived d, events)
      | none => .ok (r, .derived d, [])
    else .error (.statementState .derivedNotSelect)

namespace Draft

/-- The draft with a mistake, which is reported if it is the first. -/
def refuse (d : Draft) (fault : Fault) : Draft × List Event :=
  match d.fault with
  | some _ => (d, [])
  | none => ({ d with fault := some fault }, [.recorded fault])

/-- The mistake of asking a statement for a clause for which it has no place. -/
def misplaced (d : Draft) (clause : Clause) : Fault :=
  match d.kind? with
  | some kind => .statementState (.wrongClause clause kind)
  | none => .statementState (.clauseBeforeVerb clause)

/-- A new statement in the place of the old one and all that belonged to it. -/
def restart (d : Draft) (s : Statement) : Draft :=
  { d with tables := .empty, statement := s, aliasName := none, fault := none }

/-- The selection of the statement: a SELECT itself, or the inner one of a WITH. -/
def selection? (d : Draft) : Option Selection :=
  match d.statement with
  | .select s => some s
  | .with_ w => some w.selection
  | _ => none

/-- The draft with another selection in its statement. -/
def withSelection (d : Draft) (s : Selection) : Draft :=
  match d.statement with
  | .select _ => { d with statement := .select s }
  | .with_ w => { d with statement := .with_ { w with selection := s } }
  | _ => d

/-- Changes a clause of the selection. -/
def onSelection (d : Draft) (clause : Clause) (change : Selection → Selection) :
    Draft × List Event :=
  match d.selection? with
  | some s => (d.withSelection (change s), [])
  | none => d.refuse (d.misplaced clause)

/-- Begins a SELECT, or gives the columns of the inner one of a WITH that lacks it. -/
def select (d : Draft) (columns : List Text) : Draft :=
  match d.statement with
  | .with_ w =>
    if w.hasSelect then d.restart (.select (.ofColumns columns))
    else
      { d with
        statement :=
          .with_ { w with hasSelect := true, selection := { w.selection with columns := columns } } }
  | _ => d.restart (.select (.ofColumns columns))

/-- Attaches a body to a WITH, and a further name if one is given. -/
def body (d : Draft) (q : Query) (next : Option Text) : Draft × List Event :=
  match d.statement with
  | .with_ w =>
    ({ d with
        statement := .with_ { w with bodies := w.bodies ++ [q], names := w.names ++ next.toList } },
      [])
  | _ => d.refuse (d.misplaced .body)

/-- Reads from a table or a derived one, which becomes the origin. -/
def source (d : Draft) (origin : Origin) : Draft × List Event :=
  match d.selection? with
  | none => d.refuse (d.misplaced .source)
  | some s =>
    match origin.register d.dialect.toLexicon d.tables with
    | .ok (tables, source, events) =>
      ({ d.withSelection { s with source := some source } with tables := tables }, events)
    | .error fault => d.refuse fault

/-- Joins a table, which is registered unless it is known. -/
def join (d : Draft) (j : Join) : Draft × List Event :=
  match d.selection? with
  | none => d.refuse (d.misplaced .join)
  | some s =>
    match j.register d.dialect.toLexicon d.tables with
    | .ok (tables, events) =>
      ({ d.withSelection { s with joins := s.joins ++ [j] } with tables := tables }, events)
    | .error fault => d.refuse fault

/-- Adds a filter to any statement but an INSERT. -/
def filter (d : Draft) (w : Condition) : Draft × List Event :=
  match d.statement with
  | .update m => ({ d with statement := .update { m with filters := m.filters ++ [w] } }, [])
  | .delete m => ({ d with statement := .delete { m with filters := m.filters ++ [w] } }, [])
  | _ => d.onSelection .filter fun s => { s with filters := s.filters ++ [w] }

/-- Assigns to a column of an INSERT or an UPDATE. -/
def value (d : Draft) (column : Text) (a : Assignment) : Draft × List Event :=
  match d.statement with
  | .insert m =>
    ({ d with statement := .insert { m with assignments := Mutation.put column a m.assignments } },
      [])
  | .update m =>
    ({ d with statement := .update { m with assignments := Mutation.put column a m.assignments } },
      [])
  | _ => d.refuse (d.misplaced .values)

/-- Assigns to a column of an UPDATE. -/
def set (d : Draft) (column : Text) (a : Assignment) : Draft × List Event :=
  match d.statement with
  | .update m =>
    ({ d with statement := .update { m with assignments := Mutation.put column a m.assignments } },
      [])
  | _ => d.refuse (d.misplaced .set)

/-- Makes assignments one after the other. -/
def assignAll (one : Draft → Text → Assignment → Draft × List Event) (d : Draft) :
    List (Text × Assignment) → Draft × List Event
  | [] => (d, [])
  | (column, a) :: rest =>
    let (d, events) := one d column a
    let (d, later) := assignAll one d rest
    (d, events ++ later)

/-- The draft after a step, and the events of the step. -/
def step (d : Draft) : Step → Draft × List Event
  | .select columns => (d.select columns, [])
  | .insert target => (d.restart (.insert (.ofTarget target)), [])
  | .update target => (d.restart (.update (.ofTarget target)), [])
  | .delete target => (d.restart (.delete (.ofTarget target)), [])
  | .with_ name recursive => (d.restart (.with_ (.ofName name recursive)), [])
  | .body q next => d.body q next
  | .name aliasName => ({ d with aliasName := some aliasName }, [])
  | .source origin => d.source origin
  | .join j => d.join j
  | .group columns => d.onSelection .group fun s => { s with group := columns }
  | .having w => d.onSelection .having fun s => { s with having := some w }
  | .order columns => d.onSelection .order fun s => { s with order := columns }
  | .limit n => d.onSelection .limit fun s => { s with limit := some n }
  | .union arm =>
    d.onSelection (if arm.keepsAll then .unionAll else .union) fun s =>
      { s with unions := s.unions ++ [arm] }
  | .filter w => d.filter w
  | .values assignments => d.assignAll value assignments
  | .set assignments => d.assignAll set assignments
  | .logLimit limit => ({ d with logLimit := limit }, [])

/-- The draft after some steps, and their events in order. -/
def run (d : Draft) : List Step → Draft × List Event
  | [] => (d, [])
  | s :: rest =>
    let (d, events) := d.step s
    let (d, later) := d.run rest
    (d, events ++ later)

/-- The rendered statement, and the event that reports it or its failure. -/
def finish (d : Draft) : Except Fault Rendered × Event :=
  match d.rendered with
  | .ok r => (.ok r, .rendered d.kind? r.params.length (loggedSql d.logLimit r.sql))
  | .error fault => (.error fault, .failed d.kind? fault)

end Draft

end BoundSql
