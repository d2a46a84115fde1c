import StoreBridge.Identifier
import StoreBridge.Query.Statement

/-!
# Queries on tables

A chain on a table is gathered into a `Draft` from left to right and then becomes a `Plan`. The last
insert, update or delete decides the statement, and without one the first select does. Conditions
add up, terms of the order add up, and the last limit counts. Filters, order and limit do not apply
to an insert. Faults in payloads of `where`, in fields of `orderBy` and any aggregation are reported
in chain order, before the statement is looked at.
-/

namespace StoreBridge

/-- A name that may stand in SQL text. -/
def identifier (name : String) : Except DbError String :=
  if isIdentifier name then .ok name else .error (.invalidQuery (.badIdentifier name))

/-- The writing operation that decides the statement. -/
inductive Write where
  | insert (data : Json)
  | update (data : Json)
  | delete
  deriving DecidableEq, Repr

/-- What a chain on a table has asked for so far. -/
structure Draft where
  selected : Option (Option (List String)) := none
  write : Option Write := none
  conditions : Members := []
  order : List (String × Direction) := []
  limit : Option Nat := none
  deriving DecidableEq, Repr, Inhabited

namespace Draft

/-- Takes one more operation of a chain on the named table. -/
def add (table : String) (d : Draft) : Operation → Except DbError Draft
  -- The first selection stays, and the last write.
  | .select columns => .ok { d with selected := d.selected.or (some columns) }
  | .insert data => .ok { d with write := some (.insert data) }
  | .update data => .ok { d with write := some (.update data) }
  | .delete => .ok { d with write := some .delete }
  -- Conditions add up, also on a column that had one before.
  | .filter conditions => do
    let members ← objectPayload "where" conditions
    return { d with conditions := d.conditions ++ members }
  | .orderBy field direction => do
    let field ← identifier field
    return { d with order := d.order ++ [(field, direction)] }
  | .limit n => .ok { d with limit := some n }
  | .aggregate _ =>
    .error (.unsupported "aggregate"
      ("'" ++ table ++ "' is a table; aggregation pipelines need a collection"))

/-- What a whole chain asks for. -/
def ofChain (table : String) (ops : List Operation) : Except DbError Draft :=
  ops.foldlM (add table) {}

/-- The clauses of a statement that has any, with the values of the conditions. -/
def clauses (d : Draft) : Except DbError (Clauses × List (String × Json)) := do
  let columns ← d.conditions.mapM fun (column, _) => identifier column
  return (⟨columns, d.order, d.limit⟩, d.conditions)

/-- The selected columns; no list and an empty list select all of them. -/
def columns : Option (List String) → Except DbError (List String)
  | none => .ok ["*"]
  | some [] => .ok ["*"]
  | some columns => columns.mapM fun c => if c = "*" then .ok c else identifier c

/-- The value of every column in one row of an insert. -/
def rowBindings (columns : List String) (index : Nat) (row : Members) :
    Except DbError (List (String × Json)) :=
  if row.length = columns.length ∧ columns.all row.has then
    .ok (columns.map fun c => (c, (row.get? c).getD .null))
  else .error (.invalidQuery (.unevenRow index))

/-- The bindings of all rows of an insert, row by row. -/
def insertBindings (columns : List String) :
    Nat → List Members → Except DbError (List (String × Json))
  | _, [] => .ok []
  | index, row :: rows => do
    let here ← rowBindings columns index row
    let rest ← insertBindings columns (index + 1) rows
    return here ++ rest

/-- The plan of an insert. The first row gives the columns and their order. -/
def planInsert (table : String) (data : Json) : Except DbError Plan := do
  match ← insertRows data with
  | [] => .error (.invalidQuery (.missing "insert" "row"))
  | first :: rest =>
    if first = [] then .error (.invalidQuery (.missing "insert" "column"))
    else
      let columns ← first.keys.mapM identifier
      let bindings ← insertBindings columns 0 (first :: rest)
      return ⟨.insert table columns (rest.length + 1), bindings⟩

/-- The plan of an update: its own values, then those of the conditions. -/
def planUpdate (table : String) (d : Draft) (data : Json) : Except DbError Plan := do
  let members ← objectPayload "update" data
  if members = [] then .error (.invalidQuery (.missing "update" "column"))
  else
    let columns ← members.keys.mapM identifier
    let (clauses, bindings) ← d.clauses
    return ⟨.update table columns clauses, members ++ bindings⟩

/-- The plan of a draft on the named table. -/
def plan (name : String) (d : Draft) : Except DbError Plan :=
  match d.write, d.selected with
  -- A write makes any selection of the chain irrelevant.
  | some write, _ => do
    let table ← identifier name
    match write with
    | .insert data => planInsert table data
    | .update data => planUpdate table d data
    | .delete =>
      let (clauses, bindings) ← d.clauses
      return ⟨.delete table clauses, bindings⟩
  | none, some selected => do
    let table ← identifier name
    let columns ← columns selected
    let (clauses, bindings) ← d.clauses
    return ⟨.select table columns clauses, bindings⟩
  | none, none => .error (.emptyQuery name)

end Draft

/-- The plan of a chain on a table. -/
def planTabular (s : Schema) (ops : List Operation) : Except DbError Plan := do
  let draft ← Draft.ofChain s.name ops
  draft.plan s.name

/-- Compiles a chain on a table. -/
def compileTabular (s : Schema) (ops : List Operation) : Except DbError SqlRequest :=
  (planTabular s ops).map (Plan.request s)

end StoreBridge
