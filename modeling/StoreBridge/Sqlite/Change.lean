import StoreBridge.Sqlite.Query

/-!
# Changes to the rows of a table

Rows are inserted, updated and deleted one after the other. Every new row passes the conditions of
its table in a fixed order: the number it asks for, the columns that may not be null, the conditions
written in the declaration, the row number and the keys. What happens to a row that breaks one of
the last four kinds is the choice of the statement. A row whose value cannot be computed, or whose
number is none, always ends the statement.
-/

namespace StoreBridge

namespace Sqlite

/-- How far a statement has come. -/
structure Progress where
  table : Table
  /-- The number of rows that were inserted, updated or deleted. -/
  touched : Nat := 0
  lastNumber : Int

/-- How much a failure undoes. -/
inductive Extent where
  /-- What the statement did. -/
  | statement
  /-- What the statement did, unless it is part of a transaction: a statement that was told what to
  do with broken constraints keeps no record of its steps. -/
  | loneStatement
  | nothing
  | transaction
  deriving DecidableEq, Repr, Inhabited

/-- A failure on the way, with what it undoes. -/
structure Setback where
  fault : Fault
  undoes : Extent := .statement

/-- A step of a change. What was done before a failure is still known after it. -/
abbrev Change (α : Type) := ExceptT Setback (StateM Progress) α

namespace Change

variable {α : Type}

/-- A computation whose failure undoes as much as is said. -/
def ofExcept (undoes : Extent) : Except Fault α → Change α
  | .ok a => return a
  | .error f => throw ⟨f, undoes⟩

/-- The table as it is now. -/
def table : Change Table := do return (← get).table

/-- Changes the table. -/
def alter (f : Table → Table) : Change Unit :=
  modify fun p => { p with table := f p.table }

/-- Counts a row. -/
def touch : Change Unit :=
  modify fun p => { p with touched := p.touched + 1 }

end Change

/-- The place of a column that is set; the row number has none. -/
abbrev Place := Option Nat

/-- What an insert does instead of a row that agrees with another one. -/
inductive Resolution where
  /-- The row is left out. -/
  | skip
  /-- The other row is updated, if it passes the filter. -/
  | update (changes : List (Place × Term)) (filter : Option Term)

/-- What is done instead of an insert, and for which key; without a key for each. -/
structure Rescue where
  key : Option (List Nat)
  resolution : Resolution

/-- The conditions of a table, prepared, and how broken ones are handled. -/
structure Discipline where
  defaults : List Datum
  checks : List (Term × String)
  conflict : Conflict
  /-- Whether a broken constraint may undo the statement, so that a record of its steps is kept. -/
  recorded : Bool
  rescue : Option Rescue := none

/-- The cells of a row with its number behind them, as the relation of the table shows them. -/
def StoredRow.values (r : StoredRow) : List Datum := r.cells ++ [.int r.number]

namespace Table

/-- The names of the columns of a table. -/
def names (t : Table) : Names := { headings := (t.relation t.name).headings }

/-- The place of a column that is set by name, which may be a name of the row number. -/
def place? (t : Table) (name : String) : Option Place :=
  match t.columnIndex? name with
  | some i => some (some i)
  | none => if isNumberName name then some t.numberColumn else none

/-- Puts the row number into the column that shows it. -/
def withNumber (t : Table) (cells : List Datum) (number : Int) : StoredRow where
  number := number
  cells := t.numberColumn.elim cells fun i => cells.set i (.int number)

/-- The values as the columns store them. -/
def storedCells (t : Table) (cells : List Datum) : List Datum :=
  t.columns.zipWith (fun c d => c.affinity.store d) cells

/-- The keys over the row number and over other columns, in the order in which they are checked: for
each the columns, the row that agrees with a new one, and the failure. A row does not meet
itself. -/
def clashes (t : Table) (row : StoredRow) (own : Option Int) :
    List (List Nat × Option StoredRow × Fault) :=
  let others := t.rows.filter fun r => some r.number != own
  let onNumber :=
    (t.numberColumn.toList, others.find? fun r => r.number = row.number, t.numberFault)
  onNumber :: t.keys.map fun k =>
    (k.columns, others.find? fun r => t.agree k row.cells r.cells, t.keyFault k)

/-- The first column that may not be null and is. -/
def missing? (t : Table) (cells : List Datum) : Option Nat :=
  (t.columns.zip cells).findIdx? fun (c, d) => c.notNull && d = .null

end Table

namespace Discipline

/-- What the failure of a computation undoes. -/
def extent (d : Discipline) : Extent :=
  if d.recorded then .statement else .loneStatement

/-- What a row that breaks a constraint undoes. -/
def breach (d : Discipline) (fault : Fault) : Setback :=
  match d.conflict with
  | .fail => ⟨fault, .nothing⟩
  | .rollback => ⟨fault, .transaction⟩
  | _ => ⟨fault, .statement⟩

/-- A broken condition, unless the row is to be left out. -/
def broken (d : Discipline) (fault : Fault) : Change Bool :=
  if d.conflict = .ignore then return false else throw (d.breach fault)

/-- Replaces nulls that may not be there by the defaults of their columns. -/
def fillDefaults (d : Discipline) (t : Table) (cells : List Datum) : List Datum :=
  (t.columns.zip (cells.zip d.defaults)).map fun (c, cell, default) =>
    if c.notNull && cell = .null then c.affinity.store default else cell

/-- The row if it passes the conditions on its values; otherwise it is left out, or the change
fails. -/
def checkValues (d : Discipline) (row : StoredRow) : Change (Option StoredRow) := do
  let t ← Change.table
  -- Only a replacing change puts defaults in the place of nulls.
  let cells := if d.conflict = .replace then d.fillDefaults t row.cells else row.cells
  let row := { row with cells := cells }
  if let some i := t.missing? cells then
    if !(← d.broken (t.nullFault i)) then return none
  for (check, name) in d.checks do
    let value ← Change.ofExcept d.extent (computed (check.eval { row := row.values }))
    if value.truth? = some false then
      if !(← d.broken (Table.checkFault name)) then return none
  return some row

/-- What is done about a row that agrees with another one, on some columns. -/
inductive Answer where
  | goOn
  | leaveOut
  | change (old : StoredRow) (changes : List (Place × Term)) (filter : Option Term)

/-- Whether the rescue of an insert is meant for a clash on some columns. -/
def rescueFor? (d : Discipline) (columns : List Nat) : Option Resolution :=
  match d.rescue with
  | some ⟨key, resolution⟩ =>
    if key.all fun k => k.all columns.contains && columns.all k.contains then some resolution
    else none
  | none => none

/-- The clashes in the order in which they are handled: those that a rescue is meant for come
first. -/
def inOrder (d : Discipline) (clashes : List (List Nat × Option StoredRow × Fault)) :
    List (List Nat × Option StoredRow × Fault) :=
  let (own, others) := clashes.partition fun (columns, _, _) => (d.rescueFor? columns).isSome
  own ++ others

/-- Handles the clashes of a row with others, one after the other. A row that is replaced is removed
and does not count as touched. -/
def meet (d : Discipline) : List (List Nat × Option StoredRow × Fault) → Change Answer
  | [] => return .goOn
  | (_, none, _) :: rest => d.meet rest
  | (columns, some old, fault) :: rest => do
    match d.rescueFor? columns with
    | some .skip => return .leaveOut
    | some (.update changes filter) => return .change old changes filter
    | none =>
      match d.conflict with
      | .ignore => return .leaveOut
      -- The next clash is handled in the table without the row that was replaced.
      | .replace =>
        Change.alter (·.removeRow old.number)
        d.meet rest
      | _ => throw (d.breach fault)

end Discipline

/-- A value as a row number. -/
def numberOf (d : Datum) : Except Fault Int :=
  match Affinity.integer.store d with
  | .int i => .ok i
  | _ => .error .mismatch

/-- Sets columns of a row to the values of terms, which are computed from given cells. -/
def assign (t : Table) (changes : List (Place × Term)) (cells : List Datum) (row : StoredRow) :
    Except Fault StoredRow := do
  let values ← changes.mapM fun (place, term) => do
    return (place, ← computed (term.eval { row := cells }))
  let changed := values.foldl (fun cells (place, d) =>
    match place with
    | some i => cells.set i d
    | none => cells) row.cells
  -- Where the number is set more than once, the last value counts.
  let isNumber (place : Place) : Bool := place.isNone || place == t.numberColumn
  let number ← ((values.reverse.find? fun (place, _) => isNumber place).map Prod.snd).elim
    (.ok row.number) numberOf
  return t.withNumber (t.storedCells changed) number

/-- Updates a row. -/
def updateRow (d : Discipline) (changes : List (Place × Term)) (cells : List Datum)
    (old : StoredRow) : Change Unit := do
  let t ← Change.table
  let new ← Change.ofExcept d.extent (assign t changes cells old)
  if let some row ← d.checkValues new then
    match ← d.meet (t.clashes row (some old.number)) with
    | .goOn =>
      Change.alter fun t => (t.removeRow old.number).insertRow row
      Change.touch
    | _ => return ()

/-- Inserts a row of values for all columns, with the number it asks for. The answer is the row as
it was inserted, if it was. -/
def insertRow (d : Discipline) (cells : List Datum) (wanted : Datum) :
    Change (Option StoredRow) := do
  let t ← Change.table
  let number ← Change.ofExcept d.extent (if wanted = .null then t.nextNumber else numberOf wanted)
  match ← d.checkValues (t.withNumber (t.storedCells cells) number) with
  | none => return none
  | some row =>
    match ← d.meet (d.inOrder (t.clashes row none)) with
    | .leaveOut => return none
    | .goOn =>
      Change.alter fun t => (t.insertRow row).noteNumber number
      Change.touch
      modify fun p => { p with lastNumber := number }
      return some row
    | .change old changes filter =>
      -- The changes see the row that is there and the new one behind it.
      let both := old.values ++ row.values
      let wanted ← Change.ofExcept d.extent (allTrue filter.toList both)
      if wanted then updateRow { d with rescue := none } changes both old
      return none

/-- Updates the rows with the given numbers, in this order. A row that was replaced in the meantime
is gone, or another one has taken its number. -/
def updateRows (d : Discipline) (changes : List (Place × Term)) (numbers : List Int) :
    Change Unit :=
  for number in numbers do
    if let some row := (← Change.table).rows.find? fun r => r.number = number then
      updateRow d changes row.values row

/-- Deletes rows. -/
def deleteRows (rows : List StoredRow) : Change Unit :=
  for old in rows do
    Change.alter (·.removeRow old.number)
    Change.touch

/-- A change to a table, ready to run. -/
structure PreparedChange where
  table : Table
  run : Change Unit

/-- Prepares an expression over the columns of a table. -/
def prepareOver (ctx : Context) (names : Names) (e : Expr) : Except Fault Term := do
  let (b, _) ← (prepare depthLimit ctx names e).run []
  return b.term

/-- The table with a name, to be changed. -/
def Context.table (ctx : Context) (name : String) : Except Fault Table :=
  match ctx.catalog.find? name with
  | some t => .ok t
  | none => fails ("no such table: " ++ name)

/-- The conditions of a table. -/
def Context.discipline (ctx : Context) (t : Table) (conflict : Conflict) :
    Except Fault Discipline := do
  let defaults ← t.columns.mapM fun c => do
    let term ← prepareOver ctx { headings := [] } c.default
    computed (term.eval { row := [] })
  let checks ← t.checks.mapM fun (e, name) => do
    return (← prepareOver ctx t.names e, name)
  let mayAbort := !checks.isEmpty ||
    (t.columns.zip defaults).any fun (c, d) => c.notNull && d = .null
  -- A replacing change needs a record only where a condition can still break it.
  let recorded := conflict = .abort || (conflict = .replace && mayAbort)
  return { defaults := defaults, checks := checks, conflict := conflict, recorded := recorded }

/-- Prepares assignments: each expression before the name that it is assigned to is looked up. -/
def prepareAssignments (ctx : Context) (t : Table) (names : Names)
    (changes : List (String × Expr)) :
    Except Fault (List (Place × Term)) :=
  changes.mapM fun (name, e) => do
    let term ← prepareOver ctx names e
    match t.place? name with
    | some place => return (place, term)
    | none => fails ("no such column: " ++ name)

/-- Checks the names in what a statement gives back. -/
def checkReturning (ctx : Context) (t : Table) (columns : List ResultColumn) :
    Except Fault Unit := do
  discard ((columns.mapM (prepareColumn depthLimit ctx t.names)).run [])

/-- The rows that pass a filter. -/
def rowsWhere (t : Table) (filter : Option Term) : Except Fault (List StoredRow) :=
  t.rows.filterM fun r => allTrue filter.toList r.values

/-- The key that a rescue is meant for. -/
def rescueKey (t : Table) (columns : List String) : Except Fault (Option (List Nat)) := do
  if columns.isEmpty then return none
  let places ← columns.mapM fun name =>
    match t.columnIndex? name with
    | some i => .ok i
    | none => fails ("no such column: " ++ name)
  let same (key : List Nat) : Bool := key.all places.contains && places.all key.contains
  if !(t.numberColumn.toList :: t.keys.map Key.columns).any same then
    fails "ON CONFLICT clause does not match any PRIMARY KEY or UNIQUE constraint"
  return some places

/-- The columns of the row that is there by their names, and those of the new row under the name
`excluded`. -/
def rescueNames (t : Table) : Names :=
  let hide (h : Heading) : Heading := if h.role = .shown then { h with role := .merged } else h
  { headings := (t.relation t.name).headings ++ (t.relation "excluded").headings.map hide }

/-- Prepares what is done instead of an insert. -/
def prepareRescue (ctx : Context) (t : Table) : Upsert → Except Fault Rescue
  | .nothing columns => return ⟨← rescueKey t columns, .skip⟩
  | .update columns changes filter => do
    let key ← rescueKey t columns
    let changes ← prepareAssignments ctx t (rescueNames t) changes
    let filter ← filter.mapM (prepareOver ctx (rescueNames t))
    return ⟨key, .update changes filter⟩

/-- The columns that an insert sets. -/
def insertPlaces (t : Table) (columns : List String) : Except Fault (List Place) :=
  if columns.isEmpty then .ok ((List.range t.columns.length).map some)
  else columns.mapM fun name =>
    match t.place? name with
    | some place => .ok place
    | none => fails ("table " ++ t.name ++ " has no column named " ++ name)

/-- The failure of an insert with a wrong number of values. -/
def wrongCount (t : Table) (columns : List String) (given : Nat) : Fault :=
  if columns.isEmpty then
    .generic ("table " ++ t.name ++ " has " ++ natText t.columns.length ++ " columns but " ++
      natText given ++ " values were supplied")
  else .generic (natText given ++ " values for " ++ natText columns.length ++ " columns")

/-- An insert, ready to run: the values of its rows for all columns, each with the number it asks
for. -/
structure Insertion where
  table : Table
  discipline : Discipline
  rows : List (List Datum × Datum)

/-- Inserts the rows one after the other. -/
def Insertion.run (i : Insertion) : Change Unit :=
  i.rows.forM fun (cells, wanted) => discard (insertRow i.discipline cells wanted)

/-- Prepares the rows of an insert. -/
def prepareInsertion (ctx : Context) (conflict : Conflict) (table : String) (columns : List String)
    (rows : InsertRows) (upsert : Option Upsert) (returning : List ResultColumn) :
    Except Fault Insertion := do
  let t ← ctx.table table
  let places ← insertPlaces t columns
  let d ← ctx.discipline t conflict
  let values ←
    match rows with
    | .defaults => pure [d.defaults]
    -- The query ends before the first row is inserted, so it never meets a new row.
    | .query q => do
      let r ← select depthLimit ctx q
      if r.headings.length != places.length then
        .error (wrongCount t columns r.headings.length)
      pure r.rows
  let places := match rows with
    | .defaults => (List.range t.columns.length).map some
    | .query _ => places
  let rescue ← upsert.mapM (prepareRescue ctx t)
  checkReturning ctx t returning
  let d := { d with rescue := rescue }
  return ⟨t, d, values.map fun row =>
    -- A column that is given twice takes its first value, and one that is not given its default.
    let given := places.zip row
    let valueAt (place : Place) : Option Datum :=
      (given.find? fun (p, _) => p == place).map Prod.snd
    let cells := d.defaults.zipIdx.map fun (default, i) => (valueAt (some i)).getD default
    (cells, (valueAt t.numberColumn).getD .null)⟩

/-- Prepares an insert. -/
def prepareInsert (ctx : Context) (conflict : Conflict) (table : String) (columns : List String)
    (rows : InsertRows) (upsert : Option Upsert) (returning : List ResultColumn) :
    Except Fault PreparedChange := do
  let i ← prepareInsertion ctx conflict table columns rows upsert returning
  return ⟨i.table, i.run⟩

/-- Prepares an update. -/
def prepareUpdate (ctx : Context) (conflict : Conflict) (table : String)
    (changes : List (String × Expr)) (filter : Option Expr) (returning : List ResultColumn) :
    Except Fault PreparedChange := do
  let t ← ctx.table table
  let changes ← prepareAssignments ctx t t.names changes
  let filter ← filter.mapM (prepareOver ctx t.names)
  checkReturning ctx t returning
  let d ← ctx.discipline t conflict
  return ⟨t, do
    let rows ← Change.ofExcept .statement (rowsWhere t filter)
    updateRows d changes (rows.map StoredRow.number)⟩

/-- Prepares a delete. -/
def prepareDelete (ctx : Context) (table : String) (filter : Option Expr)
    (returning : List ResultColumn) : Except Fault PreparedChange := do
  let t ← ctx.table table
  let filter ← filter.mapM (prepareOver ctx t.names)
  checkReturning ctx t returning
  return ⟨t, do
    let rows ← Change.ofExcept .statement (rowsWhere t filter)
    deleteRows rows⟩

/-- Adds named queries to what a statement is prepared against. -/
def Context.withNamed (ctx : Context) (named : List (String × List String × Select)) :
    Except Fault Context :=
  named.foldlM (nameQuery depthLimit) ctx

end Sqlite

end StoreBridge
