import StoreBridge.Sqlite.Change

/-!
# Declared tables

A declaration becomes a table: each column takes its affinity from its declared type, keys are made
for the columns that have to be unique, and a single column that is declared as exactly `INTEGER`
and as the primary key becomes the row number. A declared table can be given another name, other
names for its columns, and more or fewer columns, and further keys.
-/

namespace StoreBridge

namespace Sqlite

/-- A text in double quotation marks. -/
def inQuotes (s : String) : String := "\"" ++ s ++ "\""

namespace Table

/-- A table without columns. -/
def empty (name : String) : Table := { name := name, columns := [] }

/-- Adds a key, unless there is one on the same columns. -/
def addKey (t : Table) (k : Key) : Table :=
  if t.keys.any fun known => known.columns = k.columns then t else { t with keys := k :: t.keys }

/-- Changes a column. -/
def alterColumn (t : Table) (i : Nat) (f : Column → Column) : Table :=
  { t with columns := t.columns.modify i f }

/-- The place of a column that a constraint names. -/
def requireColumn (t : Table) (name : String) : Except Fault Nat :=
  match t.columnIndex? name with
  | some i => .ok i
  | none => fails ("no such column: " ++ name)

/-- Whether there is a primary key already. -/
def hasPrimary (t : Table) : Bool :=
  t.numberColumn.isSome || t.keys.any Key.isPrimary

/-- Makes columns the primary key. -/
def addPrimary (t : Table) (columns : List Nat) (descending autoincrement : Bool) :
    Except Fault Table :=
  if t.hasPrimary then fails ("table " ++ inQuotes t.name ++ " has more than one primary key")
  else
    -- A single column that is declared an integer, and is not descending, is the row number itself.
    let isNumber (i : Nat) : Bool :=
      !descending && (t.columns[i]?).any fun c => sameName c.declared "integer"
    match columns with
    | [i] =>
      if isNumber i then
        .ok { t with numberColumn := some i, highest := if autoincrement then some 0 else none }
      else refuse autoincrement
    | _ => refuse autoincrement
where
  /-- The primary key is not the row number. -/
  refuse (autoincrement : Bool) : Except Fault Table :=
    if autoincrement then fails "AUTOINCREMENT is only allowed on an INTEGER PRIMARY KEY"
    else .ok (t.addKey { columns := columns, isPrimary := true })

/-- Adds a constraint on a column. -/
def addColumnConstraint (i : Nat) (t : Table) (c : ColumnConstraint) : Except Fault Table :=
  match c with
  | .primaryKey descending autoincrement => t.addPrimary [i] descending autoincrement
  | .notNull => .ok (t.alterColumn i fun c => { c with notNull := true })
  | .unique => .ok (t.addKey { columns := [i], isPrimary := false })
  | .check e written => .ok { t with checks := t.checks ++ [(e, written)] }
  | .default e => .ok (t.alterColumn i fun c => { c with default := e })
  | .collate name => do
    let collation ← collationNamed name
    return t.alterColumn i fun c => { c with collation := collation }
  | .other => .ok t

/-- Adds a column. -/
def addColumn (t : Table) (d : ColumnDeclaration) : Except Fault Table := do
  if (t.columnIndex? d.name).isSome then fails ("duplicate column name: " ++ d.name)
  let column : Column := { name := d.name, declared := d.type, affinity := Affinity.ofType d.type }
  d.constraints.foldlM (addColumnConstraint t.columns.length)
    { t with columns := t.columns ++ [column] }

/-- Adds a constraint on the table. -/
def addConstraint (t : Table) (c : TableConstraint) : Except Fault Table :=
  match c with
  | .primaryKey columns autoincrement => do
    t.addPrimary (← columns.mapM t.requireColumn) false autoincrement
  | .unique columns => do
    return t.addKey { columns := ← columns.mapM t.requireColumn, isPrimary := false }
  | .check e name written => .ok { t with checks := t.checks ++ [(e, name.getD written)] }
  | .other => .ok t

/-- The table of a declaration. -/
def declare (ctx : Context) (name : String) (columns : List ColumnDeclaration)
    (constraints : List TableConstraint) : Except Fault Table := do
  let t ← columns.foldlM addColumn (empty name)
  let t ← constraints.foldlM addConstraint t
  discard (ctx.discipline t .abort)
  return t

/-- The declared type for the values of a query. -/
def typeFor : Option Affinity → String
  | none => ""
  | some .blob => ""
  | some .text => "TEXT"
  | some .numeric => "NUM"
  | some .integer => "INT"
  | some .real => "REAL"

/-- The table with the rows of a query. -/
def ofRelation (name : String) (r : Relation) : Table :=
  let names := distinctNames (r.headings.map Heading.name)
  let columns := (r.headings.zip names).map fun (h, name) =>
    ({ name := name, declared := typeFor h.affinity,
       affinity := Affinity.ofType (typeFor h.affinity) } : Column)
  let t : Table := { name := name, columns := columns }
  r.rows.zipIdx.foldl (fun t (row, i) => t.insertRow ⟨i + 1, t.storedCells row⟩) t

/-- Adds a column to a table that may have rows. They get its default. -/
def extend (ctx : Context) (t : Table) (d : ColumnDeclaration) : Except Fault Table := do
  if d.constraints.any fun | .primaryKey _ _ => true | _ => false then
    fails "Cannot add a PRIMARY KEY column"
  if d.constraints.any fun | .unique => true | _ => false then
    fails "Cannot add a UNIQUE column"
  let wider ← t.addColumn d
  let rules ← ctx.discipline wider .abort
  let value := (rules.defaults.getLast?).getD .null
  let column := wider.columns.getLast?
  if value = .null && column.any Column.notNull then
    fails "Cannot add a NOT NULL column with default value NULL"
  -- Rows that are there get the default, as the column would store it.
  let cell := column.elim value fun c => c.affinity.store value
  return { wider with rows := t.rows.map fun r => { r with cells := r.cells ++ [cell] } }

/-- The place of a column that is renamed or dropped. -/
def requireQuoted (t : Table) (name : String) : Except Fault Nat :=
  match t.columnIndex? name with
  | some i => .ok i
  | none => fails ("no such column: " ++ inQuotes name)

/-- Removes a column that no key needs. -/
def dropColumn (t : Table) (name : String) : Except Fault Table := do
  let i ← t.requireQuoted name
  let inKey (primary : Bool) : Bool :=
    t.keys.any fun k => k.isPrimary = primary && k.columns.contains i
  if t.numberColumn = some i || inKey true then
    fails ("cannot drop PRIMARY KEY column: " ++ inQuotes name)
  if inKey false then fails ("cannot drop UNIQUE column: " ++ inQuotes name)
  if t.columns.length = 1 then
    fails ("cannot drop column " ++ inQuotes name ++ ": no other columns exist")
  -- Columns behind the one that goes move up by one place.
  let moved (k : Nat) : Nat := if i < k then k - 1 else k
  return { t with
    columns := t.columns.eraseIdx i
    numberColumn := t.numberColumn.map moved
    keys := t.keys.map fun k => { k with columns := k.columns.map moved }
    rows := t.rows.map fun r => { r with cells := r.cells.eraseIdx i } }

/-- Adds a key under the name of an index, if the rows there are do not agree on it. -/
def addIndex (t : Table) (name : String) (unique : Bool) (columns : List String) :
    Except Fault Table := do
  let places ← columns.mapM t.requireColumn
  if unique then
    let key : Key := { columns := places, isPrimary := false, index := some name }
    let clash := t.rows.any fun r => t.rows.any fun s =>
      r.number ≠ s.number && t.agree key r.cells s.cells
    if clash then .error (t.keyFault key)
    return { t with keys := key :: t.keys }
  else return { t with plainIndexes := t.plainIndexes ++ [name] }

/-- Removes the index with a name. -/
def removeIndex (t : Table) (name : String) : Table :=
  { t with
    plainIndexes := t.plainIndexes.filter fun known => !sameName known name
    keys := t.keys.filter fun k => !k.index.any (sameName name) }

end Table

/-- Whether a name may be given to a table or an index. -/
def checkNewName (name : String) : Except Fault Unit :=
  if "sqlite_".toList.isPrefixOf (name.toList.map asciiLower) then
    fails ("object name reserved for internal use: " ++ name)
  else .ok ()

namespace Catalog

/-- Adds the table that `make` gives. Nothing happens if there is one of its name and that is
fine. -/
def create (c : Catalog) (name : String) (ifNotExists : Bool) (make : Except Fault Table) :
    Except Fault Catalog := do
  checkNewName name
  match c.find? name with
  | some _ => if ifNotExists then return c else fails ("table " ++ name ++ " already exists")
  | none =>
    if c.hasIndex name then fails ("there is already an index named " ++ name)
    return c ++ [← make]

/-- Removes a table. -/
def dropTable (c : Catalog) (name : String) (ifExists : Bool) : Except Fault Catalog :=
  if (c.find? name).isSome then .ok (c.remove name)
  else if ifExists then .ok c
  else fails ("no such table: " ++ name)

/-- Adds an index. -/
def createIndex (c : Catalog) (name : String) (ifNotExists unique : Bool) (table : String)
    (columns : List String) : Except Fault Catalog := do
  match c.find? table with
  | none => fails ("no such table: main." ++ table)
  | some t =>
    checkNewName name
    if (c.find? name).isSome then fails ("there is already a table named " ++ name)
    if c.hasIndex name then
      if ifNotExists then return c else fails ("index " ++ name ++ " already exists")
    return c.put (← t.addIndex name unique columns)

/-- Removes an index. -/
def dropIndex (c : Catalog) (name : String) (ifExists : Bool) : Except Fault Catalog :=
  if c.hasIndex name then .ok (c.map (·.removeIndex name))
  else if ifExists then .ok c
  else fails ("no such index: " ++ name)

/-- Changes the declaration of a table. -/
def alter (c : Catalog) (ctx : Context) (name : String) (change : Alteration) :
    Except Fault Catalog := do
  match c.find? name with
  | none => fails ("no such table: " ++ name)
  | some t =>
    match change with
    | .renameTo new =>
      if (c.find? new).isSome || c.hasIndex new then
        fails ("there is already another table or index with this name: " ++ new)
      checkNewName new
      return c.map fun old => if sameName old.name name then { old with name := new } else old
    | .renameColumn old new =>
      let i ← t.requireQuoted old
      -- Its own name may be given to the column again, in another case.
      if (t.columnIndex? new).any (· != i) then
        fails ("error in table " ++ t.name ++ " after rename: duplicate column name: " ++ new)
      return c.put (t.alterColumn i fun column => { column with name := new })
    | .addColumn d => return c.put (← t.extend ctx d)
    | .dropColumn column => return c.put (← t.dropColumn column)

end Catalog

end Sqlite

end StoreBridge
