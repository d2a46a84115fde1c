import StoreBridge.Sqlite.Affinity
import StoreBridge.Sqlite.Syntax

/-!
# Tables

A table has columns, keys and rows. Every row has a number, and rows are kept in the order of their
numbers. A column declared as `INTEGER PRIMARY KEY` is the row number under another name. No two
rows agree on a key; rows with a null in the key agree with no other row.
-/

namespace StoreBridge

namespace Sqlite

/-- A failure of the engine: its code and its text. -/
structure Fault where
  code : Nat
  text : String
  deriving DecidableEq, Repr, Inhabited

namespace Fault

/-- A statement that cannot be prepared, or that fails without a code of its own. -/
def generic (text : String) : Fault := ⟨1, text⟩

/-- A value of the wrong kind stands where an integer is needed. -/
def mismatch : Fault := ⟨20, "datatype mismatch"⟩

/-- No row number is left. -/
def full : Fault := ⟨13, "database or disk is full"⟩

end Fault

/-- Whether two names are the same; the case of ASCII letters does not matter. -/
def sameName (a b : String) : Bool :=
  sameIgnoringCase a.toList b.toList

/-- A column of a table. -/
structure Column where
  name : String
  declared : String
  affinity : Affinity
  collation : Collation := .binary
  notNull : Bool := false
  default : Expr := .literal .null

/-- A set of columns on which no two rows agree. -/
structure Key where
  columns : List Nat
  /-- Whether it is the primary key. -/
  isPrimary : Bool
  /-- The name of the index that enforces it, if it was created by name. -/
  index : Option String := none
  deriving DecidableEq, Repr

/-- A row with its number. -/
structure StoredRow where
  number : Int
  cells : List Datum
  deriving DecidableEq, Repr, Inhabited

/-- A table. -/
structure Table where
  name : String
  columns : List Column
  /-- The column that is the row number. -/
  numberColumn : Option Nat := none
  /-- The keys, the youngest first: in this order they are checked. -/
  keys : List Key := []
  checks : List (Expr × String) := []
  /-- The largest row number ever used, if numbers are never used again. -/
  highest : Option Int := none
  rows : List StoredRow := []
  /-- The names of the indexes that enforce nothing. -/
  plainIndexes : List String := []

instance : Inhabited Table := ⟨⟨"", [], none, [], [], none, [], []⟩⟩

namespace Table

/-- The place of the column with a name. -/
def columnIndex? (t : Table) (name : String) : Option Nat :=
  t.columns.findIdx? fun c => sameName c.name name

/-- The names under which every table offers its row number. -/
def numberNames : List String := ["rowid", "oid", "_rowid_"]

/-- Whether a name stands for the row number. -/
def isNumberName (name : String) : Bool :=
  numberNames.any (sameName name)

/-- A column by its full name. -/
def fullName (t : Table) (i : Nat) : String :=
  t.name ++ "." ++ ((t.columns[i]?).elim "rowid" Column.name)

/-- The largest row number in use. -/
def lastNumber (t : Table) : Option Int :=
  (t.rows.getLast?).map StoredRow.number

/-- The number for a row that brings none: one more than the largest in use, or ever used if numbers
are not used again. -/
def nextNumber (t : Table) : Except Fault Int :=
  let last := max (t.lastNumber.getD 0) (t.highest.getD 0)
  if t.lastNumber.isNone ∧ t.highest.isNone then .ok 1
  else if last < maxInt64 then
    .ok ((max (t.lastNumber.getD minInt64) (t.highest.getD minInt64)) + 1)
  -- A number that was in use once is not used again, even if that leaves none.
  else if t.highest.isSome then .error .full
  else freeNumber
where
  /-- When the largest number is taken, a number that is still free. -/
  freeNumber : Except Fault Int :=
    let taken (n : Nat) : Bool := t.rows.any fun r => r.number = (n : Int) + 1
    match (List.range (t.rows.length + 1)).find? fun n => !taken n with
    | some n => .ok ((n : Int) + 1)
    | none => .error .full

/-- Puts a row at its place in the order of numbers. -/
def placeRow (row : StoredRow) : List StoredRow → List StoredRow
  | [] => [row]
  | r :: rest => if row.number < r.number then row :: r :: rest else r :: placeRow row rest

/-- Adds a row. -/
def insertRow (t : Table) (row : StoredRow) : Table :=
  { t with rows := placeRow row t.rows }

/-- Notes that a number was given to a new row. -/
def noteNumber (t : Table) (number : Int) : Table :=
  { t with highest := t.highest.map (max number) }

/-- Removes the row with a number. -/
def removeRow (t : Table) (number : Int) : Table :=
  { t with rows := t.rows.filter fun r => r.number ≠ number }

/-- The values of a row in the columns of a key, if none of them is null. -/
def keyValues? (key : Key) (cells : List Datum) : Option (List Datum) :=
  let values := key.columns.map fun i => cells.getD i .null
  if values.contains .null then none else some values

/-- Whether two rows agree on a key. -/
def agree (t : Table) (key : Key) (a b : List Datum) : Bool :=
  match keyValues? key a, keyValues? key b with
  | some xs, some ys =>
    (key.columns.zip (xs.zip ys)).all fun (i, x, y) =>
      Datum.same ((t.columns[i]?).elim .binary Column.collation) x y
  | _, _ => false

/-- The failure of a row that agrees with another one on a key. -/
def keyFault (t : Table) (key : Key) : Fault :=
  ⟨if key.isPrimary then 1555 else 2067,
    "UNIQUE constraint failed: " ++ ", ".intercalate (key.columns.map t.fullName)⟩

/-- The failure of a row whose number is taken. -/
def numberFault (t : Table) : Fault :=
  match t.numberColumn with
  | some i => ⟨1555, "UNIQUE constraint failed: " ++ t.fullName i⟩
  | none => ⟨2579, "UNIQUE constraint failed: " ++ t.name ++ ".rowid"⟩

/-- The failure of a row with a null where none may be. -/
def nullFault (t : Table) (i : Nat) : Fault :=
  ⟨1299, "NOT NULL constraint failed: " ++ t.fullName i⟩

/-- The failure of a row that breaks a condition. -/
def checkFault (name : String) : Fault :=
  ⟨275, "CHECK constraint failed: " ++ name⟩

end Table

/-- The tables of a database, in the order of their creation. -/
abbrev Catalog := List Table

namespace Catalog

/-- The table with a name. -/
def find? (c : Catalog) (name : String) : Option Table :=
  List.find? (fun t => sameName t.name name) c

/-- Replaces the table of the same name. -/
def put (c : Catalog) (t : Table) : Catalog :=
  c.map fun old => if sameName old.name t.name then t else old

/-- Removes the table with a name. -/
def remove (c : Catalog) (name : String) : Catalog :=
  c.filter fun t => !sameName t.name name

/-- Whether an index has a name. -/
def hasIndex (c : Catalog) (name : String) : Bool :=
  c.any fun t =>
    t.plainIndexes.any (sameName name) || t.keys.any fun k => k.index.any (sameName name)

end Catalog

end Sqlite

end StoreBridge
