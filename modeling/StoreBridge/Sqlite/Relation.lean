import StoreBridge.Sqlite.Table

/-!
# Relations

A relation is what a query works on and what it gives: headings and rows of as many values.
Relations are joined, combined as lists or as sets, and sorted. Sorting keeps the order of rows that
compare equal, and a relation made as a set is sorted by its columns from left to right.
-/

namespace StoreBridge

namespace Sqlite

/-- How a column of a relation can be named. -/
inductive HeadingRole where
  /-- By its name, and by a star. -/
  | shown
  /-- The row number, which a star leaves out. -/
  | number
  /-- Only together with its source: another source has the same column, and they were joined on it.
  -/
  | merged
  deriving DecidableEq, Repr, Inhabited

/-- A column of a relation. What it takes from the column of a table is kept for comparisons and for
its type. -/
structure Heading where
  /-- The name of the source it comes from. -/
  source : Option String
  name : String
  affinity : Option Affinity := none
  collation : Option Collation := none
  declared : Option String := none
  role : HeadingRole := .shown
  deriving DecidableEq, Repr, Inhabited

namespace Heading

/-- Whether the column belongs to a source. -/
def isOf (h : Heading) (source : String) : Bool :=
  h.source.any (sameName source)

/-- Whether a name stands for the column. -/
def answers (h : Heading) (source : Option String) (name : String) : Bool :=
  match source with
  | some s => h.role != .number && h.isOf s && sameName h.name name
  | none => h.role = .shown && sameName h.name name

/-- Whether the column is the row number of a source. -/
def isNumberOf (h : Heading) (source : Option String) : Bool :=
  h.role = .number && source.all h.isOf

/-- The collation, if the column has one, or else the usual one. -/
def order (h : Heading) : Collation := h.collation.getD .binary

end Heading

/-- Compares two rows from left to right. -/
def compareRows : List Collation → List Datum → List Datum → Ordering
  | c :: cs, a :: as, b :: bs => (Datum.order c a b).then (compareRows cs as bs)
  | _, _, _ => .eq

/-- Drops each row that equals the row before it. -/
def dropRepeats (cs : List Collation) : List (List Datum) → List (List Datum)
  | a :: b :: rest =>
    if compareRows cs a b == .eq then dropRepeats cs (a :: rest)
      else a :: dropRepeats cs (b :: rest)
  | rows => rows
termination_by rows => rows.length

/-- The rows as a set: sorted, and each once. -/
def asSet (cs : List Collation) (rows : List (List Datum)) : List (List Datum) :=
  dropRepeats cs (rows.mergeSort fun a b => compareRows cs a b != .gt)

namespace CompoundOp

/-- Combines the rows of two queries. -/
def combine (op : CompoundOp) (cs : List Collation) (a b : List (List Datum)) :
    List (List Datum) :=
  let isIn (rows : List (List Datum)) (row : List Datum) : Bool :=
    rows.any fun r => compareRows cs r row == .eq
  match op with
  | .unionAll => a ++ b
  | .union => asSet cs (a ++ b)
  | .intersect => asSet cs (a.filter (isIn b))
  | .except => asSet cs (a.filter fun row => !isIn b row)

/-- The words for the operation. -/
def text : CompoundOp → String
  | .unionAll => "UNION ALL"
  | .union => "UNION"
  | .intersect => "INTERSECT"
  | .except => "EXCEPT"

end CompoundOp

/-- Compares two values in the order of a term. Null is the smallest value unless its place is
said. -/
def TermOrder.compare (o : TermOrder) (c : Collation) (a b : Datum) : Ordering :=
  let nullsFirst := o.nullsFirst.getD (!o.descending)
  match a, b with
  | .null, .null => .eq
  | .null, _ => if nullsFirst then .lt else .gt
  | _, .null => if nullsFirst then .gt else .lt
  | a, b => if o.descending then (Datum.order c a b).swap else Datum.order c a b

/-- Compares what two rows are sorted by. -/
def compareKeys : List (TermOrder × Collation) → List Datum → List Datum → Ordering
  | (o, c) :: rest, a :: as, b :: bs => (o.compare c a b).then (compareKeys rest as bs)
  | _, _, _ => .eq

/-- Sorts rows by the keys that stand beside them. -/
def sortByKeys {α : Type} (orders : List (TermOrder × Collation)) (rows : List (α × List Datum)) :
    List (α × List Datum) :=
  rows.mergeSort fun a b => compareKeys orders a.2 b.2 != .gt

/-- Headings and rows. -/
structure Relation where
  headings : List Heading
  rows : List (List Datum)
  deriving Repr, Inhabited

namespace Relation

/-- The collations of the columns. -/
def collations (r : Relation) : List Collation := r.headings.map Heading.order

/-- The relation under the name of a source. -/
def named (source : Option String) (r : Relation) : Relation :=
  { r with headings := r.headings.map fun h => { h with source := source } }

/-- The relation with other names for its columns. -/
def renamed (names : List String) (r : Relation) : Relation :=
  { r with headings := r.headings.zipWith (fun h name => { h with name := name }) names }

end Relation

/-- The heading of the row number, which is named like the column that shows it, if there is one. -/
def Table.numberHeading (t : Table) (source : String) : Heading :=
  let column := t.numberColumn.bind fun i => t.columns[i]?
  { source := some source, name := column.elim "rowid" Column.name, affinity := some .integer,
    declared := some (column.elim "INTEGER" Column.declared), role := .number }

/-- A table as a relation under a name: its columns, and behind them the row number. -/
def Table.relation (t : Table) (source : String) : Relation where
  headings :=
    (t.columns.map fun c =>
      { source := some source, name := c.name, affinity := some c.affinity,
        collation := some c.collation, declared := some c.declared }) ++ [t.numberHeading source]
  rows := t.rows.map fun r => r.cells ++ [.int r.number]

end Sqlite

end StoreBridge
