import StoreBridge.Sqlite.Names

/-!
# Plans

A plan is a query whose expressions are prepared, over the rows of its sources. It keeps the rows
that pass its filter and computes a row of the result for each of them. If functions of rows occur
in it, the rows are put into groups first, and each group gives one row of the result.
-/

namespace StoreBridge

namespace Sqlite

/-- A failure without a code of its own. -/
def fails {α : Type} (text : String) : Except Fault α := .error (.generic text)

/-- A computation on values, as a step of a statement. -/
def computed {α : Type} (x : Except String α) : Except Fault α := x.mapError .generic

/-- The collation with a name. -/
def collationNamed (name : String) : Except Fault Collation :=
  match Collation.ofName? name with
  | some c => .ok c
  | none => fails ("no such collation sequence: " ++ name)

/-- A value as a whole number, where nothing else may stand. -/
def wholeNumberOf (d : Datum) : Except Fault Int :=
  match Affinity.numeric.store d with
  | .int i => .ok i
  | _ => .error .mismatch

/-- A column of a result: its name, its alias if it has one, and its value. -/
structure Shown where
  name : String
  label : Option String
  value : Bound

/-- Rows with what they are sorted by. -/
structure Unsorted where
  headings : List Heading
  rows : List (List Datum × List Datum)
  orders : List (TermOrder × Collation)

namespace Unsorted

/-- The sorted rows. -/
def sorted (u : Unsorted) : Relation where
  headings := u.headings
  rows := (sortByKeys u.orders u.rows).map Prod.fst

end Unsorted

/-- The part of the rows that a limit and an offset leave. A negative limit is none. -/
def Relation.cut (r : Relation) (limit : Option Int) (offset : Option Int) : Relation :=
  let rest := r.rows.drop (offset.getD 0).toNat
  { r with rows := limit.elim rest fun n => if n < 0 then rest else rest.take n.toNat }

/-- Puts rows with equal keys into groups, in the order of the keys. -/
def groupRows (keys : List (Term × Collation)) (rows : List (List Datum)) :
    Except Fault (List (List (List Datum))) := do
  let keyed ← rows.mapM fun row => do
    let values ← computed (Term.evalAll { row := row } (keys.map Prod.fst))
    return (row, values)
  let orders :=
    keys.map fun (_, c) => (({ descending := false, nullsFirst := none } : TermOrder), c)
  let groups := (sortByKeys orders keyed).splitBy fun a b => compareKeys orders a.2 b.2 == .eq
  return groups.map fun g => g.map Prod.fst

namespace AggregateCall

/-- The values of the arguments in each row of a group. -/
def inputs (c : AggregateCall) (group : List (List Datum)) : Except Fault (List (List Datum)) :=
  group.mapM fun row => computed (Term.evalAll { row := row } c.arguments)

/-- The value for a group. -/
def value (c : AggregateCall) (group : List (List Datum)) : Except Fault Datum := do
  let inputs ← c.inputs group
  let inputs := if c.distinct then AggregateFunction.distinct c.collation inputs else inputs
  computed (c.function.apply c.collation inputs)

/-- Whether the function picks one of its values. -/
def picks (c : AggregateCall) : Bool :=
  c.function = .min || c.function = .max

/-- The first row that has the picked value; null is picked only if there is nothing else, and then
the last row counts. -/
def pickedRow (c : AggregateCall) (group : List (List Datum)) : Except Fault (List Datum) := do
  let best ← c.value group
  let inputs ← c.inputs group
  let last := group.getLast?.getD []
  if best = .null then return last
  let rows := (group.zip inputs).filter fun (_, values) =>
    Datum.same c.collation (values.headD .null) best
  return (rows.head?).elim last Prod.fst

end AggregateCall

/-- The row of a group that columns outside of functions are taken from: the row with the picked
value if a function picks one, else the first row of a group with keys, and the last row of the
group that has none. -/
def groupRow (calls : List AggregateCall) (hasKeys : Bool) (group : List (List Datum)) :
    Except Fault (List Datum) :=
  match calls.reverse.find? AggregateCall.picks with
  | some c => c.pickedRow group
  | none => .ok ((if hasKeys then group.head? else group.getLast?).getD [])

/-- The cells of each group. -/
def groupCells (calls : List AggregateCall) (keys : List (Term × Collation))
    (rows : List (List Datum)) : Except Fault (List Cells) := do
  let groups ← if keys.isEmpty then pure [rows] else groupRows keys rows
  groups.mapM fun g => do
    let row ← groupRow calls (!keys.isEmpty) g
    return ⟨row, ← calls.mapM fun c => c.value g⟩

/-- Keeps the first of equal rows. -/
def firstOfEqual (cs : List Collation) (rows : List (List Datum × List Datum)) :
    List (List Datum × List Datum) :=
  rows.foldl (fun kept row =>
    if kept.any fun k => compareRows cs k.1 row.1 == .eq then kept else kept ++ [row]) []

/-- The alias of a result column with the expression it stands for. -/
def ResultColumn.alias? : ResultColumn → Option (String × Expr)
  | .value e (some label) _ => some (label, e)
  | _ => none

/-- A condition that holds if all terms are true. -/
def allTrue (terms : List Term) (row : List Datum) : Except Fault Bool := do
  let results ← terms.mapM fun t => computed (t.isTrue { row := row })
  return results.all id

/-- A prepared query over the rows of its sources. -/
structure Plan where
  shown : List Shown
  filter : Option Bound
  /-- The conditions on which the sources are joined. -/
  conditions : List (Option Term)
  /-- Whether rows are put into groups. -/
  grouped : Bool
  keys : List Bound
  calls : List AggregateCall
  having : Option Bound
  orders : List (Bound × TermOrder)

namespace Plan

/-- The cells that results are computed from: one for each row that passes the filter, or one for
each group of them that passes its condition. -/
def cells (p : Plan) (rows : List (List Datum)) : Except Fault (List Cells) := do
  let rows ← rows.filterM (allTrue (p.filter.map Bound.term).toList)
  if p.grouped then
    let groups ← groupCells p.calls (p.keys.map fun k => (k.term, k.order)) rows
    groups.filterM fun c => p.having.elim (.ok true) fun h => computed (h.term.isTrue c)
  else return rows.map fun row => { row := row, aggregates := [] }

/-- The row of the result for some cells, with what it is sorted by. -/
def result (p : Plan) (c : Cells) : Except Fault (List Datum × List Datum) := do
  let values ← computed (Term.evalAll c (p.shown.map fun s => s.value.term))
  let keys ← computed (Term.evalAll c (p.orders.map fun (b, _) => b.term))
  return (values, keys)

/-- Runs the query. -/
def run (p : Plan) (distinct : Bool) (rows : List (List Datum)) : Except Fault Unsorted := do
  let results ← (← p.cells rows).mapM p.result
  let collations := p.shown.map fun s => s.value.order
  return { headings := p.shown.map fun s => s.value.heading s.name
           rows := if distinct then firstOfEqual collations results else results
           orders := p.orders.map fun (b, o) => (o, b.order) }

end Plan

end Sqlite

end StoreBridge
