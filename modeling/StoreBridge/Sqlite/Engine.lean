import StoreBridge.Sqlite.Definition

/-!
# The embedded engine

The engine holds tables, the counters of its connection, and the transaction that is open. A
transaction keeps the tables as they were at its beginning, and each savepoint the tables as they
were when it was set; undoing puts them back. The counters are never put back. A statement that
fails changes no table, unless it is told to keep what it did before the failure.
-/

namespace StoreBridge

namespace Sqlite

/-- A savepoint. -/
structure Savepoint where
  name : String
  /-- The tables at the time it was set. -/
  catalog : Catalog
  /-- Whether it began the transaction. -/
  isOutermost : Bool

/-- The state of the engine. -/
structure Engine where
  catalog : Catalog := []
  counters : Counters := {}
  /-- The tables at the beginning of the transaction, if one is open. -/
  before : Option Catalog := none
  /-- The savepoints, the youngest first. -/
  savepoints : List Savepoint := []

instance : Inhabited Engine := ⟨{}⟩

/-- The work of a statement. -/
abbrev Work (α : Type) := ExceptT Fault (StateM Engine) α

namespace Engine

/-- The transaction is over, and its work is kept. -/
def settle (e : Engine) : Engine := { e with before := none, savepoints := [] }

/-- The transaction is over, and its work is undone. -/
def undo (e : Engine) : Engine :=
  { e with catalog := e.before.getD e.catalog, before := none, savepoints := [] }

/-- What statements with some arguments are prepared against. -/
def context (e : Engine) (arguments : List Datum) : Context :=
  { catalog := e.catalog, arguments := arguments, counters := e.counters }

/-- The engine after a change that touched some rows. -/
def counted (e : Engine) (touched : Nat) (lastNumber : Int) : Engine :=
  { e with counters := ⟨lastNumber, touched, e.counters.total + touched⟩ }

/-- The engine after a change to a table went as far as it did. -/
def afterChange (e : Engine) (result : Except Setback Unit) (p : Progress) : Engine :=
  let kept := { e with catalog := e.catalog.put p.table }
  match result with
  | .ok _ => kept.counted p.touched p.lastNumber
  | .error s =>
    match s.undoes with
    | .nothing => kept.counted p.touched p.lastNumber
    | .statement => e.counted 0 p.lastNumber
    | .loneStatement => (if e.before.isSome then kept else e).counted 0 p.lastNumber
    | .transaction => e.undo.counted 0 p.lastNumber

/-- Begins a transaction. -/
def begin : Work Unit := do
  let e ← get
  if e.before.isSome then throw (.generic "cannot start a transaction within a transaction")
  set { e with before := some e.catalog }

/-- Ends the transaction and keeps its work. -/
def commit : Work Unit := do
  let e ← get
  if e.before.isNone then throw (.generic "cannot commit - no transaction is active")
  set e.settle

/-- Ends the transaction and undoes its work. -/
def rollback : Work Unit := do
  let e ← get
  if e.before.isNone then throw (.generic "cannot rollback - no transaction is active")
  set e.undo

/-- Sets a savepoint, which begins a transaction if none is open. -/
def savepoint (name : String) : Work Unit :=
  modify fun e =>
    { e with
      before := some (e.before.getD e.catalog)
      savepoints := ⟨name, e.catalog, e.before.isNone⟩ :: e.savepoints }

/-- The youngest savepoint with a name, and those before it. -/
def findSavepoint (name : String) : Work (Savepoint × List Savepoint) := do
  match (← get).savepoints.dropWhile fun s => !sameName s.name name with
  | s :: older => return (s, older)
  | [] => throw (.generic ("no such savepoint: " ++ name))

/-- Gives up a savepoint and those after it. -/
def release (name : String) : Work Unit := do
  let (s, older) ← findSavepoint name
  modify fun e => if s.isOutermost then e.settle else { e with savepoints := older }

/-- Undoes the work since a savepoint, which stays. -/
def rollbackTo (name : String) : Work Unit := do
  let (s, older) ← findSavepoint name
  modify fun e => { e with catalog := s.catalog, savepoints := s :: older }

/-- A change to the declared tables. -/
def define (change : Except Fault Catalog) : Work Unit := do
  match change with
  | .ok catalog => modify fun e => { e with catalog := catalog }
  | .error f => throw f

/-- Runs a change to the rows of a table. -/
def change (prepared : Except Fault PreparedChange) : Work Unit := do
  match prepared with
  | .error f => throw f
  | .ok c =>
    let e ← get
    -- What a change undoes is settled after it ran, from the tables before it.
    let (result, progress) := c.run.run { table := c.table, lastNumber := e.counters.lastNumber }
    set (e.afterChange result progress)
    match result with
    | .ok _ => return ()
    | .error setback => throw setback.fault

/-- Runs a statement. Only a query gives rows. -/
def run (s : Statement) (arguments : List Datum) : Work Relation := do
  let ctx := (← get).context arguments
  let catalog := ctx.catalog
  match s with
  | .select q =>
    match select depthLimit ctx q with
    | .ok r => return r
    | .error f => throw f
  | .createTable name ifNotExists columns constraints =>
    define (catalog.create name ifNotExists (Table.declare ctx name columns constraints))
  | .createTableAs name ifNotExists q =>
    define (catalog.create name ifNotExists ((select depthLimit ctx q).map (Table.ofRelation name)))
  | .createIndex name ifNotExists unique table columns =>
    define (catalog.createIndex name ifNotExists unique table columns)
  | .dropTable name ifExists => define (catalog.dropTable name ifExists)
  | .dropIndex name ifExists => define (catalog.dropIndex name ifExists)
  | .alterTable name alteration => define (catalog.alter ctx name alteration)
  | .insert named conflict table columns rows upsert returning =>
    -- What is to be changed is prepared on the rows as they are, and then done.
    change do
      prepareInsert (← ctx.withNamed named) conflict table columns rows upsert returning
  | .update named conflict table changes filter returning =>
    change do prepareUpdate (← ctx.withNamed named) conflict table changes filter returning
  | .delete named table filter returning =>
    change do prepareDelete (← ctx.withNamed named) table filter returning
  | .begin => begin
  | .commit => commit
  | .rollback => rollback
  | .savepoint name => savepoint name
  | .release name => release name
  | .rollbackTo name => rollbackTo name
  | .noEffect => pure ()
  return ⟨[], []⟩

end Engine

end Sqlite

end StoreBridge
