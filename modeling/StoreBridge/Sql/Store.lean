import StoreBridge.Adapter.Basic
import StoreBridge.Adapter.Lifecycle
import StoreBridge.Config.PoolOptions
import StoreBridge.Sql.Dialect
import StoreBridge.Sql.Pool

/-!
# SQL stores

An adapter that talks to a SQL server through a pool. A transaction keeps a connection until it
ends. Where transactions nest, the inner ones are savepoints on the connection of the outermost one,
so an inner transaction can do nothing once the outermost has ended.

A transaction counts as ended when it is first committed or rolled back, whatever the server
answers. When the end of an outermost transaction fails, one more rollback is sent, and its answer
is ignored.
-/

namespace StoreBridge

/-- A transaction of a SQL store. -/
structure SqlScope where
  info : Transaction
  /-- The connection of its outermost transaction. -/
  connection : Nat
  /-- The number of its outermost transaction. -/
  outermost : Nat
  finished : Bool
  deriving DecidableEq, Repr, Inhabited

/-- A SQL store: the server, the pool, and the transactions in the order of their beginning. -/
structure SqlStore (ς : Type) where
  server : ς
  lifecycle : Lifecycle
  pool : Pool
  scopes : List SqlScope := []

namespace SqlStore

variable {ς α : Type}

/-- The transaction with a number. A number that was never handed out names an ended transaction. -/
def scope (s : SqlStore ς) (n : Nat) : SqlScope :=
  s.scopes.getD n ⟨Transaction.outermost s.lifecycle.backend n, 0, n, true⟩

/-- Marks a transaction as ended. -/
def finish (s : SqlStore ς) (n : Nat) : SqlStore ς :=
  { s with scopes := s.scopes.modify n fun t => { t with finished := true } }

/-- Adds a transaction; its number is the count of those before it. -/
def addScope (t : SqlScope) : Call (SqlStore ς) Nat := do
  let s ← get
  set { s with scopes := s.scopes ++ [t] }
  return s.scopes.length

/-- An exchange with the server, whose failures are turned into failures of the call. -/
def exchange (x : Exchange ς α) (failure : DriverError → DbError) : Call (SqlStore ς) α :=
  fun s =>
    let (answer, server) := x s.server
    (answer.mapError failure, { s with server := server })

/-- Refuses a closed adapter. -/
def ensureOpen : Call (SqlStore ς) Unit := do
  Call.ofExcept (← get).lifecycle.ensureOpen

end SqlStore

/-- A SQL store of a dialect, on a server. -/
structure SqlDriver (ς : Type) where
  dialect : Dialect
  server : Server ς

namespace SqlDriver

variable {ς α : Type}

open SqlStore

def backend (d : SqlDriver ς) : Backend := d.dialect.backend

/-- A store that has not been used yet. -/
def start (d : SqlDriver ς) (o : PoolOptions) (server : ς) : SqlStore ς :=
  { server := server
    lifecycle := ⟨d.backend, false⟩
    pool := ⟨o.effectiveMax d.backend, o.effectiveAcquireTimeout != 0, 0, []⟩ }

/-- A failure of the server. -/
def failure (d : SqlDriver ς) : DriverError → DbError := .backend d.backend

/-- Sends a command on a connection. -/
def send (d : SqlDriver ς) (connection : Nat) (c : Command) : Call (SqlStore ς) Reply :=
  exchange (d.server.send connection c) d.failure

/-- Sends a command on a connection and ignores the answer. -/
def sendAnyway (d : SqlDriver ς) (connection : Nat) (c : Command) : Call (SqlStore ς) Unit :=
  ExceptT.mk do
    let _ ← (d.send connection c).run
    return .ok ()

/-- Borrows a connection from the pool. -/
def acquire (d : SqlDriver ς) (failure : DriverError → DbError) : Call (SqlStore ς) Nat := do
  let s ← get
  match s.pool.grant with
  | .reuse n rest =>
    set { s with pool := rest }
    return n
  | .dial =>
    exchange d.server.dial failure
    modify fun s => { s with pool := s.pool.afterDial }
    return s.pool.opened
  | .refuse => throw (failure .poolTimedOut)

/-- Gives a connection back to the pool. -/
def giveBack (connection : Nat) : Call (SqlStore ς) Unit :=
  modify fun s => { s with pool := s.pool.giveBack connection }

/-- Borrows a connection for some work and gives it back whatever the work answers. -/
def borrowing (d : SqlDriver ς) (failure : DriverError → DbError)
    (work : Nat → Call (SqlStore ς) α) : Call (SqlStore ς) α := do
  let connection ← d.acquire failure
  let answer ← ExceptT.lift (work connection).run
  giveBack connection
  Call.ofExcept answer

/-- Runs a statement on a connection. -/
def runStatement (d : SqlDriver ς) (r : SqlRequest) (connection : Nat) :
    Call (SqlStore ς) Output := do
  let text := d.dialect.render r
  let reply ← d.send connection (.statement text (r.params.map Argument.ofJson))
  return d.dialect.output text reply

/-- Opens a connection and asks for the version of the server, which may fail. -/
def connect (d : SqlDriver ς) : Call (SqlStore ς) Unit := do
  ensureOpen
  d.borrowing (fun e => connectError d.backend e.text) fun connection =>
    d.sendAnyway connection (.version d.dialect.versionText)

/-- Closes the pool, if it has ever opened a connection. Only some stores report that this fails. -/
def closePool (d : SqlDriver ς) : Call (SqlStore ς) Unit := do
  if (← get).pool.opened = 0 then return ()
  modify fun s => { s with pool := s.pool.close }
  let answer ← ExceptT.lift (exchange d.server.close d.failure).run
  if d.dialect.reportsClose then Call.ofExcept answer

/-- Closes the adapter, and its pool the first time. -/
def disconnect (d : SqlDriver ς) : Call (SqlStore ς) Unit := do
  let before ← get
  modify fun s => { s with lifecycle := s.lifecycle.close.2 }
  if before.lifecycle.close.1 then d.closePool

/-- The SQL of a request to the adapter itself. -/
def rootRequest (d : SqlDriver ς) (r : Request) : Call (SqlStore ς) SqlRequest := do
  if d.dialect.requestFirst then
    let sql ← Call.ofExcept (r.expectSql d.backend)
    ensureOpen
    return sql
  else
    ensureOpen
    Call.ofExcept (r.expectSql d.backend)

/-- The transaction with a number, if it has not ended. -/
def activeScope (_ : SqlDriver ς) (n : Nat) : Call (SqlStore ς) SqlScope := do
  let t := (← get).scope n
  if t.finished then throw t.info.inactive
  return t

/-- The connection of a transaction, if its outermost transaction has not ended. -/
def connectionOf (t : SqlScope) : Call (SqlStore ς) Nat := do
  if ((← get).scope t.outermost).finished then throw t.info.inactive
  return t.connection

/-- The SQL of a request inside a transaction. An ended transaction and a request of another kind
are both refused; the dialect decides which of the two is looked at first. -/
def scopeRequest (d : SqlDriver ς) (n : Nat) (r : Request) : Call (SqlStore ς) SqlRequest := do
  if d.dialect.activeFirst then
    discard (d.activeScope n)
    Call.ofExcept (r.expectSql d.backend)
  else
    let sql ← Call.ofExcept (r.expectSql d.backend)
    discard (d.activeScope n)
    return sql

/-- Runs a request inside a transaction. -/
def executeWithin (d : SqlDriver ς) (n : Nat) (r : Request) : Call (SqlStore ς) Output := do
  let sql ← d.scopeRequest n r
  let connection ← connectionOf ((← get).scope n)
  d.runStatement sql connection

/-- Runs a request. -/
def execute (d : SqlDriver ς) : Handle → Request → Call (SqlStore ς) Output
  | .root, r => do
    let sql ← d.rootRequest r
    d.borrowing d.failure (d.runStatement sql)
  | .scope n, r => d.executeWithin n r

/-- Begins an outermost transaction on a connection of its own. -/
def beginOutermost (d : SqlDriver ς) : Call (SqlStore ς) Nat := do
  ensureOpen
  let connection ← d.acquire d.failure
  match ← ExceptT.lift (d.send connection .begin).run with
  | .ok _ =>
    let n := (← get).scopes.length
    addScope ⟨Transaction.outermost d.backend n, connection, n, false⟩
  | .error e =>
    giveBack connection
    throw e

/-- Sets a savepoint for a transaction inside another one, on its connection. -/
def beginSavepoint (d : SqlDriver ς) (n : Nat) : Call (SqlStore ς) Nat := do
  let outer ← d.activeScope n
  let connection ← connectionOf outer
  let _ ← d.send connection (.savepoint (outer.info.depth + 1))
  let serial := (← get).scopes.length
  addScope ⟨outer.info.nested serial, connection, outer.outermost, false⟩

/-- Begins a transaction inside another one, in the way of the dialect. -/
def beginWithin (d : SqlDriver ς) (n : Nat) : Call (SqlStore ς) Nat :=
  match d.dialect.nestedBegin with
  | .refused => throw (DbError.nestedTransaction d.backend)
  | .savepoint => d.beginSavepoint n

/-- Begins a transaction. -/
def begin (d : SqlDriver ς) : Handle → Call (SqlStore ς) Nat
  | .root => d.beginOutermost
  | .scope n => d.beginWithin n

/-- Ends an outermost transaction and gives its connection back. -/
def endOutermost (d : SqlDriver ς) (t : SqlScope) (c : Command) : Call (SqlStore ς) Unit := do
  match ← ExceptT.lift (d.send t.connection c).run with
  | .ok _ => giveBack t.connection
  | .error e =>
    -- The server may still be inside the transaction.
    d.sendAnyway t.connection .rollback
    giveBack t.connection
    throw e

/-- Ends a transaction: with one command if it is outermost, with another if it is a savepoint. -/
def endScope (d : SqlDriver ς) (outermost : Command) (nested : Nat → Command) (n : Nat) :
    Call (SqlStore ς) Unit := do
  let t ← d.activeScope n
  modify fun s => s.finish n
  if t.info.depth = 0 then d.endOutermost t outermost
  else
    let connection ← connectionOf t
    discard (d.send connection (nested t.info.depth))

/-- The adapter over a server. -/
def adapter (d : SqlDriver ς) : Adapter (SqlStore ς) where
  backend := d.backend
  capabilities := d.backend.capabilities
  connect := d.connect
  disconnect := d.disconnect
  execute := d.execute
  begin := d.begin
  commit := d.endScope .commit .release
  rollback := d.endScope .rollback .rollbackTo
  info n s := (s.scope n).info
  isActive n s := !(s.scope n).finished

/-- Looks at the server once a connection is free, as a statement would. -/
def inspect (d : SqlDriver ς) (look : ς → α) : Call (SqlStore ς) α := do
  ensureOpen
  d.borrowing d.failure fun _ => return look (← get).server

end SqlDriver

end StoreBridge
