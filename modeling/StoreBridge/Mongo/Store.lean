import StoreBridge.Adapter.Basic
import StoreBridge.Adapter.Lifecycle
import StoreBridge.Mongo.Document
import StoreBridge.Mongo.Server

/-!
# Document stores

An adapter that talks to a MongoDB server. Whatever can be refused without the server is refused
before anything is sent. A transaction is a session that has not ended; the server hears of it with
the first command that leaves the driver, so that a transaction without such a command sends nothing
when it ends. A failed abort is not reported.
-/

namespace StoreBridge

/-- A transaction of a document store. -/
structure SessionScope where
  info : Transaction
  /-- Whether a command has been sent to a server in it. -/
  started : Bool
  finished : Bool
  deriving DecidableEq, Repr, Inhabited

/-- A document store: the server and the transactions in the order of their beginning. -/
structure MongoStore (ς : Type) where
  server : ς
  lifecycle : Lifecycle := ⟨.mongodb, false⟩
  scopes : List SessionScope := []

/-- The update is a document without operators in front, which the server would take for a
replacement. -/
def DriverError.noModifiers : DriverError :=
  ⟨"Kind: An invalid argument was provided: update document must only contain update modifiers, " ++
    "labels: \x7b\x7d, source: None, server response: None", none⟩

namespace Document

/-- Whether the changes of an update begin with an operator. -/
def beginsWithOperator (d : Document) : Bool :=
  match d with
  | (key, _) :: _ => isOperator key
  | [] => false

/-- The value of a key. -/
def get? (d : Document) (key : String) : Option Bson :=
  (d.find? fun (k, _) => k = key).map Prod.snd

/-- The document with its id in front. -/
def identified (d : Document) (id : Bson) : Document :=
  ("_id", id) :: d.filter fun (key, _) => key != "_id"

end Document

namespace MongoStore

variable {ς α : Type}

/-- The transaction with a number. A number that was never handed out names an ended transaction. -/
def scope (s : MongoStore ς) (n : Nat) : SessionScope :=
  s.scopes.getD n ⟨Transaction.outermost .mongodb n, false, true⟩

/-- Changes the transaction with a number. -/
def modifyScope (s : MongoStore ς) (n : Nat) (f : SessionScope → SessionScope) : MongoStore ς :=
  { s with scopes := s.scopes.modify n f }

/-- Adds a transaction; its number is the count of those before it. -/
def addScope (s : MongoStore ς) (t : SessionScope) : MongoStore ς :=
  { s with scopes := s.scopes ++ [t] }

/-- A failure of the server. -/
def failure : DriverError → DbError := .backend .mongodb

/-- An exchange with the server, whose failures are turned into failures of the call. -/
def exchange (x : Exchange ς α) (failure : DriverError → DbError) : Call (MongoStore ς) α :=
  fun s =>
    let (answer, server) := x s.server
    (answer.mapError failure, { s with server := server })

/-- Refuses a closed adapter. -/
def ensureOpen : Call (MongoStore ς) Unit := do
  Call.ofExcept (← get).lifecycle.ensureOpen

end MongoStore

namespace DocumentServer

variable {ς : Type}

open MongoStore

/-- Sends a command on a handle. The first command of a transaction starts it. -/
def sendOn (srv : DocumentServer ς) (h : Handle) (c : DocumentCommand) :
    Call (MongoStore ς) DocumentReply :=
  match h with
  | .root => exchange (srv.request .outside c) failure
  | .scope n => do
    exchange srv.select failure
    -- The server hears of the transaction with this command, whatever it answers.
    let first := !((← get).scope n).started
    modify fun s => s.modifyScope n fun t => { t with started := true }
    exchange (srv.send (.within n first) c) failure

/-- Gives a document an id in front, its own if it has one. -/
def identify (srv : DocumentServer ς) (d : Document) : Call (MongoStore ς) (Bson × Document) := do
  match d.get? "_id" with
  | some id => return (id, d.identified id)
  | none =>
    let fresh ← exchange (ExceptT.lift srv.freshId) failure
    let id := Bson.objectId fresh
    return (id, d.identified id)

/-- Runs the find of an operation. -/
def runFind (srv : DocumentServer ς) (h : Handle) (r : DocumentRequest) (filter : Members) :
    Call (MongoStore ς) Output := do
  let op := r.operation
  let filter ← Call.ofExcept (Document.ofMembers filter)
  let reply ← srv.sendOn h (.find r.collection filter (op.projection.map Document.projection)
    (if op.sort.isEmpty then none else some (Document.sort op.sort))
    (op.limit.map fun n => min n (pow2 63 - 1)))
  return .rows (reply.documents.map Document.toRow)

/-- Runs an insert. Without documents nothing is sent. -/
def runInsert (srv : DocumentServer ς) (h : Handle) (r : DocumentRequest) (rows : List Members) :
    Call (MongoStore ς) Output := do
  let documents ← Call.ofExcept (rows.mapM Document.ofMembers)
  if documents.isEmpty then return .ack (WriteAck.ofCount 0)
  let identified ← documents.mapM srv.identify
  let _ ← srv.sendOn h (.insert r.collection (identified.map Prod.snd))
  return .ack ⟨identified.length, identified.map fun (id, _) => id.relaxed⟩

/-- Runs an update. Changes that do not begin with an operator are refused. -/
def runUpdate (srv : DocumentServer ς) (h : Handle) (r : DocumentRequest) (u : DocumentUpdate) :
    Call (MongoStore ς) Output := do
  let filter ← Call.ofExcept (Document.ofMembers u.filter)
  let changes := (← Call.ofExcept (Document.ofMembers u.changes)).changes
  -- Without an operator in front the changes would replace the whole document.
  if !changes.beginsWithOperator then throw (failure .noModifiers)
  let reply ← srv.sendOn h (.update r.collection filter changes)
  return .ack (WriteAck.ofCount reply.modified)

/-- Runs a delete. -/
def runDelete (srv : DocumentServer ς) (h : Handle) (r : DocumentRequest) (filter : Members) :
    Call (MongoStore ς) Output := do
  let filter ← Call.ofExcept (Document.ofMembers filter)
  let reply ← srv.sendOn h (.delete r.collection filter)
  return .ack (WriteAck.ofCount reply.touched)

/-- A stage of an aggregation. -/
def stage : Json → Except DbError Document
  | .object ms => Document.ofMembers ms
  | other => .error (.invalidQuery (.badStage other))

/-- Runs an aggregation. -/
def runAggregate (srv : DocumentServer ς) (h : Handle) (r : DocumentRequest) (stages : List Json) :
    Call (MongoStore ς) Output := do
  let stages ← Call.ofExcept (stages.mapM stage)
  let reply ← srv.sendOn h (.aggregate r.collection stages)
  return .rows (reply.documents.map Document.toRow)

/-- Runs the first action that is set of find, insert, update, delete and aggregate. -/
def runOperation (srv : DocumentServer ς) (h : Handle) (r : DocumentRequest) :
    Call (MongoStore ς) Output :=
  match r.operation with
  | { find := some filter, .. } => srv.runFind h r filter
  | { insert := some rows, .. } => srv.runInsert h r rows
  | { update := some u, .. } => srv.runUpdate h r u
  | { delete := some filter, .. } => srv.runDelete h r filter
  | { aggregate := some stages, .. } => srv.runAggregate h r stages
  | _ => throw (.unsupported "document operation"
    "no find, insert, update, delete or aggregate action was set")

/-- Refuses a transaction that has ended. -/
def activeScope (_ : DocumentServer ς) (n : Nat) : Call (MongoStore ς) SessionScope := do
  let t := (← get).scope n
  if t.finished then throw t.info.inactive
  return t

/-- Runs a request. -/
def execute (srv : DocumentServer ς) : Handle → Request → Call (MongoStore ς) Output
  | .root, r => do
    ensureOpen
    srv.runOperation .root (← Call.ofExcept (r.expectDocument .mongodb))
  | .scope n, r => do
    let request ← Call.ofExcept (r.expectDocument .mongodb)
    let _ ← srv.activeScope n
    srv.runOperation (.scope n) request

/-- Asks the server to answer, and for its version, which may fail. -/
def connect (srv : DocumentServer ς) : Call (MongoStore ς) Unit := do
  ensureOpen
  let _ ← exchange (srv.request .outside .ping) fun e => connectError .mongodb e.text
  let _ ← ExceptT.lift (exchange (srv.request .outside .buildInfo) failure).run

/-- Closes the adapter, and leaves the servers the first time. -/
def disconnect (srv : DocumentServer ς) : Call (MongoStore ς) Unit := do
  let before ← get
  modify fun s => { s with lifecycle := s.lifecycle.close.2 }
  if before.lifecycle.close.1 then exchange (ExceptT.lift srv.shutdown) failure

/-- A session with a transaction in it, which the driver may refuse. -/
def openSession (srv : DocumentServer ς) : Call (MongoStore ς) Unit := do
  ensureOpen
  exchange srv.startSession failure

/-- Begins a transaction. The server does not hear of it yet. -/
def begin (srv : DocumentServer ς) : Handle → Call (MongoStore ς) Nat
  | .root => do
    srv.openSession
    let n := (← get).scopes.length
    modify fun s => s.addScope ⟨Transaction.outermost .mongodb n, false, false⟩
    return n
  | .scope _ => throw (DbError.nestedTransaction .mongodb)

/-- Ends a transaction, and tells the server if it has heard of it. -/
def endScope (srv : DocumentServer ς) (c : DocumentCommand) (n : Nat) :
    Call (MongoStore ς) (Except DbError Unit) := do
  let t ← srv.activeScope n
  modify fun s => s.modifyScope n fun t => { t with finished := true }
  if t.started then
    ExceptT.lift (discard (exchange (srv.request (.within n false) c) failure)).run
  else return .ok ()

/-- Keeps the work of a transaction. -/
def commit (srv : DocumentServer ς) (n : Nat) : Call (MongoStore ς) Unit := do
  Call.ofExcept (← srv.endScope .commit n)

/-- Undoes the work of a transaction. That the server fails to do so is not reported. -/
def rollback (srv : DocumentServer ς) (n : Nat) : Call (MongoStore ς) Unit :=
  discard (srv.endScope .abort n)

/-- The adapter over a server. -/
def adapter (srv : DocumentServer ς) : Adapter (MongoStore ς) where
  backend := .mongodb
  capabilities := Backend.mongodb.capabilities
  connect := srv.connect
  disconnect := srv.disconnect
  execute := srv.execute
  begin := srv.begin
  commit := srv.commit
  rollback := srv.rollback
  info n s := (s.scope n).info
  isActive n s := !(s.scope n).finished

end DocumentServer

end StoreBridge
