import StoreBridge.Adapter.Basic

/-!
# A recording adapter

An adapter without a store: it writes down every call and answers from a script. Calls of each kind
are counted from one over all transactions, and the script says which of them fail and what the
executions answer. A transaction that has ended refuses every call, and such a call is neither
counted nor written down.
-/

namespace StoreBridge

/-- The kinds of calls that are counted. -/
inductive CallKind where
  | connect
  | disconnect
  | begin
  | execute
  | commit
  | rollback
  deriving DecidableEq, Repr

namespace CallKind

def all : List CallKind := [.connect, .disconnect, .begin, .execute, .commit, .rollback]

def name : CallKind → String
  | .connect => "connect"
  | .disconnect => "disconnect"
  | .begin => "begin"
  | .execute => "execute"
  | .commit => "commit"
  | .rollback => "rollback"

end CallKind

/-- A call as it is written down. A transaction is named by the count of begin calls when it began,
and zero stands for the adapter. -/
inductive Event where
  | connect
  | disconnect
  | execute (transaction : Nat) (request : Request)
  | begin
  | savepoint (depth : Nat)
  | commit (transaction : Nat)
  | rollback (transaction : Nat)
  deriving DecidableEq, Repr

/-- What a recording adapter answers. -/
structure Script where
  backend : Backend
  capabilities : Capabilities
  /-- The answers of the executions, where nothing else is said the acknowledgement of as many rows
  as there were executions. -/
  outputs : List (Option Output)
  /-- The calls that fail. -/
  fails : CallKind → Nat → Bool

/-- A transaction of a recording adapter. -/
structure RecordedScope where
  info : Transaction
  /-- The count of begin calls when it began. -/
  label : Nat
  finished : Bool
  deriving Repr, Inhabited

/-- What a recording adapter remembers. -/
structure Recording where
  counts : CallKind → Nat
  events : List Event
  scopes : List RecordedScope

namespace Recording

/-- Nothing has been called. -/
def empty : Recording := ⟨fun _ => 0, [], []⟩

/-- The transaction with a number. A number that was never handed out names an ended transaction. -/
def scope (r : Recording) (b : Backend) (n : Nat) : RecordedScope :=
  r.scopes.getD n ⟨Transaction.outermost b n, 0, true⟩

/-- Marks a transaction as ended. -/
def finish (r : Recording) (n : Nat) : Recording :=
  { r with scopes := r.scopes.modify n fun s => { s with finished := true } }

/-- Adds a transaction; its number is the count of those before it. -/
def addScope (r : Recording) (s : RecordedScope) : Recording :=
  { r with scopes := r.scopes ++ [s] }

end Recording

namespace Script

/-- Counts a call, writes it down and lets it fail if the script says so; answers its number. -/
def note (s : Script) (kind : CallKind) (event : Event) : Call Recording Nat := do
  let r ← get
  let n := r.counts kind + 1
  set { r with
    counts := fun k => if k = kind then n else r.counts k
    events := r.events ++ [event] }
  if s.fails kind n then
    throw (.invalidQuery (.custom ("mock " ++ kind.name ++ " " ++ natText n ++ " failed")))
  return n

/-- The transaction with a number, if it has not ended. -/
def activeScope (s : Script) (n : Nat) : Call Recording RecordedScope := do
  let scope := (← get).scope s.backend n
  if scope.finished then throw scope.info.inactive
  return scope

/-- The number that stands for a handle in events. -/
def label (s : Script) : Handle → Call Recording Nat
  | .root => pure 0
  | .scope n => return (← s.activeScope n).label

/-- Answers an execution. -/
def execute (s : Script) (h : Handle) (r : Request) : Call Recording Output := do
  let n ← s.note .execute (.execute (← s.label h) r)
  return (s.outputs.getD (n - 1) none).getD (.ack (WriteAck.ofCount n))

/-- Begins a transaction, inside another one if the script lets transactions nest. -/
def begin (s : Script) : Handle → Call Recording Nat
  | .root => do
    let label ← s.note .begin .begin
    let r ← get
    let n := r.scopes.length
    set (r.addScope ⟨Transaction.outermost s.backend n, label, false⟩)
    return n
  | .scope outer => do
    let scope ← s.activeScope outer
    if !s.capabilities.nestedTransactions then throw (DbError.nestedTransaction s.backend)
    let label ← s.note .begin (.savepoint (scope.info.depth + 1))
    let r ← get
    let n := r.scopes.length
    set (r.addScope ⟨scope.info.nested n, label, false⟩)
    return n

/-- Ends a transaction; it has ended even when the call fails. -/
def finish (s : Script) (kind : CallKind) (event : Nat → Event) (n : Nat) :
    Call Recording Unit := do
  let scope ← s.activeScope n
  modify fun r => r.finish n
  let _ ← s.note kind (event scope.label)

/-- The adapter that follows a script. -/
def adapter (s : Script) : Adapter Recording where
  backend := s.backend
  capabilities := s.capabilities
  connect := discard (s.note .connect .connect)
  disconnect := discard (s.note .disconnect .disconnect)
  execute := s.execute
  begin := s.begin
  commit := s.finish .commit .commit
  rollback := s.finish .rollback .rollback
  info n r := (r.scope s.backend n).info
  isActive n r := !(r.scope s.backend n).finished

end Script

end StoreBridge
