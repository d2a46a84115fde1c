import StoreBridge.Failure
import StoreBridge.Serial.Form

/-!
# Pool options

Limits of a connection pool, each of which may be left open. `validate` looks at the options that
are set; the effective settings fill in the defaults, and SQLite always runs on one connection.
-/

namespace StoreBridge

/-- The options of a connection pool. Times are in seconds. -/
structure PoolOptions where
  maxConnections : Option Nat := none
  minConnections : Option Nat := none
  idleTimeout : Option Nat := none
  acquireTimeout : Option Nat := none
  testBeforeAcquire : Option Bool := none
  statementCacheCapacity : Option Nat := none
  deriving DecidableEq, Repr, Inhabited

/-- What can be wrong with pool options. -/
inductive PoolFault where
  | noConnections
  | minAboveMax (min max : Nat)
  | noStatements
  deriving DecidableEq, Repr

/-- The wording of a fault. -/
def PoolFault.message : PoolFault → String
  | .noConnections => "max_connections must be greater than 0"
  | .minAboveMax min max =>
    "min_connections (" ++ natText min ++ ") cannot exceed max_connections (" ++ natText max ++ ")"
  | .noStatements => "statement_cache_capacity must be greater than 0"

namespace PoolOptions

/-- The largest number of connections. -/
def effectiveMax (o : PoolOptions) (b : Backend) : Nat :=
  if b = .sqlite then 1 else o.maxConnections.getD 10

/-- The number of connections that are kept open. -/
def effectiveMin (o : PoolOptions) : Nat :=
  o.minConnections.getD 0

def effectiveIdleTimeout (o : PoolOptions) : Nat :=
  o.idleTimeout.getD 600

def effectiveAcquireTimeout (o : PoolOptions) : Nat :=
  o.acquireTimeout.getD 30

def effectiveTest (o : PoolOptions) : Bool :=
  o.testBeforeAcquire.getD true

def effectiveCacheCapacity (o : PoolOptions) : Nat :=
  o.statementCacheCapacity.getD 100

/-- The first fault of the options that are set. -/
def fault? (o : PoolOptions) : Option PoolFault :=
  let connections : Option PoolFault :=
    match o.maxConnections, o.minConnections with
    | some 0, _ => some .noConnections
    | some max, some min => if max < min then some (.minAboveMax min max) else none
    | _, _ => none
  connections.or (if o.statementCacheCapacity = some 0 then some .noStatements else none)

/-- Refuses options with a fault. -/
def validate (o : PoolOptions) : Except DbError Unit :=
  match o.fault? with
  | some fault => .error (.connection fault.message "Fix the pool options")
  | none => .ok ()

/-- A number that may be left open. -/
def openNumber : Option Nat → Json
  | some n => .int n
  | none => .null

/-- All options, null where nothing is set. -/
def toJson (o : PoolOptions) : Json :=
  .object
    [("max_connections", openNumber o.maxConnections),
     ("min_connections", openNumber o.minConnections),
     ("idle_timeout_secs", openNumber o.idleTimeout),
     ("acquire_timeout_secs", openNumber o.acquireTimeout),
     ("test_before_acquire", (o.testBeforeAcquire.map Json.bool).getD .null),
     ("statement_cache_capacity", openNumber o.statementCacheCapacity)]

/-- How options are read. -/
def recordForm : RecordForm PoolOptions PoolOptions where
  name := "PoolOptions"
  fields :=
    [("max_connections", false), ("min_connections", false), ("idle_timeout_secs", false),
     ("acquire_timeout_secs", false), ("test_before_acquire", false),
     ("statement_cache_capacity", false)]
  start := {}
  put o key value :=
    match key with
    | "max_connections" => do
      return { o with maxConnections := ← Form.option (Form.nat 32 "u32") value }
    | "min_connections" => do
      return { o with minConnections := ← Form.option (Form.nat 32 "u32") value }
    | "idle_timeout_secs" => do
      return { o with idleTimeout := ← Form.option (Form.nat 64 "u64") value }
    | "acquire_timeout_secs" => do
      return { o with acquireTimeout := ← Form.option (Form.nat 64 "u64") value }
    | "test_before_acquire" => do
      return { o with testBeforeAcquire := ← Form.option Form.bool value }
    | _ => do
      return { o with statementCacheCapacity := ← Form.option (Form.nat 64 "usize") value }
  finish := .ok

def form : Form PoolOptions := recordForm.read false

end PoolOptions

end StoreBridge
