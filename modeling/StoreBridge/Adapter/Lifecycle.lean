import StoreBridge.Request

/-!
# Open and closed adapters

An adapter is open until it is closed for the first time, and it stays closed. What an adapter of a
kind accepts is decided here as well: SQL or documents.
-/

namespace StoreBridge

/-- Whether an adapter is still open. -/
structure Lifecycle where
  backend : Backend
  closed : Bool := false
  deriving DecidableEq, Repr

namespace Lifecycle

/-- Refuses a closed adapter. -/
def ensureOpen (l : Lifecycle) : Except DbError Unit :=
  if l.closed then .error (DbError.disconnected l.backend) else .ok ()

/-- Closes the adapter; the answer says whether it was open. -/
def close (l : Lifecycle) : Bool × Lifecycle :=
  (!l.closed, { l with closed := true })

end Lifecycle

namespace Request

/-- The SQL of a request, for a store that takes nothing else. -/
def expectSql (b : Backend) : Request → Except DbError SqlRequest
  | .sql r => .ok r
  | .document _ => .error (DbError.sqlOnly b)

/-- The document operation of a request, for a store that takes nothing else. -/
def expectDocument (b : Backend) : Request → Except DbError DocumentRequest
  | .document r => .ok r
  | .sql _ => .error (DbError.documentsOnly b)

end Request

end StoreBridge
