import StoreBridge.Request

/-!
# Operation chains

A query is a list of operations in call order. Payloads are kept as they were given; they are
checked when the chain is compiled.
-/

namespace StoreBridge

/-- One step of a query. -/
inductive Operation where
  /-- Conditions of equality, all of which must hold. -/
  | filter (conditions : Json)
  /-- Reads the listed columns, or all of them. -/
  | select (columns : Option (List String))
  /-- Inserts one row or a list of rows. -/
  | insert (data : Json)
  | update (data : Json)
  | delete
  | limit (n : Nat)
  | orderBy (field : String) (direction : Direction)
  | aggregate (stages : Json)
  deriving DecidableEq, Repr, Inhabited

/-- The name of the step. -/
def Operation.name : Operation → String
  | .filter _ => "where"
  | .select _ => "select"
  | .insert _ => "insert"
  | .update _ => "update"
  | .delete => "delete"
  | .limit _ => "limit"
  | .orderBy _ _ => "orderBy"
  | .aggregate _ => "aggregate"

/-- The members of a payload that has to be an object. -/
def objectPayload (operation : String) : Json → Except DbError Members
  | .object members => .ok members
  | other => .error (.invalidQuery (.badPayload operation "an object" other.kindName))

/-- The rows of an insert: one object, or an array of objects. -/
def insertRows : Json → Except DbError (List Members)
  | .array items => items.mapM (objectPayload "insert")
  | other => (objectPayload "insert" other).map ([·])

end StoreBridge
