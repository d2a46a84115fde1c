import StoreBridge.Bson.ExtendedJson
import StoreBridge.Request

/-!
# Documents for MongoDB

Rows and filters become documents on the way in, and documents become rows of relaxed extended JSON
on the way out. Changes without an operator are wrapped, so that they set fields.
-/

namespace StoreBridge

namespace Document

/-- Writes a member: in place if the key is present, at the end otherwise. -/
def set : Document → String → Bson → Document
  | [], key, value => [(key, value)]
  | (k, v) :: rest, key, value =>
    if k = key then (k, value) :: rest else (k, v) :: set rest key value

/-- The document that an object stands for. -/
def ofMembers (ms : Members) : Except DbError Document :=
  match Bson.ofJson (.object ms) with
  | .ok (.document d) => .ok d
  | .ok other => .error (.invalidQuery (.notDocument other.typeName))
  | .error fault => .error (.invalidQuery (.badDocument fault.message))

/-- The row that a document becomes. -/
def toRow (d : Document) : Row :=
  Bson.relaxedMembers d

/-- A key that names an operator. -/
def isOperator (key : String) : Bool :=
  key.toList.head? == some '$'

/-- The changes of an update. Without any operator, the changes set fields. -/
def changes (d : Document) : Document :=
  if d.any fun (key, _) => isOperator key then d else [("$set", .document d)]

/-- A projection on the listed fields. -/
def projection (fields : List String) : Document :=
  fields.foldl (fun d field => set d field (.int32 1)) []

/-- A sort by the listed fields; a field that is repeated keeps its place and takes the last
direction. -/
def sort (terms : List (String × Direction)) : Document :=
  terms.foldl (fun d (field, direction) => set d field (.int32 direction.order)) []

end Document

end StoreBridge
