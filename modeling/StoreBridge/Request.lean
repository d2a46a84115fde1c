import StoreBridge.Schema
import StoreBridge.Sql.Placeholder

/-!
# Requests and outputs

What a query compiles to, and what an adapter answers. A SQL request is a text with placeholders,
the values for them, and the declared type behind each value where one is known; the list of types
may be shorter than the list of values.
-/

namespace StoreBridge

/-- A row or document in the order of its columns or fields. -/
abbrev Row := Members

/-- The direction of a sort. -/
inductive Direction where
  | asc
  | desc
  deriving DecidableEq, Repr, Inhabited

namespace Direction

def all : List Direction := [.asc, .desc]

/-- The spelling used inside data. -/
def tag : Direction → String
  | .asc => "asc"
  | .desc => "desc"

/-- The SQL keyword. -/
def keyword : Direction → String
  | .asc => "ASC"
  | .desc => "DESC"

/-- The number that stands for the direction in a sort document. -/
def order : Direction → Int
  | .asc => 1
  | .desc => -1

end Direction

/-- SQL text with the values of its placeholders. -/
structure SqlRequest where
  text : String
  params : List Json
  paramTypes : List (Option FieldType)
  deriving DecidableEq, Repr, Inhabited

namespace SqlRequest

/-- A statement without values. -/
def ofText (text : String) : SqlRequest :=
  ⟨text, [], []⟩

/-- Adds a value of unknown type. -/
def withParam (r : SqlRequest) (value : Json) : SqlRequest :=
  { r with params := r.params ++ [value] }

/-- Adds a value and its type. The list of types is first cut or filled up to the number of values,
so that the new type stands where the new value stands. -/
def pushParam (r : SqlRequest) (value : Json) (type : Option FieldType) : SqlRequest :=
  let n := r.params.length
  let types := r.paramTypes.take n
  { r with
    params := r.params ++ [value]
    paramTypes := types ++ List.replicate (n - types.length) none ++ [type] }

/-- Adds a value of known type. -/
def withTypedParam (r : SqlRequest) (value : Json) (type : FieldType) : SqlRequest :=
  r.pushParam value (some type)

/-- The type of the value at a position, if it is known. -/
def paramType (r : SqlRequest) (i : Nat) : Option FieldType :=
  r.paramTypes[i]?.join

/-- The number of placeholders in the text. -/
def placeholderCount (r : SqlRequest) : Nat :=
  Placeholder.count r.text

end SqlRequest

/-- A filter and the changes to the documents that satisfy it. -/
structure DocumentUpdate where
  filter : Members
  changes : Members
  deriving DecidableEq, Repr, Inhabited

/-- What to do with a collection. Several actions may be set; an adapter runs one of them
(`action?`). Projection, sort and limit apply to `find`. -/
structure DocumentOperation where
  find : Option Members
  insert : Option (List Members)
  update : Option DocumentUpdate
  delete : Option Members
  aggregate : Option (List Json)
  projection : Option (List String)
  sort : List (String × Direction)
  limit : Option Nat
  deriving DecidableEq, Repr, Inhabited

/-- The kinds of action. -/
inductive Action where
  | find
  | insert
  | update
  | delete
  | aggregate
  deriving DecidableEq, Repr

/-- The name of an action. -/
def Action.name : Action → String
  | .find => "find"
  | .insert => "insert"
  | .update => "update"
  | .delete => "delete"
  | .aggregate => "aggregate"

namespace DocumentOperation

/-- An operation in which nothing is set. -/
def empty : DocumentOperation :=
  ⟨none, none, none, none, none, none, [], none⟩

/-- The action that runs: the first that is set of find, insert, update, delete, aggregate. -/
def action? (op : DocumentOperation) : Option Action :=
  if op.find.isSome then some .find
  else if op.insert.isSome then some .insert
  else if op.update.isSome then some .update
  else if op.delete.isSome then some .delete
  else if op.aggregate.isSome then some .aggregate
  else none

/-- Whether no action is set. -/
def isEmpty (op : DocumentOperation) : Bool :=
  op.find.isNone && op.insert.isNone && op.update.isNone && op.delete.isNone &&
    op.aggregate.isNone

/-- An operation is empty exactly if it has no action. -/
theorem isEmpty_iff_action?_eq_none (op : DocumentOperation) :
    op.isEmpty = true ↔ op.action? = none := by
  obtain ⟨find, insert, update, delete, aggregate, _, _, _⟩ := op
  cases find <;> cases insert <;> cases update <;> cases delete <;> cases aggregate <;>
    simp [isEmpty, action?]

end DocumentOperation

/-- An operation on one collection. -/
structure DocumentRequest where
  collection : String
  operation : DocumentOperation
  deriving DecidableEq, Repr, Inhabited

/-- A request an adapter can run. -/
inductive Request where
  | sql (r : SqlRequest)
  | document (r : DocumentRequest)
  deriving DecidableEq, Repr, Inhabited

/-- The answer to a write: how many rows it touched, and the keys it generated. -/
structure WriteAck where
  rowsAffected : Nat
  insertedIds : List Json
  deriving DecidableEq, Repr, Inhabited

/-- A write that generated no keys. -/
def WriteAck.ofCount (n : Nat) : WriteAck := ⟨n, []⟩

/-- Adds a generated key. -/
def WriteAck.withId (a : WriteAck) (id : Json) : WriteAck :=
  { a with insertedIds := a.insertedIds ++ [id] }

/-- The answer to a request: the rows of a read, or the acknowledgement of a write. -/
inductive Output where
  | rows (rows : List Row)
  | ack (ack : WriteAck)
  deriving DecidableEq, Repr, Inhabited

namespace Output

/-- The rows of a read. -/
def rows? : Output → Option (List Row)
  | .rows rs => some rs
  | .ack _ => none

/-- The acknowledgement of a write. -/
def ack? : Output → Option WriteAck
  | .rows _ => none
  | .ack a => some a

/-- The rows, none for a write. -/
def intoRows : Output → List Row
  | .rows rs => rs
  | .ack _ => []

/-- The number of rows read or touched. -/
def rowCount : Output → Nat
  | .rows rs => rs.length
  | .ack a => a.rowsAffected

end Output

end StoreBridge
