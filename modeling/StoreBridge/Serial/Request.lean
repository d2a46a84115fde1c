import StoreBridge.Request
import StoreBridge.Serial.Form

/-!
# Requests and outputs as JSON

How requests and outputs are written as JSON and read back. Lists that are empty and fields that are
not set are left out where reading supplies them. An output carries no tag: a list of objects is the
rows of a read, anything else an acknowledgement.
-/

namespace StoreBridge

namespace Backend

/-- Reads a backend by its tag. -/
def form : Form Backend := Form.variant false all tag

end Backend

namespace FieldType

/-- Reads a field type by its tag; `nested` inside a tagged request. -/
def form (nested : Bool) : Form FieldType := Form.variant nested all tag

end FieldType

namespace Direction

/-- Reads a direction by its tag; `nested` inside a tagged request. -/
def form (nested : Bool) : Form Direction := Form.variant nested all tag

end Direction

/-- A member that is left out when there is no value. -/
def optionalMember (key : String) : Option Json → Members
  | some value => [(key, value)]
  | none => []

/-- A member that is left out when the list is empty. -/
def listMember (key : String) : List Json → Members
  | [] => []
  | items => [(key, .array items)]

namespace SqlRequest

/-- The type of a value, or null. -/
def typeJson : Option FieldType → Json
  | some t => .string t.tag
  | none => .null

/-- The members of a request. -/
def toMembers (r : SqlRequest) : Members :=
  [("text", .string r.text), ("params", .array r.params)] ++
    listMember "param_types" (r.paramTypes.map typeJson)

def toJson (r : SqlRequest) : Json := .object r.toMembers

/-- What has been read of a request. -/
structure Partial where
  text : Option String := none
  params : Option (List Json) := none
  paramTypes : Option (List (Option FieldType)) := none

/-- How a request is read. -/
def recordForm (nested : Bool) : RecordForm Partial SqlRequest where
  name := "SqlRequest"
  fields := [("text", false), ("params", true), ("param_types", true)]
  start := {}
  put draft key value :=
    match key with
    | "text" => do return { draft with text := some (← Form.string value) }
    | "params" => do return { draft with params := some (← Form.list Form.any value) }
    | _ => do
      let types ← Form.list (Form.option (FieldType.form nested)) value
      return { draft with paramTypes := some types }
  finish draft := do
    let text ← requireField "text" draft.text
    return ⟨text, draft.params.getD [], draft.paramTypes.getD []⟩

def form (nested : Bool) : Form SqlRequest := (recordForm nested).read nested

end SqlRequest

namespace DocumentUpdate

def toJson (u : DocumentUpdate) : Json :=
  .object [("filter", .object u.filter), ("update", .object u.changes)]

/-- What has been read of an update. -/
structure Partial where
  filter : Option Members := none
  changes : Option Members := none

/-- How an update is read. -/
def recordForm : RecordForm Partial DocumentUpdate where
  name := "DocumentUpdate"
  fields := [("filter", false), ("update", false)]
  start := {}
  put draft key value :=
    match key with
    | "filter" => do return { draft with filter := some (← Form.members value) }
    | _ => do return { draft with changes := some (← Form.members value) }
  finish draft := do
    let filter ← requireField "filter" draft.filter
    let changes ← requireField "update" draft.changes
    return ⟨filter, changes⟩

def form (nested : Bool) : Form DocumentUpdate := recordForm.read nested

end DocumentUpdate

namespace DocumentOperation

/-- A term of a sort. -/
def sortTerm (term : String × Direction) : Json :=
  .array [.string term.1, .string term.2.tag]

/-- The members of an operation. -/
def toMembers (op : DocumentOperation) : Members :=
  optionalMember "find" (op.find.map .object) ++
    optionalMember "insert" (op.insert.map fun rows => .array (rows.map .object)) ++
    optionalMember "update" (op.update.map DocumentUpdate.toJson) ++
    optionalMember "delete" (op.delete.map .object) ++
    optionalMember "aggregate" (op.aggregate.map .array) ++
    optionalMember "projection" (op.projection.map fun names => .array (names.map .string)) ++
    listMember "sort" (op.sort.map sortTerm) ++
    optionalMember "limit" (op.limit.map fun n => .int n)

def toJson (op : DocumentOperation) : Json := .object op.toMembers

/-- How an operation is read. -/
def recordForm (nested : Bool) : RecordForm DocumentOperation DocumentOperation where
  name := "DocumentOperation"
  fields :=
    [("find", false), ("insert", false), ("update", false), ("delete", false),
     ("aggregate", false), ("projection", false), ("sort", true), ("limit", false)]
  start := .empty
  put op key value :=
    match key with
    | "find" => do return { op with find := ← Form.option Form.members value }
    | "insert" => do return { op with insert := ← Form.option (Form.list Form.members) value }
    | "update" => do
      return { op with update := ← Form.option (DocumentUpdate.form nested) value }
    | "delete" => do return { op with delete := ← Form.option Form.members value }
    | "aggregate" => do return { op with aggregate := ← Form.option (Form.list Form.any) value }
    | "projection" => do
      return { op with projection := ← Form.option (Form.list Form.string) value }
    | "sort" => do
      let terms ← Form.list (Form.pair nested Form.string (Direction.form nested)) value
      return { op with sort := terms }
    | _ => do return { op with limit := ← Form.option (Form.nat 64 "u64") value }
  finish := .ok

def form (nested : Bool) : Form DocumentOperation := (recordForm nested).read nested

end DocumentOperation

namespace DocumentRequest

/-- The members of a request. -/
def toMembers (r : DocumentRequest) : Members :=
  [("collection", .string r.collection), ("operation", r.operation.toJson)]

def toJson (r : DocumentRequest) : Json := .object r.toMembers

/-- What has been read of a request. -/
structure Partial where
  collection : Option String := none
  operation : Option DocumentOperation := none

/-- How a request is read. -/
def recordForm (nested : Bool) : RecordForm Partial DocumentRequest where
  name := "DocumentRequest"
  fields := [("collection", false), ("operation", false)]
  start := {}
  put draft key value :=
    match key with
    | "collection" => do return { draft with collection := some (← Form.string value) }
    | _ => do return { draft with operation := some (← DocumentOperation.form nested value) }
  finish draft := do
    let collection ← requireField "collection" draft.collection
    let operation ← requireField "operation" draft.operation
    return ⟨collection, operation⟩

def form (nested : Bool) : Form DocumentRequest := (recordForm nested).read nested

end DocumentRequest

namespace Request

/-- The kinds of request. -/
inductive Kind where
  | sql
  | document
  deriving DecidableEq, Repr

def Kind.all : List Kind := [.sql, .document]

/-- The spelling used inside data. -/
def Kind.tag : Kind → String
  | .sql => "sql"
  | .document => "document"

/-- A request with its kind in front. -/
def toJson : Request → Json
  | .sql r => .object (("kind", .string Kind.sql.tag) :: r.toMembers)
  | .document r => .object (("kind", .string Kind.document.tag) :: r.toMembers)

/-- Reads the kind of a request. -/
def kindForm : Form Kind
  | .string s => Form.variantNamed Kind.all Kind.tag s
  | other => .error (.wrongType other "variant identifier")

/-- Reads a request of a known kind. -/
def formOfKind : Kind → Form Request
  | .sql => fun value => (SqlRequest.form true value).map .sql
  | .document => fun value => (DocumentRequest.form true value).map .document

/-- Reads a request: its kind is the member `kind` of an object, or the first item of an array. -/
def form : Form Request
  | .object ms => do
    let kind ← kindForm (← requireField "kind" (Members.get? ms "kind"))
    formOfKind kind (.object (Members.without ms "kind"))
  | .array [] => .error (.missingField "kind")
  | .array (first :: rest) => do
    let kind ← kindForm first
    formOfKind kind (.array rest)
  | other => .error (.wrongType other "internally tagged enum CompiledRequest")

end Request

namespace WriteAck

def toJson (a : WriteAck) : Json :=
  .object (("rows_affected", .int a.rowsAffected) :: listMember "inserted_ids" a.insertedIds)

/-- What has been read of an acknowledgement. -/
structure Partial where
  rowsAffected : Option Nat := none
  insertedIds : Option (List Json) := none

/-- How an acknowledgement is read. -/
def recordForm : RecordForm Partial WriteAck where
  name := "WriteAck"
  fields := [("rows_affected", false), ("inserted_ids", true)]
  start := {}
  put draft key value :=
    match key with
    | "rows_affected" => do return { draft with rowsAffected := some (← Form.nat 64 "u64" value) }
    | _ => do return { draft with insertedIds := some (← Form.list Form.any value) }
  finish draft := do
    let rows ← requireField "rows_affected" draft.rowsAffected
    return ⟨rows, draft.insertedIds.getD []⟩

def form (nested : Bool) : Form WriteAck := recordForm.read nested

end WriteAck

namespace Output

/-- Rows are a list of objects, an acknowledgement is an object. -/
def toJson : Output → Json
  | .rows rs => .array (rs.map .object)
  | .ack a => a.toJson

/-- Reads rows if the value is a list of objects, and an acknowledgement otherwise. -/
def form : Form Output := fun value =>
  match Form.list Form.members value with
  | .ok rs => .ok (.rows rs)
  | .error _ =>
    match WriteAck.form true value with
    | .ok a => .ok (.ack a)
    | .error _ => .error (.noVariant "QueryOutput")

end Output

end StoreBridge
