import StoreBridge.Failure
import StoreBridge.Text.Blank

/-!
# Schemas

A schema names a table or a collection and declares its fields in order. `Schema.declare` accepts
exactly the declarations with a name that is not blank and with field names that are neither empty
nor repeated, and reports the first offence otherwise.
-/

namespace StoreBridge

/-- The declared type of a field. -/
inductive FieldType where
  | string
  | number
  | boolean
  | date
  | object
  | array
  deriving DecidableEq, Repr, Inhabited

namespace FieldType

def all : List FieldType := [.string, .number, .boolean, .date, .object, .array]

/-- The spelling used inside data. -/
def tag : FieldType → String
  | .string => "string"
  | .number => "number"
  | .boolean => "boolean"
  | .date => "date"
  | .object => "object"
  | .array => "array"

/-- Whether a value fits the type. Null fits every type, and a date is a text or a number. -/
def accepts : FieldType → Json → Bool
  | _, .null => true
  | .string, .string _ => true
  | .number, .int _ => true
  | .number, .double _ => true
  | .boolean, .bool _ => true
  | .date, .string _ => true
  | .date, .int _ => true
  | .date, .double _ => true
  | .object, .object _ => true
  | .array, .array _ => true
  | _, _ => false

end FieldType

/-- The declaration of one field. -/
structure Field where
  type : FieldType
  primary : Bool
  nullable : Bool
  default : Option Json
  deriving DecidableEq, Repr, Inhabited

/-- Whether a schema describes a table or a collection of documents. -/
inductive SchemaKind where
  | tabular
  | document
  deriving DecidableEq, Repr, Inhabited

/-- The spelling used inside data. -/
def SchemaKind.tag : SchemaKind → String
  | .tabular => "tabular"
  | .document => "document"

/-- A table or collection with its fields in declaration order. -/
structure Schema where
  name : String
  kind : SchemaKind
  fields : List (String × Field)
  deriving DecidableEq, Repr, Inhabited

/-- What can be wrong with a declaration. -/
inductive SchemaFault where
  | blankName
  | emptyField
  | duplicateField (name : String)
  deriving DecidableEq, Repr

/-- The wording of a fault. -/
def SchemaFault.message : SchemaFault → String
  | .blankName => "Schema name cannot be empty"
  | .emptyField => "Field name cannot be empty"
  | .duplicateField name => "Duplicate field '" ++ name ++ "'"

namespace Schema

/-- The first field, in order, that is empty or repeats one of those before it; `seen` are the
names before the list. -/
def firstFieldFault (seen : List String) : List (String × Field) → Option SchemaFault
  | [] => none
  | (name, _) :: rest =>
    if name = "" then some .emptyField
    else if name ∈ seen then some (.duplicateField name)
    else firstFieldFault (name :: seen) rest

/-- The first fault of a declaration: the name is looked at first, then the fields in order. -/
def firstFault (name : String) (fields : List (String × Field)) : Option SchemaFault :=
  if (trim name.toList).isEmpty then some .blankName else firstFieldFault [] fields

/-- A schema of the given kind, unless the declaration has a fault. -/
def declare (kind : SchemaKind) (name : String) (fields : List (String × Field)) :
    Except DbError Schema :=
  match firstFault name fields with
  | some fault => .error (.schema fault.message name)
  | none => .ok ⟨name, kind, fields⟩

/-- The declaration of a field. -/
def field? (s : Schema) (name : String) : Option Field :=
  (s.fields.find? fun (n, _) => n == name).map Prod.snd

/-- The declared type of a field. -/
def fieldType? (s : Schema) (name : String) : Option FieldType :=
  (s.field? name).map Field.type

/-- The first field marked as identity, in declaration order. -/
def primaryKey? (s : Schema) : Option String :=
  (s.fields.find? fun (_, f) => f.primary).map Prod.fst

def isTabular (s : Schema) : Bool :=
  s.kind == .tabular

def isDocument (s : Schema) : Bool :=
  s.kind == .document

end Schema

end StoreBridge
