import StoreBridge.Column.Category
import StoreBridge.Column.Value
import StoreBridge.Request
import StoreBridge.Sqlite.Affinity

/-!
# Types of result columns

The driver names the type of a result column after the declared type of the table column it comes
from. A column without such a type is untyped. The category of that name decides how a value is
decoded: in a column of numbers, truth values or bytes only values of that kind are shown, and in
every other column the kind is guessed, by reading the value as a text, as an integer and as a
double in turn.
-/

namespace StoreBridge

/-- The type of a result column. -/
inductive ColumnType where
  | untyped
  | integer
  | real
  | text
  | blob
  | boolean
  | date
  | time
  | datetime
  deriving DecidableEq, Repr, Inhabited

namespace ColumnType

/-- The type that a declared type stands for. -/
def ofDeclared (declared : String) : ColumnType :=
  let cs := lower declared.toList
  let has (word : String) : Bool := occursIn word.toList cs
  -- Some names are known as a whole; any other one is judged by the words in it.
  if cs = "int4".toList then .integer
  else if cs = "int8".toList then .integer
  else if cs = "boolean".toList ∨ cs = "bool".toList then .boolean
  else if cs = "date".toList then .date
  else if cs = "time".toList then .time
  else if cs = "datetime".toList ∨ cs = "timestamp".toList then .datetime
  else if has "int" then .integer
  else if has "char" || has "clob" || has "text" then .text
  else if has "blob" then .blob
  else if has "real" || has "floa" || has "doub" then .real
  else .untyped

/-- The name under which the driver reports the type. -/
def name : ColumnType → String
  | .untyped => "NULL"
  | .integer => "INTEGER"
  | .real => "REAL"
  | .text => "TEXT"
  | .blob => "BLOB"
  | .boolean => "BOOLEAN"
  | .date => "DATE"
  | .time => "TIME"
  | .datetime => "DATETIME"

end ColumnType

namespace Datum

/-- The text that is stored, if it is one. -/
def text? : Datum → Option String
  | .text s => some s
  | _ => none

/-- The integer that is stored, if it is one. -/
def int? : Datum → Option Int
  | .int i => some i
  | _ => none

/-- The double that is stored, if it is one. -/
def real? : Datum → Option Binary64
  | .real x => some x
  | _ => none

/-- The bytes that are stored; a text counts as its bytes. -/
def bytes? : Datum → Option Bytes
  | .blob bs => some bs
  | .text s => some (Bytes.ofText s)
  | _ => none

/-- The value read as an integer, of whatever kind it is. -/
def anyInt? : Datum → Option Int
  | .null => none
  | d => some d.toInt

/-- The value read as a double, of whatever kind it is. -/
def anyReal? : Datum → Option Binary64
  | .null => none
  | d => some d.toReal

/-- A value whose kind the type of its column does not tell. -/
def decodeGuessing (typeName : String) (d : Datum) : Option Json :=
  (d.text?.map (Column.ofText typeName)).or
    ((d.anyInt?.map Json.int).or (d.anyReal?.map Column.ofFloat))

/-- A value in a column of a category. -/
def decodeAs (typeName : String) (d : Datum) : Category → Option Json
  | .integer => d.int?.map Json.int
  | .boolean => d.int?.map fun i => Json.bool (i != 0)
  | .float | .decimal => d.real?.map Column.ofFloat
  | .binary => d.bytes?.map Column.ofBytes
  | _ => d.decodeGuessing typeName

/-- The JSON value for a stored value in a column whose type has a name. A value of another kind
than the column's is shown as null. -/
def decode (typeName : String) (d : Datum) : Json :=
  if d = .null then .null
  else (d.decodeAs typeName (Category.ofTypeName .sqlite typeName)).getD .null

end Datum

/-- A column of a result, as the driver reports it. -/
structure ReportedColumn where
  name : String
  typeName : String
  deriving DecidableEq, Repr

/-- The row of a result as an object; of columns with one name the last value counts. -/
def collectRow (columns : List ReportedColumn) (row : List Datum) : Row :=
  Members.ofPairs ((columns.zip row).map fun (c, d) => (c.name, d.decode c.typeName))

end StoreBridge
