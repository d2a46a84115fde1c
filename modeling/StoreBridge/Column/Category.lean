import StoreBridge.Backend

/-!
# Column categories

How a column is decoded is decided by the name of its type, in any letter case and in the spelling
of any store. The rules are tried in order, so `bigint` is an integer although it contains nothing
but `int`, and `interval` and `point` count as integers as well.
-/

namespace StoreBridge

/-- What a column holds, as far as decoding is concerned. -/
inductive Category where
  | integer
  | float
  | decimal
  | boolean
  | text
  | binary
  | json
  | uuid
  | unknown
  deriving DecidableEq, Repr

namespace Category

/-- The name of a category. -/
def name : Category → String
  | .integer => "Integer"
  | .float => "Float"
  | .decimal => "Decimal"
  | .boolean => "Boolean"
  | .text => "Text"
  | .binary => "Binary"
  | .json => "Json"
  | .uuid => "Uuid"
  | .unknown => "Unknown"

/-- The category of a type name. SQLite stores the values of a column declared numeric as
floats. -/
def ofTypeName (backend : Backend) (typeName : String) : Category :=
  let cs := lower typeName.toList
  let has (word : String) : Bool := occursIn word.toList cs
  let begins (word : String) : Bool := word.toList.isPrefixOf cs
  let is (word : String) : Bool := cs == word.toList
  -- The order matters: many type names hold more than one of the words.
  if backend == .sqlite && is "numeric" then .float
  else if has "decimal" || has "numeric" || begins "number" then .decimal
  else if has "int" || has "serial" || has "tiny" then .integer
  else if is "bool" || is "boolean" then .boolean
  else if is "real" || is "float4" || is "float8" then .float
  else if has "float" || has "double" then .float
  else if is "json" || is "jsonb" then .json
  else if is "uuid" then .uuid
  else if is "bytea" || is "long raw" then .binary
  else if has "blob" || has "binary" || begins "raw" then .binary
  else if has "char" || has "text" || has "clob" then .text
  else .unknown

end Category

end StoreBridge
