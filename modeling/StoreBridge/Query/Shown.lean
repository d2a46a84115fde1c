import StoreBridge.Query.Operation
import StoreBridge.Text.Quoted

/-!
# Queries for debugging

The text that shows a query with everything in it: its backend, its schema's name and its
operations, with values spelled out by kind.
-/

namespace StoreBridge

/-- A list of shown items between brackets. -/
def shownList (items : List String) : String :=
  "[" ++ ", ".intercalate items ++ "]"

/-- A record with named parts. -/
def shownRecord (name : String) (parts : List (String × String)) : String :=
  name ++ " \x7b " ++ ", ".intercalate (parts.map fun (key, value) => key ++ ": " ++ value) ++
    " \x7d"

/-- A truth value. -/
def shownBool (b : Bool) : String :=
  if b then "true" else "false"

namespace Json

mutual

/-- A value with its kind. -/
def shown : Json → String
  | .null => "Null"
  | .bool b => "Bool(" ++ shownBool b ++ ")"
  | .int i => "Number(" ++ intText i ++ ")"
  | .double x => "Number(" ++ String.ofList x.jsonDigits ++ ")"
  | .string s => "String(" ++ quoted s ++ ")"
  | .array items => "Array " ++ shownList (shownItems items)
  | .object members => "Object \x7b" ++ ", ".intercalate (shownMembers members) ++ "\x7d"

/-- The items of an array. -/
def shownItems : List Json → List String
  | [] => []
  | item :: rest => shown item :: shownItems rest

/-- The members of an object. -/
def shownMembers : List (String × Json) → List String
  | [] => []
  | (key, value) :: rest => (quoted key ++ ": " ++ shown value) :: shownMembers rest

end

end Json

/-- The name of a direction. -/
def Direction.shown : Direction → String
  | .asc => "Asc"
  | .desc => "Desc"

/-- One step of a query. -/
def Operation.shown : Operation → String
  | .filter conditions => "Where(" ++ conditions.shown ++ ")"
  | .select none => "Select(None)"
  | .select (some columns) => "Select(Some(" ++ shownList (columns.map quoted) ++ "))"
  | .insert data => "Insert(" ++ data.shown ++ ")"
  | .update data => "Update(" ++ data.shown ++ ")"
  | .delete => "Delete"
  | .limit n => "Limit(" ++ natText n ++ ")"
  | .orderBy field direction => "OrderBy(" ++ quoted field ++ ", " ++ direction.shown ++ ")"
  | .aggregate stages => "Aggregate(" ++ stages.shown ++ ")"

/-- A query on a schema of a store. -/
def shownQuery (b : Backend) (schema : String) (ops : List Operation) : String :=
  shownRecord "Query" [("backend", b.debugName), ("schema", quoted schema),
    ("operations", shownList (ops.map Operation.shown))]

/-- What an adapter can do. -/
def Capabilities.shown (c : Capabilities) : String :=
  shownRecord "Capabilities" [("nested_transactions", shownBool c.nestedTransactions),
    ("sessions", shownBool c.sessions),
    ("prepared_statement_cache", shownBool c.preparedStatementCache)]

/-- A database with its backend and what it can do. -/
def shownDatabase (b : Backend) (c : Capabilities) : String :=
  shownRecord "Database" [("backend", b.debugName), ("capabilities", c.shown)]

end StoreBridge
