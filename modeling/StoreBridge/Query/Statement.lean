import StoreBridge.Query.Operation

/-!
# SQL statements

`Statement` is a compiled statement before it is text: what is done to which table, with which
columns. `Statement.write` is its text, with a placeholder for every value. A `Plan` is a statement
together with its bindings, one `(column, value)` for each placeholder in the order of the text.
-/

namespace StoreBridge

/-- The parts that follow the head of a statement: the columns of the conditions, the terms of the
order, and the limit. -/
structure Clauses where
  conditions : List String
  order : List (String × Direction)
  limit : Option Nat
  deriving DecidableEq, Repr, Inhabited

/-- A statement on one table. An insert has a number of rows and no further clauses. -/
inductive Statement where
  | select (table : String) (columns : List String) (clauses : Clauses)
  | insert (table : String) (columns : List String) (rows : Nat)
  | update (table : String) (columns : List String) (clauses : Clauses)
  | delete (table : String) (clauses : Clauses)
  deriving DecidableEq, Repr, Inhabited

/-- Texts with commas between them. -/
def commaList (items : List (List Char)) : List Char :=
  joinWith [',', ' '] items

/-- A column that must equal the value of a placeholder, or takes it. -/
def equation (column : String) : List Char :=
  column.toList ++ " = ?".toList

namespace Clauses

/-- The conditions, if there are any. -/
def writeConditions : List String → List Char
  | [] => []
  | columns => " WHERE ".toList ++ joinWith " AND ".toList (columns.map equation)

/-- The terms of the order, if there are any. -/
def writeOrder : List (String × Direction) → List Char
  | [] => []
  | terms => " ORDER BY ".toList ++
    commaList (terms.map fun (field, d) => field.toList ++ ' ' :: d.keyword.toList)

/-- The limit, if there is one. -/
def writeLimit : Option Nat → List Char
  | none => []
  | some n => " LIMIT ".toList ++ natDigits n

/-- The text of the clauses, each with a blank in front. -/
def write (c : Clauses) : List Char :=
  writeConditions c.conditions ++ writeOrder c.order ++ writeLimit c.limit

end Clauses

namespace Statement

/-- A group of placeholders in parentheses. -/
def slots (n : Nat) : List Char :=
  '(' :: commaList (List.replicate n ['?']) ++ [')']

/-- The text of a statement. -/
def write : Statement → List Char
  | .select table columns clauses =>
    "SELECT ".toList ++ commaList (columns.map String.toList) ++ " FROM ".toList ++
      table.toList ++ clauses.write
  | .insert table columns rows =>
    "INSERT INTO ".toList ++ table.toList ++ " (".toList ++
      commaList (columns.map String.toList) ++ ") VALUES ".toList ++
      commaList (List.replicate rows (slots columns.length))
  | .update table columns clauses =>
    "UPDATE ".toList ++ table.toList ++ " SET ".toList ++ commaList (columns.map equation) ++
      clauses.write
  | .delete table clauses => "DELETE FROM ".toList ++ table.toList ++ clauses.write

end Statement

/-- A statement and the values of its placeholders, each with its column. -/
structure Plan where
  statement : Statement
  bindings : List (String × Json)
  deriving DecidableEq, Repr, Inhabited

/-- The request of a plan: each value carries the type the schema declares for its column. -/
def Plan.request (s : Schema) (p : Plan) : SqlRequest where
  text := String.ofList p.statement.write
  params := p.bindings.map Prod.snd
  paramTypes := p.bindings.map fun (column, _) => s.fieldType? column

end StoreBridge
