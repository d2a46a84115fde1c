import StoreBridge.Request
import StoreBridge.Sql.Classify
import StoreBridge.Sql.RowLimit

/-!
# Statement texts by store

A statement is compiled once, with question marks, and rendered for the store that runs it.
PostgreSQL gets numbered placeholders, and a text value whose declared type is not text gets a cast,
so that the server converts it. Oracle gets numbered placeholders and its own spelling of the limit.
-/

namespace StoreBridge

/-- The PostgreSQL type that text for a field of this type is cast to. -/
def FieldType.cast? : FieldType → Option String
  | .date => some "timestamptz"
  | .number => some "numeric"
  | .boolean => some "boolean"
  | .string => none
  | .object => none
  | .array => none

namespace SqlRequest

/-- The cast of a placeholder: only text values are cast. -/
def cast? (r : SqlRequest) (i : Nat) : Option String :=
  match r.params[i]? with
  | some (.string _) => (r.paramType i).bind FieldType.cast?
  | _ => none

/-- The text for PostgreSQL. -/
def postgresText (r : SqlRequest) : String :=
  Placeholder.renderCast r.cast? r.text

end SqlRequest

/-- The text of a statement for Oracle. -/
def oracleText (text : String) : String :=
  RowLimit.fetchFirst (Placeholder.render .colon text)

end StoreBridge
