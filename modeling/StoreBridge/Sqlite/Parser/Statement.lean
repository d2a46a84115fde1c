import StoreBridge.Sqlite.Parser.Query

/-!
# Reading statements

A text may hold several statements, each ended by a semicolon or by the end of the text. They are
read one by one, because a statement is run before the next one is looked at.
-/

namespace StoreBridge

namespace Sqlite

namespace Rule

/-- Reads what happens when a row breaks a constraint, behind the keyword `or`. -/
def conflictName : Rule Conflict := do
  if ← accept "abort" then return .abort
  if ← accept "rollback" then return .rollback
  if ← accept "fail" then return .fail
  if ← accept "ignore" then return .ignore
  expect "replace"
  return .replace

/-- Reads the choice between ways to handle a broken constraint, if it is made. -/
def orConflict : Rule Conflict := do
  if ← accept "or" then conflictName else return .abort

/-- Reads over what a constraint says about conflicts. -/
def onConflict : Rule Unit := do
  if (← sees "on") && (← seesSecond "conflict") then
    advance
    advance
    discard conflictName

/-- Reads over the actions of a reference to another table. -/
def referenceActions : Nat → Rule Unit
  | 0 => return ()
  | fuel + 1 => do
    if ← accept "on" then
      if !(← accept "delete") then expect "update"
      if ← accept "set" then
        if !(← accept "null") then expect "default"
      else if ← accept "no" then expect "action"
      else if !(← accept "cascade") then expect "restrict"
      referenceActions fuel
    else if ← accept "match" then
      discard name
      referenceActions fuel
    else return ()

/-- Reads over how long the check of a reference may wait. -/
def deferral : Rule Unit := do
  if (← sees "not") && (← seesSecond "deferrable") then advance
  if ← accept "deferrable" then
    if ← accept "initially" then
      if !(← accept "deferred") then expect "immediate"

/-- Reads over a reference to another table, behind the keyword. -/
def reference : Rule Unit := do
  discard tableName
  if ← seesSymbol "(" then discard (parenthesized name)
  referenceActions 8
  deferral

/-- Reads an expression in parentheses with its text. -/
def checked : Rule (Expr × String) := do
  expectSymbol "("
  let found ← written expression
  expectSymbol ")"
  return found

/-- Reads the default value of a column. -/
def defaultValue : Rule Expr := do
  if ← acceptSymbol "(" then
    let e ← expression
    expectSymbol ")"
    return e
  match ← peek? with
  | some t =>
    if t.isSymbol "-" ∨ t.isSymbol "+" ∨ (literal? t).isSome ∨ t.keyword? = some "null" then
      operand 8
    -- A bare word is a text, except for the two truth values.
    else if isName t then
      advance
      let word := (nameOf t).toList.map asciiLower
      if word = "true".toList then return .literal (.int 1)
      if word = "false".toList then return .literal (.int 0)
      return .literal (.text (nameOf t))
    else refuse
  | none => refuse

/-- Reads a constraint on a column, if there is one. -/
def columnConstraint? : Rule (Option ColumnConstraint) := do
  if ← accept "constraint" then discard name
  if ← accept "primary" then
    expect "key"
    let descending ← if ← accept "asc" then pure false else accept "desc"
    onConflict
    return some (.primaryKey descending (← accept "autoincrement"))
  -- The word begins two constraints, told apart by the word behind it.
  if (← sees "not") && !(← seesSecond "deferrable") then
    advance
    expect "null"
    onConflict
    return some .notNull
  if ← accept "null" then
    onConflict
    return some .other
  if ← accept "unique" then
    onConflict
    return some .unique
  if ← accept "check" then
    let (e, text) ← checked
    return some (.check e text)
  if ← accept "default" then return some (.default (← defaultValue))
  if ← accept "collate" then return some (.collate (← name))
  if ← accept "references" then
    reference
    return some .other
  if (← sees "not") || (← sees "deferrable") then
    deferral
    return some .other
  return none

/-- Reads the constraints on a column. -/
def columnConstraints : Nat → Rule (List ColumnConstraint)
  | 0 => return []
  | fuel + 1 => do
    match ← columnConstraint? with
    | some c => return c :: (← columnConstraints fuel)
    | none => return []

/-- Reads the declaration of a column. -/
def columnDeclaration : Rule ColumnDeclaration := do
  let given ← name
  let type ← typeName
  return ⟨given, type, ← columnConstraints (← get).tokens.length⟩

/-- Reads a column of a key with its collation and direction. -/
def keyColumn : Rule String := do
  let given ← name
  if ← accept "collate" then discard name
  discard termOrder
  return given

/-- Whether a constraint on a table begins here. -/
def seesTableConstraint : Rule Bool :=
  seesAny ["constraint", "primary", "unique", "check", "foreign"]

/-- Reads a constraint on a table. -/
def tableConstraint : Rule TableConstraint := do
  let given ← if ← accept "constraint" then some <$> name else pure none
  if ← accept "primary" then
    expect "key"
    expectSymbol "("
    let columns ← items keyColumn
    let autoincrement ← accept "autoincrement"
    expectSymbol ")"
    onConflict
    return .primaryKey columns autoincrement
  if ← accept "unique" then
    let columns ← parenthesized keyColumn
    onConflict
    return .unique columns
  if ← accept "check" then
    let (e, text) ← checked
    onConflict
    return .check e given text
  expect "foreign"
  expect "key"
  discard (parenthesized name)
  expect "references"
  reference
  return .other

/-- Reads the columns and then the constraints of a table. -/
def tableParts : Nat → Rule (List ColumnDeclaration × List TableConstraint)
  | 0 => refuse
  | fuel + 1 => do
    if ← seesTableConstraint then return ([], ← constraints (← get).tokens.length)
    let column ← columnDeclaration
    if ← acceptSymbol "," then
      let (columns, constraints) ← tableParts fuel
      return (column :: columns, constraints)
    return ([column], [])
where
  /-- Reads constraints; the commas between them may be left out. -/
  constraints : Nat → Rule (List TableConstraint)
    | 0 => return []
    | fuel + 1 => do
      let first ← tableConstraint
      let comma ← acceptSymbol ","
      if comma || (← seesTableConstraint) then return first :: (← constraints fuel)
      return [first]

/-- Reads `if not exists`, if it is there. -/
def ifNotExists : Rule Bool := do
  if ← accept "if" then
    expectAll ["not", "exists"]
    return true
  return false

/-- Reads `if exists`, if it is there. -/
def ifExists : Rule Bool := do
  if ← accept "if" then
    expect "exists"
    return true
  return false

/-- Reads what is created, behind the keyword. -/
def createStatement : Rule Statement := do
  if !(← accept "temp") then discard (accept "temporary")
  if ← accept "table" then
    let maybe ← ifNotExists
    let table ← tableName
    -- A table has its columns from a query, or they are declared.
    if ← accept "as" then return .createTableAs table maybe (← query)
    expectSymbol "("
    let (columns, constraints) ← tableParts (← get).tokens.length
    expectSymbol ")"
    return .createTable table maybe columns constraints
  let unique ← accept "unique"
  expect "index"
  let maybe ← ifNotExists
  let index ← tableName
  expect "on"
  let table ← name
  let columns ← parenthesized keyColumn
  return .createIndex index maybe unique table columns

/-- Reads what is dropped, behind the keyword. -/
def dropStatement : Rule Statement := do
  if ← accept "table" then
    let maybe ← ifExists
    return .dropTable (← tableName) maybe
  expect "index"
  let maybe ← ifExists
  return .dropIndex (← tableName) maybe

/-- Reads a change to a table, behind the keyword. -/
def alterStatement : Rule Statement := do
  expect "table"
  let table ← tableName
  if ← accept "rename" then
    if ← accept "to" then return .alterTable table (.renameTo (← name))
    discard (accept "column")
    let old ← name
    expect "to"
    return .alterTable table (.renameColumn old (← name))
  if ← accept "add" then
    discard (accept "column")
    return .alterTable table (.addColumn (← columnDeclaration))
  expect "drop"
  discard (accept "column")
  return .alterTable table (.dropColumn (← name))

/-- Reads the columns that a statement gives back, if it does. -/
def returning : Rule (List ResultColumn) := do
  if ← accept "returning" then items (resultColumn (← fuel)) else return []

/-- Reads assignments to columns. -/
def assignments : Rule (List (String × Expr)) :=
  items do
    let column ← name
    expectSymbol "="
    return (column, ← expression)

/-- Reads a filter, if there is one. -/
def filter? : Rule (Option Expr) := do
  if ← accept "where" then some <$> expression else return none

/-- Reads what is done instead of an insert that breaks a uniqueness constraint, if that is said. -/
def upsert? : Rule (Option Upsert) := do
  if !(← accept "on") then return none
  expect "conflict"
  let columns ← if ← seesSymbol "(" then parenthesized keyColumn else pure []
  if ← accept "where" then discard expression
  expect "do"
  if ← accept "nothing" then return some (.nothing columns)
  expectAll ["update", "set"]
  let changes ← assignments
  return some (.update columns changes (← filter?))

/-- Reads an insert behind its first keyword. -/
def insertStatement (named : List (String × List String × Select)) (conflict : Conflict) :
    Rule Statement := do
  expect "into"
  let table ← tableName
  if ← accept "as" then discard name
  let columns ← if ← seesSymbol "(" then parenthesized name else pure []
  -- A row of defaults has no values and takes no other clause.
  if (← sees "default") && (← seesSecond "values") then
    advance
    advance
    return .insert named conflict table columns .defaults none (← returning)
  let q ← query
  let upsert ← upsert?
  return .insert named conflict table columns (.query q) upsert (← returning)

/-- Reads an update behind its keyword. -/
def updateStatement (named : List (String × List String × Select)) : Rule Statement := do
  let conflict ← orConflict
  let table ← tableName
  if ← accept "as" then discard name
  expect "set"
  let changes ← assignments
  let filter ← filter?
  return .update named conflict table changes filter (← returning)

/-- Reads a delete behind its keyword. -/
def deleteStatement (named : List (String × List String × Select)) : Rule Statement := do
  expect "from"
  let table ← tableName
  if ← accept "as" then discard name
  let filter ← filter?
  return .delete named table filter (← returning)

/-- Reads a statement that may begin with named queries. -/
def dataStatement : Rule Statement := do
  let named ← namedQueries (← fuel)
  if ← accept "insert" then insertStatement named (← orConflict)
  else if ← accept "replace" then insertStatement named .replace
  else if ← accept "update" then updateStatement named
  else if ← accept "delete" then deleteStatement named
  else
    match ← query with
    | .mk inner first rest orderBy limit offset =>
      return .select (.mk (named ++ inner) first rest orderBy limit offset)

/-- Reads over the name behind a keyword that ends or begins a transaction. -/
def transactionName : Rule Unit := do
  if ← accept "transaction" then
    if (← peek?).any isName then advance

/-- Reads a statement about transactions, if there is one. -/
def transactionStatement? : Rule (Option Statement) := do
  if ← accept "begin" then
    if ← seesAny ["deferred", "immediate", "exclusive"] then advance
    transactionName
    return some .begin
  if (← accept "commit") || (← accept "end") then
    transactionName
    return some .commit
  if ← accept "rollback" then
    transactionName
    -- Going back to a savepoint keeps the transaction open.
    if ← accept "to" then
      discard (accept "savepoint")
      return some (.rollbackTo (← name))
    return some .rollback
  if ← accept "savepoint" then return some (.savepoint (← name))
  if ← accept "release" then
    discard (accept "savepoint")
    return some (.release (← name))
  return none

/-- Reads a setting, behind its keyword. -/
def setting : Rule Statement := do
  discard tableName
  if ← acceptSymbol "=" then discard value
  else if ← acceptSymbol "(" then
    discard value
    expectSymbol ")"
  return .noEffect
where
  /-- Reads the value of a setting. -/
  value : Rule Unit := do
    if (← seesSymbol "-") || (← seesSymbol "+") || ((← peek?).any fun t => (literal? t).isSome) then
      discard (operand 8)
    else
      match ← peek? with
      | some t => if t.kind = .word || t.kind = .quotedName then advance else refuse
      | none => refuse

/-- Reads a statement. -/
def statement : Rule Statement := do
  match ← transactionStatement? with
  | some s => return s
  | none =>
    if ← accept "create" then createStatement
    else if ← accept "drop" then dropStatement
    else if ← accept "alter" then alterStatement
    else if ← accept "pragma" then setting
    else if (← accept "vacuum") || (← accept "analyze") || (← accept "reindex") then
      return .noEffect
    else if ← seesAny ["select", "values", "with", "insert", "replace", "update", "delete"] then
      dataStatement
    else refuse

/-- Reads a statement and the end of it. -/
def closedStatement : Rule Statement := do
  let s ← statement
  if (← get).tokens.isEmpty then return s
  expectSymbol ";"
  return s

end Rule

/-- A statement with its placeholders, and the tokens behind it. -/
structure Parsed where
  statement : Statement
  parameters : Parameters
  rest : List Token

/-- Reads the next statement of a text; empty ones are skipped. Nothing is left when there is
none. -/
def parseNext (source : String) (tokens : List Token) : Except String (Option Parsed) :=
  match tokens.dropWhile fun t => t.isSymbol ";" with
  | [] => .ok none
  | tokens => do
    let (s, r) ← Rule.closedStatement.run { source := source.toList, tokens := tokens }
    return some ⟨s, r.parameters, r.tokens⟩

end Sqlite

end StoreBridge
