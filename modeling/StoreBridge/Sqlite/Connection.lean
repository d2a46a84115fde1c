import StoreBridge.Config.Address
import StoreBridge.Sql.Server
import StoreBridge.Sqlite.ColumnType
import StoreBridge.Sqlite.Engine
import StoreBridge.Sqlite.Parser.Statement
import StoreBridge.Sqlite.StatementCache

/-!
# The connection to the embedded engine

The embedded engine as a server with one connection. A text may hold several statements: each one is
prepared, given its arguments and run before the next one is looked at, and what they yield and
touch is added up. Transactions that are begun by command are counted, so that ending one that was
never begun does nothing.
-/

namespace StoreBridge

namespace Sqlite

/-- The engine with what its connection keeps. -/
structure Connection where
  location : SqliteLocation
  engine : Engine := {}
  cache : StatementCache
  /-- How many transactions were begun by command and have not ended. -/
  depth : Nat := 0

/-- The driver's words for a failure of the engine. -/
def Fault.toDriverError (f : Fault) : DriverError :=
  ⟨"error returned from database: (code: " ++ natText f.code ++ ") " ++ f.text,
    some (natText f.code)⟩

/-- Something that the driver does not know how to handle. -/
def unexpected (text : String) : DriverError :=
  ⟨"encountered unexpected or invalid data: " ++ text, none⟩

/-- The location cannot be opened. -/
def cannotOpen : Fault := ⟨14, "unable to open database file"⟩

/-- Whether a database can be made at a location: in memory or in the current directory. -/
def canOpen : SqliteLocation → Bool
  | .memory => true
  | .file path => !path.toList.contains '/'

/-- The number in the name of a placeholder, which picks its argument. -/
def argumentNumber (name : String) : Except DriverError Nat :=
  match name.toList with
  | '?' :: digits => .ok (natOfDigits digits)
  | '$' :: rest =>
    let digits := rest.takeWhile isDigit
    if digits = [] then
      .error (unexpected ("parameters with non-integer names are not currently supported: " ++
        String.ofList rest))
    else .ok (natOfDigits digits)
  | _ => .error (unexpected ("unsupported SQL parameter format: " ++ name))

/-- The arguments for the placeholders of a statement, by their numbers, and the number of arguments
that are used up. A placeholder without a name takes the next argument, and binding ends at the
first placeholder whose argument is missing. -/
def bindFrom (p : Parameters) (arguments : List Datum) :
    List Nat → Nat → Except DriverError (List Datum × Nat)
  | [], used => .ok ([], used)
  | number :: rest, used => do
    let (n, used) ←
      -- A name has its number in it, and it does not use up an argument.
      match p.name? number with
      | some name => do pure (← argumentNumber name, used)
      | none => pure (used + 1, used + 1)
    match arguments[n - 1]? with
    | none => return ([], used)
    | some d =>
      let (bound, used) ← bindFrom p arguments rest used
      return (d :: bound, used)

/-- The arguments for all placeholders of a statement. -/
def bindAll (p : Parameters) (arguments : List Datum) (used : Nat) :
    Except DriverError (List Datum × Nat) :=
  bindFrom p arguments ((List.range p.count).map (· + 1)) used

/-- What the driver reports of a column of a result. -/
def reported (h : Heading) : ReportedColumn :=
  ⟨h.name, (h.declared.elim ColumnType.untyped ColumnType.ofDeclared).name⟩

/-- The row of a result as an object. -/
def decodeRow (headings : List Heading) (row : List Datum) : Row :=
  collectRow (headings.map reported) row

namespace Connection

/-- The work of the connection. -/
abbrev Use (α : Type) := Exchange Connection α

/-- Work of the engine. -/
def work {α : Type} (w : Work α) : Use α := fun c =>
  let (result, engine) := w.run c.engine
  (result.mapError Fault.toDriverError, { c with engine := engine })

/-- Runs the statements of a text one after the other. Each takes a token at least, so the number of
tokens bounds them. -/
def runAll (source : String) (arguments : List Datum) :
    Nat → List Token → Nat → Reply → Use Reply
  | 0, _, _, reply => return reply
  | fuel + 1, tokens, used, reply => do
    match parseNext source tokens with
    | .error text => throw (Fault.generic text).toDriverError
    | .ok none => return reply
    | .ok (some parsed) =>
      match bindAll parsed.parameters arguments used with
      | .error e => throw e
      | .ok (bound, used) =>
        let r ← work (Engine.run parsed.statement bound)
        -- The counts of all statements add up, and the number of the last row stays.
        let counters := (← get).engine.counters
        runAll source arguments fuel parsed.rest used
          ⟨reply.rows ++ r.rows.map (decodeRow r.headings), reply.affected + counters.changes,
            counters.lastNumber⟩

/-- Runs a text and keeps its statement. -/
def runText (text : String) (arguments : List Argument) : Use Reply := do
  modify fun c => { c with cache := c.cache.touch text }
  let tokens := Token.split text
  runAll text (arguments.map Datum.ofArgument) (tokens.length + 1) tokens 0 .empty

/-- Begins or ends a transaction by command. Ending one that was not begun does nothing. -/
def control : Command → Use Unit
  | .begin => do
    work Engine.begin
    modify fun c => { c with depth := c.depth + 1 }
  | .commit => finish Engine.commit
  | .rollback => finish Engine.rollback
  | _ => return ()
where
  /-- Ends a transaction. -/
  finish (w : Work Unit) : Use Unit := do
    if 0 < (← get).depth then
      work w
      modify fun c => { c with depth := c.depth - 1 }

/-- The answer to a command. -/
def send : Command → Use Reply
  | .version text => runText text []
  | .statement text arguments => runText text arguments
  | c => do
    control c
    return .empty

/-- Opens the database. -/
def dial : Use Unit := do
  if !canOpen (← get).location then throw cannotOpen.toDriverError

/-- The embedded engine as a server. -/
def server : Server Connection where
  dial := dial
  send _ c := send c

end Connection

end Sqlite

end StoreBridge
