import StoreBridge.Argument
import StoreBridge.Failure
import StoreBridge.Request
import StoreBridge.Transaction

/-!
# SQL servers

What an adapter sends to a server, and what it gets back. A server opens connections, which are
numbered from zero in the order of opening, answers commands on them, and closes them all at the
end. Its state is a parameter, so that a server may be an engine that runs here, a script, or
anything a proof assumes of one.
-/

namespace StoreBridge

/-- What is sent on a connection. -/
inductive Command where
  /-- Asks for the version of the server. -/
  | version (text : String)
  /-- A statement with the values of its placeholders. -/
  | statement (text : String) (arguments : List Argument)
  | begin
  | commit
  | rollback
  /-- Sets the savepoint of a depth. -/
  | savepoint (depth : Nat)
  /-- Gives up the savepoint of a depth and keeps the work since. -/
  | release (depth : Nat)
  /-- Undoes the work since the savepoint of a depth. -/
  | rollbackTo (depth : Nat)
  deriving DecidableEq, Repr

/-- The text of a command. -/
def Command.text : Command → String
  | .version text => text
  | .statement text _ => text
  | .begin => "BEGIN"
  | .commit => "COMMIT"
  | .rollback => "ROLLBACK"
  | .savepoint depth => "SAVEPOINT " ++ Transaction.savepointOf depth
  | .release depth => "RELEASE SAVEPOINT " ++ Transaction.savepointOf depth
  | .rollbackTo depth => "ROLLBACK TO SAVEPOINT " ++ Transaction.savepointOf depth

/-- The answer to a command: the rows it yields, the number of rows it touched, and the key that the
server generated last. -/
structure Reply where
  rows : List Row
  affected : Nat
  lastId : Int
  deriving DecidableEq, Repr, Inhabited

/-- The answer to a command that neither yields nor touches rows. -/
def Reply.empty : Reply := ⟨[], 0, 0⟩

/-- An exchange with a server. -/
abbrev Exchange (ς α : Type) := ExceptT DriverError (StateM ς) α

/-- A server whose state is `ς`. -/
structure Server (ς : Type) where
  /-- Opens a further connection. -/
  dial : Exchange ς Unit
  /-- Sends a command on the connection with a number. -/
  send : Nat → Command → Exchange ς Reply
  /-- Closes the connections. -/
  close : Exchange ς Unit := pure ()

namespace Server

variable {ς : Type}

/-- A server that cannot be reached. -/
def unreachable (e : DriverError) : Server ς where
  dial := throw e
  send _ _ := throw e

/-- The same server, which writes down what is sent to it. -/
def logged (s : Server ς) : Server (ς × List Command) where
  dial state :=
    let (answer, after) := s.dial state.1
    (answer, after, state.2)
  send connection c state :=
    let (answer, after) := s.send connection c state.1
    (answer, after, state.2 ++ [c])
  close state :=
    let (answer, after) := s.close state.1
    (answer, after, state.2)

end Server

/-- No route leads to the server. -/
def DriverError.networkUnreachable : DriverError :=
  ⟨"error communicating with database: Network is unreachable (os error 101)", none⟩

end StoreBridge
