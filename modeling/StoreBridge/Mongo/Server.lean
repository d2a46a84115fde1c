import StoreBridge.Bson.Basic
import StoreBridge.Failure
import StoreBridge.Sql.Server

/-!
# Document servers

What an adapter sends to a MongoDB server, and what it gets back. A command is sent outside of every
session or in the transaction of one; the first command of a transaction starts it. A commit or an
abort is a command as well.

The driver has to find a server before it can send anything. A command for which none is found never
leaves the driver, so a transaction is not started by it.
-/

namespace StoreBridge

/-- What is sent to a document server. -/
inductive DocumentCommand where
  | ping
  | buildInfo
  | find (collection : String) (filter : Document) (projection sort : Option Document)
      (limit : Option Nat)
  | insert (collection : String) (documents : List Document)
  | update (collection : String) (filter changes : Document)
  | delete (collection : String) (filter : Document)
  | aggregate (collection : String) (stages : List Document)
  | commit
  | abort
  deriving Repr

/-- Where a command is sent. -/
inductive Session where
  /-- Outside of every transaction. -/
  | outside
  /-- In the transaction with a number, of which it may be the first command. -/
  | within (number : Nat) (first : Bool)
  deriving DecidableEq, Repr

/-- The answer to a command: the documents it yields, and how many it touched and changed. -/
structure DocumentReply where
  documents : List Document
  touched : Nat
  modified : Nat
  deriving Repr, Inhabited

/-- A document server whose state is `ς`. -/
structure DocumentServer (ς : Type) where
  /-- Begins a session with a transaction in it. -/
  startSession : Exchange ς Unit := pure ()
  /-- Finds a server for the next command. -/
  select : Exchange ς Unit := pure ()
  /-- Sends it a command. -/
  send : Session → DocumentCommand → Exchange ς DocumentReply
  /-- A fresh object id, for a document that has none. -/
  freshId : StateM ς Bytes
  /-- Leaves all servers. -/
  shutdown : StateM ς Unit := pure ()

/-- Finds a server and sends it a command. -/
def DocumentServer.request {ς : Type} (srv : DocumentServer ς) (session : Session)
    (c : DocumentCommand) : Exchange ς DocumentReply := do
  srv.select
  srv.send session c

end StoreBridge
