import StoreBridge.Adapter.Basic
import StoreBridge.Query.Compile

/-!
# Databases

A database is an adapter together with the handle its calls are made on, so that work written for an
adapter runs unchanged inside a transaction. A query is compiled first and reaches the adapter only
if that succeeds.
-/

namespace StoreBridge

/-- An adapter and where its calls are made. -/
structure Database (σ : Type) where
  adapter : Adapter σ
  handle : Handle

namespace Database

variable {σ α : Type}

/-- The database outside every transaction. -/
def ofAdapter (a : Adapter σ) : Database σ := ⟨a, .root⟩

/-- The database inside a transaction. -/
def within (db : Database σ) (n : Nat) : Database σ := { db with handle := .scope n }

def backend (db : Database σ) : Backend := db.adapter.backend

def capabilities (db : Database σ) : Capabilities := db.adapter.capabilities

/-- Whether a transaction may be opened inside a transaction. -/
def supportsNestedTransactions (db : Database σ) : Bool :=
  db.capabilities.nestedTransactions

def connect (db : Database σ) : Call σ Unit := db.adapter.connectOn db.handle

def disconnect (db : Database σ) : Call σ Unit := db.adapter.disconnectOn db.handle

/-- Runs a request. -/
def execute (db : Database σ) (r : Request) : Call σ Output := db.adapter.execute db.handle r

/-- Compiles a query and runs what it compiles to. -/
def run (db : Database σ) (s : Schema) (operations : List Operation) : Call σ Output := do
  db.execute (← Call.ofExcept (compile s operations))

/-- Runs work inside a transaction. -/
def transaction (db : Database σ) (work : Database σ → Call σ α) : Call σ α :=
  db.adapter.transaction db.handle fun n => work (db.within n)

/-- Inserts each item with a statement of its own, all in one transaction. Nothing happens when
there are no items. -/
def insertMany (db : Database σ) (s : Schema) (items : List Json) : Call σ (List Output) :=
  if items.isEmpty then pure []
  else db.transaction fun tx => items.mapM fun item => tx.run s [.insert item]

end Database

end StoreBridge
