import StoreBridge.Failure

/-!
# Transactions

What is known about a transaction: its identifier, its store and how deep it is nested. The
outermost transaction has depth zero, and a transaction inside it belongs to the savepoint of its
depth.
-/

namespace StoreBridge

/-- What is known about a transaction. -/
structure Transaction where
  id : String
  backend : Backend
  depth : Nat
  deriving DecidableEq, Repr, Inhabited

namespace Transaction

/-- The identifier of the transaction with a serial number: 32 hexadecimal digits after a mark. -/
def idOfSerial (n : Nat) : String :=
  let ds := (List.range 32).map fun i => hexChar (n / pow2 (4 * (31 - i)) % 16)
  String.ofList ("tx_".toList ++ ds)

/-- An outermost transaction. -/
def outermost (b : Backend) (serial : Nat) : Transaction :=
  ⟨idOfSerial serial, b, 0⟩

/-- A transaction one level below. -/
def nested (t : Transaction) (serial : Nat) : Transaction :=
  ⟨idOfSerial serial, t.backend, t.depth + 1⟩

/-- The savepoint of a depth. -/
def savepointOf (depth : Nat) : String :=
  "sp_" ++ natText depth

/-- The savepoint of a transaction. -/
def savepoint (t : Transaction) : String :=
  savepointOf t.depth

/-- The failure of every call on the transaction after its end. -/
def inactive (t : Transaction) : DbError :=
  DbError.inactive t.id

end Transaction

end StoreBridge
