import StoreBridge.Request
import StoreBridge.Transaction

/-!
# Adapters

An adapter is the set of calls that a store answers. A call changes the state of the store whether
it succeeds or fails. Calls are made on a handle: on the adapter itself, or on a transaction that is
named by its number.

`Adapter.transaction` runs work inside a transaction. It commits exactly when the work succeeds and
rolls back exactly when the work fails; a failure of either end replaces what the work answered.
-/

namespace StoreBridge

/-- A call on a store: it answers or fails, and leaves a state in both cases. -/
abbrev Call (σ α : Type) := ExceptT DbError (StateM σ) α

namespace Call

variable {σ τ α : Type}

/-- An answer that needs no store. -/
def ofExcept (r : Except DbError α) : Call σ α := ExceptT.mk (pure r)

/-- A call next to further state, which it does not touch. -/
def beside (c : Call σ α) : Call (σ × τ) α := fun s =>
  let (answer, after) := c s.1
  (answer, after, s.2)

end Call

/-- Where a call is made: on the adapter or on a transaction. -/
inductive Handle where
  | root
  | scope (number : Nat)
  deriving DecidableEq, Repr

/-- The calls that a store answers. Transactions are named by numbers, which `begin` hands out. -/
structure Adapter (σ : Type) where
  backend : Backend
  capabilities : Capabilities
  connect : Call σ Unit
  disconnect : Call σ Unit
  execute : Handle → Request → Call σ Output
  begin : Handle → Call σ Nat
  commit : Nat → Call σ Unit
  rollback : Nat → Call σ Unit
  info : Nat → σ → Transaction
  isActive : Nat → σ → Bool

namespace Adapter

variable {σ τ α : Type}

/-- Connects the adapter. A transaction already has its connection. -/
def connectOn (a : Adapter σ) : Handle → Call σ Unit
  | .root => a.connect
  | .scope _ => pure ()

/-- Disconnects the adapter. A transaction keeps its connection until it ends. -/
def disconnectOn (a : Adapter σ) : Handle → Call σ Unit
  | .root => a.disconnect
  | .scope _ => pure ()

/-- Runs work inside a transaction begun on a handle. -/
def transaction (a : Adapter σ) (h : Handle) (work : Nat → Call σ α) : Call σ α :=
  ExceptT.mk do
    match ← (a.begin h).run with
    | .error e => return .error e
    | .ok n =>
      match ← (work n).run with
      | .ok value =>
        -- A refused end is the answer of the transaction, and no other end is tried.
        match ← (a.commit n).run with
        | .ok _ => return .ok value
        | .error e => return .error e
      | .error e =>
        -- The failure of the work is the answer, unless the rollback fails as well.
        match ← (a.rollback n).run with
        | .ok _ => return .error e
        | .error e' => return .error e'

/-- The same adapter next to further state, which no call touches. -/
def beside (a : Adapter σ) : Adapter (σ × τ) where
  backend := a.backend
  capabilities := a.capabilities
  connect := a.connect.beside
  disconnect := a.disconnect.beside
  execute h r := (a.execute h r).beside
  begin h := (a.begin h).beside
  commit n := (a.commit n).beside
  rollback n := (a.rollback n).beside
  info n s := a.info n s.1
  isActive n s := a.isActive n s.1

end Adapter

end StoreBridge
