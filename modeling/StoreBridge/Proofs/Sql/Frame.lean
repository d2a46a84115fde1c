import StoreBridge.Proofs.Adapter.Call
import StoreBridge.Sql.Store

/-!
# Calls that begin and end no transaction

`SqlDriver.KeepsScopes` says of a call on a SQL store that the list of transactions is the same
after it, whatever the server answers. It holds of a request, of connecting and disconnecting, and
of every part that beginnings and ends are made of.
-/

namespace StoreBridge

namespace SqlDriver

variable {ς α : Type} (d : SqlDriver ς)

open SqlStore

/-- The call begins and ends no transaction. -/
abbrev KeepsScopes (c : Call (SqlStore ς) α) : Prop :=
  c.Preserves SqlStore.scopes

theorem send_keepsScopes (connection : Nat) (c : Command) : KeepsScopes (d.send connection c) :=
  fun _ => rfl

theorem sendAnyway_keepsScopes (connection : Nat) (c : Command) :
    KeepsScopes (d.sendAnyway connection c) :=
  fun _ => rfl

theorem giveBack_keepsScopes (connection : Nat) :
    KeepsScopes (giveBack connection : Call (SqlStore ς) Unit) :=
  Call.preserves_modify fun _ => rfl

theorem ensureOpen_keepsScopes : KeepsScopes (ensureOpen : Call (SqlStore ς) Unit) :=
  Call.preserves_get.bind fun _ => Call.preserves_ofExcept _

/-- Getting a connection for a request is a matter of the pool only. -/
theorem acquire_keepsScopes (failure : DriverError → DbError) :
    KeepsScopes (d.acquire failure) := by
  intro s
  unfold acquire
  rw [Call.bind_of_ok (Call.get_apply s)]
  cases s.pool.grant with
  | reuse connection rest => rfl
  | dial =>
    have hrest : KeepsScopes (do
        exchange d.server.dial failure
        modify fun s => { s with pool := s.pool.afterDial }
        return s.pool.opened : Call (SqlStore ς) Nat) :=
      Call.Preserves.bind (fun _ => rfl) fun _ => Call.Preserves.bind
        (Call.preserves_modify fun _ => rfl) fun _ => Call.preserves_ofExcept (.ok _)
    exact hrest s
  | refuse => rfl

/-- Borrowing a connection touches no transaction, if the work on it does not. -/
theorem borrowing_keepsScopes {failure : DriverError → DbError} {work : Nat → Call (SqlStore ς) α}
    (hwork : ∀ connection, KeepsScopes (work connection)) :
    KeepsScopes (d.borrowing failure work) :=
  (d.acquire_keepsScopes failure).bind fun connection => (hwork connection).lift_run.bind fun _ =>
    (giveBack_keepsScopes connection).bind fun _ => Call.preserves_ofExcept _

theorem runStatement_keepsScopes (r : SqlRequest) (connection : Nat) :
    KeepsScopes (d.runStatement r connection) :=
  (d.send_keepsScopes connection _).bind fun _ => Call.preserves_ofExcept (.ok _)

theorem connect_keepsScopes : KeepsScopes d.connect :=
  ensureOpen_keepsScopes.bind fun _ =>
    d.borrowing_keepsScopes fun connection => d.sendAnyway_keepsScopes connection _

/-- Closing the pool touches nothing but the pool and the server. -/
theorem closePool_preserves {β : Type} {f : SqlStore ς → β}
    (hpool : ∀ s pool, f { s with pool := pool } = f s)
    (hserver : ∀ s server, f { s with server := server } = f s) : d.closePool.Preserves f := by
  have hemptied : (modify fun s => { s with pool := s.pool.close }
      : Call (SqlStore ς) PUnit).Preserves f := Call.preserves_modify fun s => hpool s s.pool.close
  have hasked : (exchange d.server.close d.failure).Preserves f :=
    fun s => hserver s (d.server.close s.server).2
  refine Call.preserves_get.bind fun s => ?_
  split
  · exact Call.preserves_ofExcept (.ok ())
  · refine hemptied.bind fun _ => hasked.lift_run.bind fun answer => ?_
    -- Whether the answer is passed on is a matter of the dialect.
    split
    · exact Call.preserves_ofExcept answer
    · exact Call.preserves_ofExcept (.ok ())

/-- A disconnect touches no transaction: they are not told. -/
theorem disconnect_keepsScopes : KeepsScopes d.disconnect := by
  have hmarked : KeepsScopes (modify fun s => { s with lifecycle := s.lifecycle.close.2 }
      : Call (SqlStore ς) PUnit) := Call.preserves_modify fun _ => rfl
  refine Call.preserves_get.bind fun s => hmarked.bind fun _ => ?_
  split
  · exact d.closePool_preserves (fun _ _ => rfl) fun _ _ => rfl
  · exact Call.preserves_ofExcept (.ok ())

/-- Whether a transaction has ended is looked at without a change. -/
theorem activeScope_eq (n : Nat) (s : SqlStore ς) :
    d.activeScope n s =
      (if (s.scope n).finished then .error (s.scope n).info.inactive else .ok (s.scope n), s) := by
  refine (Call.bind_of_ok (Call.get_apply s)).trans ?_
  cases (s.scope n).finished <;> rfl

/-- So is whether its outermost transaction has. -/
theorem connectionOf_eq (t : SqlScope) (s : SqlStore ς) :
    connectionOf t s =
      (if (s.scope t.outermost).finished then .error t.info.inactive else .ok t.connection, s) := by
  refine (Call.bind_of_ok (Call.get_apply s)).trans ?_
  cases (s.scope t.outermost).finished <;> rfl

theorem activeScope_keepsScopes (n : Nat) : KeepsScopes (d.activeScope n) := by
  intro s
  rw [d.activeScope_eq]

theorem connectionOf_keepsScopes (t : SqlScope) :
    KeepsScopes (connectionOf t : Call (SqlStore ς) Nat) := by
  intro s
  rw [connectionOf_eq]

/-- Looking at a request touches no transaction. -/
theorem scopeRequest_keepsScopes (n : Nat) (r : Request) : KeepsScopes (d.scopeRequest n r) := by
  have hactive : KeepsScopes (discard (d.activeScope n) : Call (SqlStore ς) PUnit) :=
    (d.activeScope_keepsScopes n).bind fun _ => Call.preserves_ofExcept (.ok _)
  unfold scopeRequest
  -- The two checks come in either order, and neither changes anything.
  split
  · exact hactive.bind fun _ => Call.preserves_ofExcept _
  · exact (Call.preserves_ofExcept _).bind fun sql => hactive.bind fun _ =>
      Call.preserves_ofExcept (.ok sql)

/-- **A request** begins and ends no transaction. -/
theorem execute_keepsScopes (h : Handle) (r : Request) : KeepsScopes (d.execute h r) := by
  cases h with
  | root =>
    refine Call.Preserves.bind ?_ fun sql =>
      d.borrowing_keepsScopes (d.runStatement_keepsScopes sql)
    -- The checks come in an order of the dialect's own, and neither of them changes anything.
    unfold rootRequest
    split
    · exact (Call.preserves_ofExcept _).bind fun _ => ensureOpen_keepsScopes.bind fun _ =>
        Call.preserves_ofExcept (.ok _)
    · exact ensureOpen_keepsScopes.bind fun _ => Call.preserves_ofExcept _
  | scope n =>
    exact (d.scopeRequest_keepsScopes n r).bind fun sql => Call.preserves_get.bind fun s =>
      (connectionOf_keepsScopes _).bind fun connection => d.runStatement_keepsScopes sql connection

end SqlDriver

end StoreBridge
