import StoreBridge.Proofs.Adapter.Failure
import StoreBridge.Proofs.Sql.Frame

/-!
# How calls on a SQL store fail

Every call of a SQL store makes its checks first: whether the adapter is open, of what kind the
request is, whether the transaction and the outermost one around it are active. A connection is
borrowed after that, and then only the server fails (`SqlDriver.orderly`).
-/

namespace StoreBridge

namespace SqlDriver

variable {ς α : Type} (d : SqlDriver ς)

open SqlStore

/-! ### Exchanges -/

/-- An exchange fails as the driver says, and never closes the adapter. -/
theorem exchange_driven {failure : DriverError → DbError}
    (hf : ∀ e, (failure e).OfDriver d.backend) (x : Exchange ς α) :
    (exchange x failure).Driven d.backend SqlStore.lifecycle where
  keeps _ := rfl
  fails s e s' hcall := by
    have hanswer : (x s.server).1.mapError failure = .error e := (Prod.mk.inj hcall).1
    exact .of_mapError hf hanswer

/-- Failures of the server are passed on, and so are those to reach it. -/
theorem failure_ofDriver (e : DriverError) : (d.failure e).OfDriver d.backend :=
  .failed e

theorem send_driven (connection : Nat) (c : Command) :
    (d.send connection c).Driven d.backend SqlStore.lifecycle :=
  d.exchange_driven d.failure_ofDriver _

theorem giveBack_driven (connection : Nat) :
    (giveBack connection : Call (SqlStore ς) Unit).Driven d.backend SqlStore.lifecycle :=
  .modify fun _ => rfl

section Borrowing

variable {failure : DriverError → DbError} (hf : ∀ e, (failure e).OfDriver d.backend)

include hf

/-- A connection that cannot be had is a failure of the driver as well. -/
theorem acquire_driven : (d.acquire failure).Driven d.backend SqlStore.lifecycle := by
  refine .of_eq fun s => ?_
  have hget : d.acquire failure s = _ := Call.bind_of_ok (Call.get_apply s)
  -- By what the pool grants: a connection that waits, a new one, or none.
  cases hgrant : s.pool.grant with
  | reuse n rest =>
    refine ⟨do modify fun s => { s with pool := rest }; return n,
      Call.Driven.bind (.modify fun _ => rfl) fun _ => .pure n, ?_⟩
    rw [hget, hgrant]
    rfl
  | dial =>
    refine ⟨do
        exchange d.server.dial failure
        modify fun s => { s with pool := s.pool.afterDial }
        return s.pool.opened,
      (d.exchange_driven hf _).bind fun _ => .bind (.modify fun _ => rfl) fun _ =>
        .pure s.pool.opened, ?_⟩
    rw [hget, hgrant]
  | refuse =>
    refine ⟨throw (failure .poolTimedOut), .throw (hf _), ?_⟩
    rw [hget, hgrant]

/-- Work on a borrowed connection fails as the driver says, or for want of a connection. -/
theorem borrowing_driven {work : Nat → Call (SqlStore ς) α}
    (hwork : ∀ connection, (work connection).Driven d.backend SqlStore.lifecycle) :
    (d.borrowing failure work).Driven d.backend SqlStore.lifecycle := by
  refine (d.acquire_driven hf).bind fun connection => ?_
  refine (hwork connection).lift_bind fun answer hanswer => ?_
  -- The connection goes back first, and then the answer of the work is passed on.
  exact (d.giveBack_driven connection).bind fun _ => .ofExcept hanswer

end Borrowing

theorem runStatement_driven (r : SqlRequest) (connection : Nat) :
    (d.runStatement r connection).Driven d.backend SqlStore.lifecycle :=
  (d.send_driven connection _).bind fun _ => .pure _

/-- The next transaction is added, whatever its number is. -/
theorem addNext_driven (t : Nat → SqlScope) :
    (do let s ← get; addScope (t s.scopes.length) : Call (SqlStore ς) Nat).Driven d.backend
      SqlStore.lifecycle :=
  ⟨fun _ => rfl, fun _ _ _ hcall => absurd (Prod.mk.inj hcall).1 nofun⟩

/-! ### Checks -/

theorem ensureOpen_checks : (ensureOpen : Call (SqlStore ς) Unit).Checks SqlStore.lifecycle where
  unchanged _ := rfl
  fails _ _ _ hcall := Lifecycle.refusal_of_ensureOpen (Prod.mk.inj hcall).1

/-- Looking at the kind of the request is a check. -/
theorem expectSql_checks (r : Request) :
    (Call.ofExcept (r.expectSql d.backend) : Call (SqlStore ς) SqlRequest).Checks
      SqlStore.lifecycle := by
  refine .ofExcept fun e he => ?_
  cases r with
  | sql r => exact absurd he nofun
  | document r =>
    rw [← Except.error.inj he]
    rfl

theorem activeScope_checks (n : Nat) : (d.activeScope n).Checks SqlStore.lifecycle :=
  .of_ended (d.activeScope_eq n)

theorem connectionOf_checks (t : SqlScope) :
    (connectionOf t : Call (SqlStore ς) Nat).Checks SqlStore.lifecycle :=
  .of_ended (connectionOf_eq t)

/-- A request to the adapter is checked, in either order. -/
theorem rootRequest_checks (r : Request) : (d.rootRequest r).Checks SqlStore.lifecycle := by
  unfold rootRequest
  -- The two checks come in either order.
  split
  · exact (d.expectSql_checks r).andThen fun sql => ensureOpen_checks.andThen fun _ => .pure sql
  · exact ensureOpen_checks.andThen fun _ => d.expectSql_checks r

/-- A request to a transaction is checked, in either order. -/
theorem scopeRequest_checks (n : Nat) (r : Request) :
    (d.scopeRequest n r).Checks SqlStore.lifecycle := by
  have hactive : (discard (d.activeScope n) : Call (SqlStore ς) PUnit).Checks SqlStore.lifecycle :=
    (d.activeScope_checks n).andThen fun _ => .pure PUnit.unit
  unfold scopeRequest
  split
  · exact hactive.andThen fun _ => d.expectSql_checks r
  · exact (d.expectSql_checks r).andThen fun sql => hactive.andThen fun _ => .pure sql

/-! ### Calls -/

/-- Connecting asks the driver once the adapter is known to be open. -/
theorem connect_orderly : d.connect.Orderly d.backend SqlStore.lifecycle := by
  have hunreachable : ∀ e : DriverError, (connectError d.backend e.text).OfDriver d.backend :=
    fun e => .unreachable e.text
  -- The version is asked for, and a failure of that is no failure.
  have hversion : ∀ connection,
      (d.sendAnyway connection (.version d.dialect.versionText)).Driven d.backend
        SqlStore.lifecycle := by
    intro connection
    exact (d.send_driven connection _).lift_bind fun _ _ => .pure ()
  exact ensureOpen_checks.bind fun _ => (d.borrowing_driven hunreachable hversion).orderly

/-- A request in a transaction is checked before the driver is asked. -/
theorem executeWithin_orderly (n : Nat) (r : Request) :
    (d.executeWithin n r).Orderly d.backend SqlStore.lifecycle := by
  refine (d.scopeRequest_checks n r).bind fun sql => Call.Checks.get.bind fun s => ?_
  refine (connectionOf_checks (s.scope n)).bind fun connection => ?_
  exact (d.runStatement_driven sql connection).orderly

/-- **A request** is checked first, on the adapter and in a transaction. -/
theorem execute_orderly (h : Handle) (r : Request) :
    (d.execute h r).Orderly d.backend SqlStore.lifecycle := by
  cases h with
  | root =>
    refine (d.rootRequest_checks r).bind fun sql => ?_
    exact (d.borrowing_driven d.failure_ofDriver (d.runStatement_driven sql)).orderly
  | scope n => exact d.executeWithin_orderly n r

/-- An outermost transaction begins on an open adapter, and is then a matter of the driver. -/
theorem beginOutermost_orderly : d.beginOutermost.Orderly d.backend SqlStore.lifecycle := by
  refine ensureOpen_checks.bind fun _ => Call.Driven.orderly ?_
  refine (d.acquire_driven d.failure_ofDriver).bind fun connection => ?_
  refine (d.send_driven connection .begin).lift_bind fun answer hanswer => ?_
  cases answer with
  | ok reply => exact d.addNext_driven fun n => ⟨.outermost d.backend n, connection, n, false⟩
  | error e =>
    -- The connection goes back, and the failure is the server's.
    exact (d.giveBack_driven connection).bind fun _ => .throw (hanswer e rfl)

/-- A savepoint is a matter of the driver in a transaction that is active. -/
theorem beginSavepoint_orderly (n : Nat) :
    (d.beginSavepoint n).Orderly d.backend SqlStore.lifecycle := by
  refine (d.activeScope_checks n).bind fun outer => ?_
  refine (connectionOf_checks outer).bind fun connection => Call.Driven.orderly ?_
  -- From the savepoint on nothing is refused any more.
  exact (d.send_driven connection _).bind fun _ => d.addNext_driven fun serial =>
    ⟨outer.info.nested serial, connection, outer.outermost, false⟩

/-- A beginning inside a transaction is refused by the dialect, or it sets a savepoint. -/
theorem beginWithin_orderly (n : Nat) : (d.beginWithin n).Orderly d.backend SqlStore.lifecycle := by
  unfold beginWithin
  split
  · exact (Call.Checks.throw rfl).orderly
  · exact d.beginSavepoint_orderly n

/-- **A SQL store checks first**, whatever its dialect and its server are. -/
theorem orderly : d.adapter.Orderly SqlStore.lifecycle where
  connect := d.connect_orderly
  execute := d.execute_orderly
  begin
    | .root => d.beginOutermost_orderly
    | .scope n => d.beginWithin_orderly n

end SqlDriver

end StoreBridge
