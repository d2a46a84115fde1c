import StoreBridge.Proofs.Adapter.History
import StoreBridge.Proofs.Sql.Scope
import StoreBridge.Proofs.Steps

/-!
# Invariants of the server behind a store

A SQL store changes its server by opening connections, by sending commands and by closing all
connections at the end, and in no other way. So what these keep (`Server.Maintains`) holds of the
server in every history of calls (`SqlDriver.holds_of_ran`).

A request that is answered was sent once. `SqlDriver.execute_eq_ok` finds the connection, the state
in which the server got the statement, and its reply.
-/

namespace StoreBridge

variable {ς α : Type}

/-- What holds of the server is kept by whatever can happen to it. -/
structure Server.Maintains (P : ς → Prop) (server : Server ς) : Prop where
  dial : ∀ s, P s → P (server.dial s).2
  send : ∀ connection c s, P s → P (server.send connection c s).2
  close : ∀ s, P s → P (server.close s).2

namespace SqlDriver

open SqlStore

variable {d : SqlDriver ς} {P : ς → Prop}

/-- The call keeps what holds of the server. -/
abbrev KeepsServer (P : ς → Prop) (c : Call (SqlStore ς) α) : Prop :=
  StepMaintains (fun s => P s.server) c

theorem giveBack_keepsServer (connection : Nat) :
    KeepsServer P (giveBack connection : Call (SqlStore ς) Unit) :=
  StepMaintains.modify fun _ h => h

theorem ensureOpen_keepsServer : KeepsServer P (ensureOpen : Call (SqlStore ς) Unit) :=
  StepMaintains.get.bind fun _ => .ofExcept _

theorem addScope_keepsServer (t : SqlScope) : KeepsServer P (addScope t : Call (SqlStore ς) Nat) :=
  fun _ h => h

theorem activeScope_keepsServer (n : Nat) : KeepsServer P (d.activeScope n) := by
  intro s h
  rwa [d.activeScope_eq]

theorem connectionOf_keepsServer (t : SqlScope) :
    KeepsServer P (connectionOf t : Call (SqlStore ς) Nat) := by
  intro s h
  rwa [connectionOf_eq]

/-- Looking at a request sends nothing. -/
theorem rootRequest_keepsServer (r : Request) : KeepsServer P (d.rootRequest r) := by
  unfold rootRequest
  split
  · exact (StepMaintains.ofExcept _).bind fun _ => ensureOpen_keepsServer.bind fun _ => .ofExcept _
  · exact ensureOpen_keepsServer.bind fun _ => .ofExcept _

/-- Looking at a request inside a transaction sends nothing. -/
theorem scopeRequest_keepsServer (n : Nat) (r : Request) : KeepsServer P (d.scopeRequest n r) := by
  have hactive : KeepsServer P (discard (d.activeScope n) : Call (SqlStore ς) PUnit) :=
    (activeScope_keepsServer n).bind fun _ => .ofExcept (.ok _)
  unfold scopeRequest
  split
  · exact hactive.bind fun _ => .ofExcept _
  · exact (StepMaintains.ofExcept _).bind fun sql => hactive.bind fun _ => .ofExcept (.ok sql)

section Server

variable (hserver : d.server.Maintains P)

include hserver

theorem send_keepsServer (connection : Nat) (c : Command) : KeepsServer P (d.send connection c) :=
  fun s h => hserver.send connection c s.server h

theorem sendAnyway_keepsServer (connection : Nat) (c : Command) :
    KeepsServer P (d.sendAnyway connection c) :=
  fun s h => hserver.send connection c s.server h

/-- Getting a connection keeps the invariant: at most one is opened. -/
theorem acquire_keepsServer (failure : DriverError → DbError) :
    KeepsServer P (d.acquire failure) := by
  intro s h
  unfold acquire
  rw [Call.bind_of_ok (Call.get_apply s)]
  cases s.pool.grant with
  | reuse connection rest => exact h
  | refuse => exact h
  | dial =>
    have hdial : KeepsServer P (exchange d.server.dial failure) :=
      fun s h => hserver.dial s.server h
    have hopened : KeepsServer P
        (modify fun s => { s with pool := s.pool.afterDial } : Call (SqlStore ς) PUnit) :=
      fun _ h => h
    exact (hdial.bind fun _ => hopened.bind fun _ => .ofExcept (.ok s.pool.opened)) s h

/-- Borrowing a connection keeps what dialling keeps, if the work on it does. -/
theorem borrowing_keepsServer {failure : DriverError → DbError} {work : Nat → Call (SqlStore ς) α}
    (hwork : ∀ connection, KeepsServer P (work connection)) :
    KeepsServer P (d.borrowing failure work) :=
  (acquire_keepsServer hserver failure).bind fun connection =>
    (hwork connection).lift_run.bind fun _ => (giveBack_keepsServer connection).bind fun _ =>
      .ofExcept _

theorem runStatement_keepsServer (r : SqlRequest) (connection : Nat) :
    KeepsServer P (d.runStatement r connection) :=
  (send_keepsServer hserver connection _).bind fun _ => .ofExcept (.ok _)

theorem connect_keepsServer : KeepsServer P d.connect :=
  ensureOpen_keepsServer.bind fun _ =>
    borrowing_keepsServer hserver fun connection => sendAnyway_keepsServer hserver connection _

/-- Disconnecting keeps the invariant, whether or not the server is asked to close the
connections. -/
theorem disconnect_keepsServer : KeepsServer P d.disconnect := by
  have hmarked : KeepsServer P (modify fun s => { s with lifecycle := s.lifecycle.close.2 }
      : Call (SqlStore ς) PUnit) := fun _ h => h
  have hemptied : KeepsServer P (modify fun s => { s with pool := s.pool.close }
      : Call (SqlStore ς) PUnit) := fun _ h => h
  have hasked : KeepsServer P (exchange d.server.close d.failure) :=
    fun s h => hserver.close s.server h
  -- The mark and the emptied pool do not touch the server, the request to close does.
  refine StepMaintains.get.bind fun s => hmarked.bind fun _ => ?_
  split
  · unfold closePool
    refine StepMaintains.get.bind fun s => ?_
    split
    · exact .ofExcept (.ok ())
    · refine hemptied.bind fun _ => hasked.lift_run.bind fun answer => ?_
      split
      · exact .ofExcept answer
      · exact .ofExcept (.ok ())
  · exact .ofExcept (.ok ())

/-- A request inside a transaction is one command. -/
theorem executeWithin_keepsServer (n : Nat) (r : Request) : KeepsServer P (d.executeWithin n r) :=
  (scopeRequest_keepsServer n r).bind fun sql => StepMaintains.get.bind fun _ =>
    (connectionOf_keepsServer _).bind fun connection =>
      runStatement_keepsServer hserver sql connection

/-- **A request** keeps what its command keeps. -/
theorem execute_keepsServer (h : Handle) (r : Request) : KeepsServer P (d.execute h r) := by
  cases h with
  | root =>
    exact (rootRequest_keepsServer r).bind fun sql =>
      borrowing_keepsServer hserver (runStatement_keepsServer hserver sql)
  | scope n => exact executeWithin_keepsServer hserver n r

/-- A beginning keeps the invariant: it opens a connection and sends one command, or sends a
savepoint, or is refused. -/
theorem begin_keepsServer (h : Handle) : KeepsServer P (d.begin h) := by
  cases h with
  | root =>
    refine ensureOpen_keepsServer.bind fun _ =>
      (acquire_keepsServer hserver _).bind fun connection =>
      (send_keepsServer hserver connection .begin).lift_run.bind fun answer => ?_
    -- A refused beginning gives its connection back.
    cases answer with
    | ok reply => exact StepMaintains.get.bind fun s => addScope_keepsServer _
    | error e => exact (giveBack_keepsServer connection).bind fun _ => .ofExcept (.error e)
  | scope n =>
    change KeepsServer P (d.beginWithin n)
    unfold beginWithin
    split
    · exact StepMaintains.ofExcept (.error _)
    · exact (activeScope_keepsServer n).bind fun outer => (connectionOf_keepsServer outer).bind
        fun connection => (send_keepsServer hserver connection _).bind fun _ =>
          StepMaintains.get.bind fun s => addScope_keepsServer _

/-- The end of an outermost transaction is one command, and another one if that is refused. -/
theorem endOutermost_keepsServer (t : SqlScope) (c : Command) :
    KeepsServer P (d.endOutermost t c) := by
  refine (send_keepsServer hserver t.connection c).lift_run.bind fun answer => ?_
  cases answer with
  | ok reply => exact giveBack_keepsServer _
  | error e =>
    exact (sendAnyway_keepsServer hserver t.connection .rollback).bind fun _ =>
      (giveBack_keepsServer _).bind fun _ => .ofExcept (.error e)

/-- **The end of a transaction** keeps what its commands keep. -/
theorem endScope_keepsServer (outermost : Command) (nested : Nat → Command) (n : Nat) :
    KeepsServer P (d.endScope outermost nested n) := by
  have hfinish : KeepsServer P (modify fun s => s.finish n : Call (SqlStore ς) PUnit) :=
    fun _ h => h
  refine (activeScope_keepsServer n).bind fun t => hfinish.bind fun _ => ?_
  split
  · exact endOutermost_keepsServer hserver t outermost
  · exact (connectionOf_keepsServer t).bind fun connection =>
      (send_keepsServer hserver connection _).bind fun _ => .ofExcept (.ok _)

/-- **An invariant of the server** holds in every history of calls. -/
theorem holds_of_ran {o : PoolOptions} {init : ς} {log : List Occurrence} {s : SqlStore ς}
    (hran : d.adapter.Ran (d.start o init) log s) (hinit : P init) : P s.server := by
  -- On the history, call by call.
  induction hran with
  | start => exact hinit
  | connect _ ih => exact connect_keepsServer hserver _ ih
  | disconnect _ ih => exact disconnect_keepsServer hserver _ ih
  | execute h r _ _ hcall ih =>
    have hafter := execute_keepsServer hserver h r _ ih
    rwa [show d.execute h r _ = _ from hcall] at hafter
  | begin h _ _ hcall ih =>
    have hafter := begin_keepsServer hserver h _ ih
    rwa [show d.begin h _ = _ from hcall] at hafter
  | commit n _ _ hcall ih =>
    have hafter := endScope_keepsServer hserver .commit .release n _ ih
    rwa [show d.endScope .commit .release n _ = _ from hcall] at hafter
  | rollback n _ _ hcall ih =>
    have hafter := endScope_keepsServer hserver .rollback .rollbackTo n _ ih
    rwa [show d.endScope .rollback .rollbackTo n _ = _ from hcall] at hafter

end Server

/-! ### A request that is answered -/

/-- A command that was answered was sent, and the rest of the store is as it was. -/
theorem send_eq_ok {connection : Nat} {c : Command} {reply : Reply} {s s' : SqlStore ς}
    (h : d.send connection c s = (.ok reply, s')) :
    d.server.send connection c s.server = (.ok reply, s'.server) := by
  rcases hsend : d.server.send connection c s.server with ⟨e | reply', server⟩
  · rw [d.send_of_error hsend] at h
    exact absurd (Prod.mk.inj h).1 nofun
  · rw [d.send_of_ok hsend] at h
    obtain ⟨hreply, rfl⟩ := Prod.mk.inj h
    rw [Except.ok.inj hreply]

/-- A statement with an output was sent, and the output is made of the reply. -/
theorem runStatement_eq_ok {r : SqlRequest} {connection : Nat} {output : Output}
    {s s' : SqlStore ς} (h : d.runStatement r connection s = (.ok output, s')) :
    ∃ reply, d.server.send connection (d.statementOf r) s.server = (.ok reply, s'.server) ∧
      output = d.dialect.output (d.dialect.render r) reply := by
  obtain ⟨reply, mid, hsend, hdone⟩ := Call.bind_eq_ok h
  obtain ⟨houtput, rfl⟩ := Prod.mk.inj hdone
  exact ⟨reply, send_eq_ok hsend, (Except.ok.inj houtput).symm⟩

theorem ensureOpen_eq_ok {u : Unit} {s s' : SqlStore ς} (h : ensureOpen s = (.ok u, s')) : s' = s :=
  (Prod.mk.inj h).2.symm

/-- A request that passes the checks on the root has changed nothing, in whichever order they are
made. -/
theorem rootRequest_eq_ok {r : Request} {sql : SqlRequest} {s s' : SqlStore ς}
    (h : d.rootRequest r s = (.ok sql, s')) : r.expectSql d.backend = .ok sql ∧ s' = s := by
  unfold rootRequest at h
  split at h
  · obtain ⟨sql', s₁, hexpect, hrest⟩ := Call.bind_eq_ok h
    obtain ⟨u, s₂, hopen, hdone⟩ := Call.bind_eq_ok hrest
    obtain ⟨hsql, hs'⟩ := Prod.mk.inj hdone
    obtain ⟨hexpect, hs₁⟩ := Prod.mk.inj hexpect
    exact ⟨hexpect.trans hsql, hs'.symm.trans ((ensureOpen_eq_ok hopen).trans hs₁.symm)⟩
  · obtain ⟨u, s₁, hopen, hexpect⟩ := Call.bind_eq_ok h
    obtain ⟨hexpect, hs'⟩ := Prod.mk.inj hexpect
    exact ⟨hexpect, hs'.symm.trans (ensureOpen_eq_ok hopen)⟩

/-- A connection is free already, or it is opened. -/
theorem acquire_eq_ok {failure : DriverError → DbError} {connection : Nat} {s s' : SqlStore ς}
    (h : d.acquire failure s = (.ok connection, s')) :
    s'.server = s.server ∨ s'.server = (d.server.dial s.server).2 := by
  unfold acquire at h
  rw [Call.bind_of_ok (Call.get_apply s)] at h
  -- By what the pool grants.
  cases hgrant : s.pool.grant with
  | reuse n rest =>
    rw [hgrant] at h
    obtain ⟨-, rfl⟩ := Prod.mk.inj h
    exact .inl rfl
  | refuse =>
    rw [hgrant] at h
    exact absurd (Prod.mk.inj h).1 nofun
  | dial =>
    rw [hgrant] at h
    obtain ⟨u, mid, hdial, h⟩ := Call.bind_eq_ok h
    obtain ⟨-, rfl⟩ := Prod.mk.inj h
    obtain ⟨-, rfl⟩ := Prod.mk.inj hdial
    exact .inr rfl

/-- Work on a borrowed connection that answers: a connection was had, and the work answered on it.
Giving the connection back is no matter of the server. -/
theorem borrowing_eq_ok {failure : DriverError → DbError} {work : Nat → Call (SqlStore ς) α} {a : α}
    {s s' : SqlStore ς} (h : d.borrowing failure work s = (.ok a, s')) :
    ∃ connection before after, d.acquire failure s = (.ok connection, before) ∧
      work connection before = (.ok a, after) ∧ s'.server = after.server := by
  obtain ⟨connection, before, hacquire, h⟩ := Call.bind_eq_ok h
  obtain ⟨answer, after, hwork, h⟩ := Call.bind_eq_ok h
  obtain ⟨u, back, hback, h⟩ := Call.bind_eq_ok h
  obtain ⟨hanswer, rfl⟩ := Prod.mk.inj h
  obtain ⟨-, rfl⟩ := Prod.mk.inj hback
  obtain ⟨hrun, rfl⟩ := Prod.mk.inj hwork
  refine ⟨connection, before, (work connection before).2, hacquire, ?_, rfl⟩
  exact Prod.ext ((Except.ok.inj hrun).trans hanswer) rfl

/-- A request that passes the checks inside a transaction has changed nothing, in whichever order
they are made. -/
theorem scopeRequest_eq_ok {n : Nat} {r : Request} {sql : SqlRequest} {s s' : SqlStore ς}
    (h : d.scopeRequest n r s = (.ok sql, s')) : r.expectSql d.backend = .ok sql ∧ s' = s := by
  have hactive : ((discard (d.activeScope n) : Call (SqlStore ς) PUnit) s).2 = s := by
    rw [Call.discard_snd, d.activeScope_eq]
  unfold scopeRequest at h
  split at h
  · obtain ⟨u, s₁, hcheck, hexpect⟩ := Call.bind_eq_ok h
    rw [hcheck] at hactive
    obtain ⟨hexpect, hs'⟩ := Prod.mk.inj hexpect
    exact ⟨hexpect, hs'.symm.trans hactive⟩
  · obtain ⟨sql', s₁, hask, hrest⟩ := Call.bind_eq_ok h
    obtain ⟨hexpect, rfl⟩ := Prod.mk.inj hask
    obtain ⟨u, s₂, hcheck, hdone⟩ := Call.bind_eq_ok hrest
    rw [hcheck] at hactive
    obtain ⟨hsql, hs'⟩ := Prod.mk.inj hdone
    exact ⟨hexpect.trans hsql, hs'.symm.trans hactive⟩

/-- A statement inside a transaction that answers: its request was one for SQL, and the statement
was run. -/
theorem executeWithin_eq_ok {n : Nat} {r : Request} {output : Output} {s s' : SqlStore ς}
    (h : d.executeWithin n r s = (.ok output, s')) :
    ∃ sql connection, r.expectSql d.backend = .ok sql ∧
      d.runStatement sql connection s = (.ok output, s') := by
  obtain ⟨sql, s₁, hrequest, hrest⟩ := Call.bind_eq_ok h
  obtain ⟨hexpect, rfl⟩ := scopeRequest_eq_ok hrequest
  rw [Call.bind_of_ok (Call.get_apply s₁)] at hrest
  obtain ⟨connection, s₂, hconnection, hrun⟩ := Call.bind_eq_ok hrest
  rw [connectionOf_eq] at hconnection
  obtain ⟨-, rfl⟩ := Prod.mk.inj hconnection
  exact ⟨sql, connection, hexpect, hrun⟩

/-- **A request that is answered** was sent to the server as one statement, perhaps after a
connection was opened, and the answer is made of the reply to it. -/
theorem execute_eq_ok {h : Handle} {r : Request} {output : Output} {s s' : SqlStore ς}
    (hcall : d.execute h r s = (.ok output, s')) :
    ∃ sql connection server reply, r.expectSql d.backend = .ok sql ∧
      (server = s.server ∨ server = (d.server.dial s.server).2) ∧
      d.server.send connection (d.statementOf sql) server = (.ok reply, s'.server) ∧
      output = d.dialect.output (d.dialect.render sql) reply := by
  -- On the root a connection is borrowed first, in a transaction it is there.
  cases h with
  | root =>
    obtain ⟨sql, mid, hrequest, hwork⟩ := Call.bind_eq_ok hcall
    obtain ⟨hexpect, rfl⟩ := rootRequest_eq_ok hrequest
    obtain ⟨connection, before, after, hacquire, hrun, hserver⟩ := borrowing_eq_ok hwork
    obtain ⟨reply, hsend, houtput⟩ := runStatement_eq_ok hrun
    rw [← hserver] at hsend
    exact ⟨sql, connection, before.server, reply, hexpect, acquire_eq_ok hacquire, hsend, houtput⟩
  | scope n =>
    obtain ⟨sql, connection, hexpect, hrun⟩ := executeWithin_eq_ok hcall
    obtain ⟨reply, hsend, houtput⟩ := runStatement_eq_ok hrun
    exact ⟨sql, connection, s.server, reply, hexpect, .inl rfl, hsend, houtput⟩

end SqlDriver

end StoreBridge
