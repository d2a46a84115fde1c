import StoreBridge.Proofs.Sql.Frame

/-!
# Calls on the transactions of a SQL store

What a call on a transaction does to a SQL store, written as an equation for each call. A
transaction that is `SqlStore.Active` sends its commands on the connection of its outermost
transaction, and a call on it changes the server and, at most, the list of transactions.

`SqlStore.Keeps` is the frame: every transaction that was there is as it was, and so are the pool
and the lifecycle. It carries `Active` along (`SqlStore.Active.keep`).
-/

namespace StoreBridge

namespace SqlStore

variable {ς : Type} {s s' s'' : SqlStore ς} {n : Nat} {t : SqlScope}

/-- A transaction that has not ended, inside one that has not ended. -/
structure Active (s : SqlStore ς) (n : Nat) (t : SqlScope) : Prop where
  here : s.scopes[n]? = some t
  unfinished : t.finished = false
  outermost : (s.scope t.outermost).finished = false

/-- Nothing but the server and further transactions are different. -/
structure Keeps (s s' : SqlStore ς) : Prop where
  scopes : ∀ (m : Nat) (u : SqlScope), s.scopes[m]? = some u → s'.scopes[m]? = some u
  lifecycle : s'.lifecycle = s.lifecycle
  pool : s'.pool = s.pool

theorem Keeps.refl (s : SqlStore ς) : s.Keeps s :=
  ⟨fun _ _ h => h, rfl, rfl⟩

theorem Keeps.trans (h : s.Keeps s') (h' : s'.Keeps s'') : s.Keeps s'' :=
  ⟨fun m u hm => h'.scopes m u (h.scopes m u hm), h'.lifecycle.trans h.lifecycle,
    h'.pool.trans h.pool⟩

theorem scope_of_getElem? (h : s.scopes[n]? = some t) : s.scope n = t := by
  rw [scope, List.getD_eq_getElem?_getD, h, Option.getD_some]

/-- A number that was never handed out names an ended transaction. -/
theorem getElem?_of_unfinished (h : (s.scope n).finished = false) :
    s.scopes[n]? = some (s.scope n) := by
  cases hn : s.scopes[n]? with
  | none =>
    rw [scope, List.getD_eq_getElem?_getD, hn] at h
    exact absurd h (by simp)
  | some u => rw [scope_of_getElem? hn]

/-- An active transaction is not finished. -/
theorem Active.scope_unfinished (h : s.Active n t) : (s.scope n).finished = false := by
  rw [scope_of_getElem? h.here, h.unfinished]

/-- It is active as long as the transactions are kept. -/
theorem Active.keep (h : s.Active n t) (hk : s.Keeps s') : s'.Active n t where
  here := hk.scopes n t h.here
  unfinished := h.unfinished
  outermost := by
    rw [scope_of_getElem? (hk.scopes _ _ (getElem?_of_unfinished h.outermost))]
    exact h.outermost

/-- The server is no part of the frame. -/
theorem keeps_server (s : SqlStore ς) (server : ς) : s.Keeps { s with server := server } :=
  ⟨fun _ _ h => h, rfl, rfl⟩

/-- A new transaction keeps the ones before it. -/
theorem keeps_concat (s : SqlStore ς) (server : ς) (u : SqlScope) :
    s.Keeps { s with server := server, scopes := s.scopes ++ [u] } where
  scopes m v h := by
    rw [List.getElem?_append_left (List.getElem?_eq_some_iff.mp h).1]
    exact h
  lifecycle := rfl
  pool := rfl

/-- A transaction inside `t`, as the next one. -/
def child (s : SqlStore ς) (t : SqlScope) : SqlScope :=
  ⟨t.info.nested s.scopes.length, t.connection, t.outermost, false⟩

/-- The store once it has begun. -/
def opened (s : SqlStore ς) (t : SqlScope) (server : ς) : SqlStore ς :=
  { s with server := server, scopes := s.scopes ++ [s.child t] }

/-- A transaction that has just begun inside an active one is active. -/
theorem Active.opened (h : s.Active n t) (server : ς) :
    (s.opened t server).Active s.scopes.length (s.child t) where
  here := List.getElem?_concat_length
  unfinished := rfl
  outermost := by
    -- The outermost one is among those of before, and a new one changes none of them.
    have hopen := getElem?_of_unfinished h.outermost
    have hkept : (s.opened t server).scopes[t.outermost]? = some (s.scope t.outermost) :=
      (s.keeps_concat server (s.child t)).scopes _ _ hopen
    change ((s.opened t server).scope t.outermost).finished = false
    rw [scope_of_getElem? hkept]
    exact h.outermost

/-- Its outermost transaction is another one. -/
theorem Active.outermost_ne (h : s.Active n t) : t.outermost ≠ s.scopes.length :=
  Nat.ne_of_lt (List.getElem?_eq_some_iff.mp (getElem?_of_unfinished h.outermost)).1

/-- Ending a transaction changes no other one. -/
theorem getElem?_finish_of_ne {m : Nat} (h : m ≠ n) :
    (s.finish n).scopes[m]? = s.scopes[m]? := by
  rw [finish, List.getElem?_modify]
  simp [h.symm]

/-- Ending a transaction that was not there yet is within the frame. -/
theorem Keeps.finish (h : s.Keeps s') (hn : s.scopes.length ≤ n) : s.Keeps (s'.finish n) where
  scopes m u hm := by
    have hlt : m < s.scopes.length := (List.getElem?_eq_some_iff.mp hm).1
    rw [getElem?_finish_of_ne (by omega)]
    exact h.scopes m u hm
  lifecycle := h.lifecycle
  pool := h.pool

end SqlStore

namespace SqlDriver

variable {ς : Type} (d : SqlDriver ς) {s : SqlStore ς} {n : Nat} {t : SqlScope}

open SqlStore

section Send

variable {connection : Nat} {c : Command} {server : ς}

/-- A command changes the server only. -/
theorem send_of_ok {reply : Reply} (h : d.server.send connection c s.server = (.ok reply, server)) :
    d.send connection c s = (.ok reply, { s with server := server }) := by
  rw [send, exchange, h]
  rfl

/-- A command that the server refuses is a failure of the driver. -/
theorem send_of_error {e : DriverError}
    (h : d.server.send connection c s.server = (.error e, server)) :
    d.send connection c s = (.error (d.failure e), { s with server := server }) := by
  rw [send, exchange, h]
  rfl

/-- A command whose failure is looked at and not passed on. -/
theorem lift_send_of_ok {reply : Reply}
    (h : d.server.send connection c s.server = (.ok reply, server)) :
    (ExceptT.lift (d.send connection c).run : Call (SqlStore ς) _) s
      = (.ok (.ok reply), { s with server := server }) := by
  rw [Call.lift_run_apply, d.send_of_ok h]

/-- A call that looks at the failure of a command finds that of the driver. -/
theorem lift_send_of_error {e : DriverError}
    (h : d.server.send connection c s.server = (.error e, server)) :
    (ExceptT.lift (d.send connection c).run : Call (SqlStore ς) _) s
      = (.ok (.error (d.failure e)), { s with server := server }) := by
  rw [Call.lift_run_apply, d.send_of_error h]

end Send

/-- A transaction that has not ended is found. -/
theorem activeScope_apply (h : s.scopes[n]? = some t) (hf : t.finished = false) :
    d.activeScope n s = (.ok t, s) := by
  rw [d.activeScope_eq, scope_of_getElem? h, hf]
  rfl

/-- A transaction has its connection as long as the outermost one has not ended. -/
theorem connectionOf_apply (h : (s.scope t.outermost).finished = false) :
    connectionOf t s = (.ok t.connection, s) := by
  rw [connectionOf_eq, h]
  rfl

/-- A transaction that has ended is refused. -/
theorem activeScope_of_finished (h : (s.scope n).finished = true) :
    d.activeScope n s = (.error (s.scope n).info.inactive, s) := by
  rw [d.activeScope_eq, h]
  rfl

theorem activeScope_of_unfinished (h : (s.scope n).finished = false) :
    d.activeScope n s = (.ok (s.scope n), s) := by
  rw [d.activeScope_eq, h]
  rfl

/-- A transaction has no connection once its outermost one has ended. -/
theorem connectionOf_of_finished (h : (s.scope t.outermost).finished = true) :
    connectionOf t s = (.error t.info.inactive, s) := by
  rw [connectionOf_eq, h]
  rfl

/-- Inside an active transaction only the request can be refused, so the order of the checks is no
matter. -/
theorem scopeRequest_of_unfinished (r : Request) (hf : (s.scope n).finished = false) :
    d.scopeRequest n r s = (r.expectSql d.backend, s) := by
  have hactive : (discard (d.activeScope n) : Call (SqlStore ς) PUnit) s = (.ok ⟨⟩, s) :=
    Call.bind_of_ok (d.activeScope_of_unfinished hf)
  unfold scopeRequest
  -- One check always passes, so what the other one answers comes through in either order.
  split
  · exact (Call.bind_of_ok hactive).trans (Call.ofExcept_apply _ _)
  · cases r.expectSql d.backend with
    | error e => exact Call.bind_of_error (Call.ofExcept_apply _ _)
    | ok sql =>
      exact (Call.bind_of_ok (Call.ofExcept_apply _ _)).trans (Call.bind_of_ok hactive)

/-- **A request inside a transaction.** -/
theorem executeWithin_sql (r : SqlRequest) (h : s.Active n t) :
    d.executeWithin n (.sql r) s = d.runStatement r t.connection s := by
  have hconnection : connectionOf (s.scope n) s = (.ok t.connection, s) := by
    rw [scope_of_getElem? h.here]
    exact connectionOf_apply h.outermost
  refine (Call.bind_of_ok (d.scopeRequest_of_unfinished _ h.scope_unfinished)).trans ?_
  exact (Call.bind_of_ok (Call.get_apply s)).trans (Call.bind_of_ok hconnection)

/-- A request for a collection is refused, and nothing is sent. -/
theorem executeWithin_document (r : DocumentRequest) (h : s.Active n t) :
    ∃ e, d.executeWithin n (.document r) s = (.error e, s) :=
  ⟨_, Call.bind_of_error (d.scopeRequest_of_unfinished _ h.scope_unfinished)⟩

section Statement

variable {r : SqlRequest} {connection : Nat} {server : ς}

/-- The command of a statement. -/
def statementOf (r : SqlRequest) : Command :=
  .statement (d.dialect.render r) (r.params.map Argument.ofJson)

/-- A statement that the server accepts has an output, made of the reply. -/
theorem runStatement_of_ok {reply : Reply}
    (h : d.server.send connection (d.statementOf r) s.server = (.ok reply, server)) :
    d.runStatement r connection s =
      (.ok (d.dialect.output (d.dialect.render r) reply), { s with server := server }) :=
  Call.bind_of_ok (d.send_of_ok h)

/-- A statement that it refuses is a failure of the driver. -/
theorem runStatement_of_error {e : DriverError}
    (h : d.server.send connection (d.statementOf r) s.server = (.error e, server)) :
    d.runStatement r connection s = (.error (d.failure e), { s with server := server }) :=
  Call.bind_of_error (d.send_of_error h)

end Statement

/-- A dialect without savepoints refuses a transaction inside another one, and looks at nothing. -/
theorem beginWithin_of_refusing (hn : d.dialect.nestedBegin = .refused) (n : Nat) (s : SqlStore ς) :
    d.beginWithin n s = (.error (DbError.nestedTransaction d.backend), s) := by
  rw [beginWithin, hn]
  rfl

theorem beginWithin_of_savepoint (hn : d.dialect.nestedBegin = .savepoint) (n : Nat) :
    d.beginWithin n = d.beginSavepoint n := by
  rw [beginWithin, hn]

section Within

variable {server : ς} (hn : d.dialect.nestedBegin = .savepoint) (h : s.Active n t)

include hn h

/-- **A transaction inside another one** begins with a savepoint, one level below. -/
theorem beginWithin_eq : d.beginWithin n s = (do
    let _ ← d.send t.connection (.savepoint (t.info.depth + 1))
    let serial := (← get).scopes.length
    addScope ⟨t.info.nested serial, t.connection, t.outermost, false⟩ : Call (SqlStore ς) Nat)
      s := by
  rw [d.beginWithin_of_savepoint hn, beginSavepoint]
  refine (Call.bind_of_ok (d.activeScope_apply h.here h.unfinished)).trans ?_
  exact Call.bind_of_ok (connectionOf_apply h.outermost)

/-- Once the savepoint is set, the transaction is the next one. -/
theorem beginWithin_of_ok {reply : Reply}
    (hsend : d.server.send t.connection (.savepoint (t.info.depth + 1)) s.server
      = (.ok reply, server)) :
    d.beginWithin n s = (.ok s.scopes.length, s.opened t server) := by
  rw [d.beginWithin_eq hn h]
  exact Call.bind_of_ok (d.send_of_ok hsend)

/-- A savepoint that the server refuses begins no transaction. -/
theorem beginWithin_of_error {e : DriverError}
    (hsend : d.server.send t.connection (.savepoint (t.info.depth + 1)) s.server
      = (.error e, server)) :
    d.beginWithin n s = (.error (d.failure e), { s with server := server }) := by
  rw [d.beginWithin_eq hn h]
  exact Call.bind_of_error (d.send_of_error hsend)

end Within

/-- **The end of a transaction inside another one.** It counts as ended, and one command is sent. -/
theorem endScope_nested_eq (outermost : Command) (nested : Nat → Command) (h : s.Active n t)
    (hdepth : t.info.depth ≠ 0) (hne : t.outermost ≠ n) :
    d.endScope outermost nested n s
      = (discard (d.send t.connection (nested t.info.depth)) : Call (SqlStore ς) PUnit)
        (s.finish n) := by
  -- The outermost transaction is another one, so it is still open.
  have hopen : ((s.finish n).scope t.outermost).finished = false := by
    rw [scope, List.getD_eq_getElem?_getD, getElem?_finish_of_ne hne,
      getElem?_of_unfinished h.outermost]
    exact h.outermost
  unfold endScope
  refine (Call.bind_of_ok (d.activeScope_apply h.here h.unfinished)).trans ?_
  refine (Call.bind_of_ok (Call.modify_apply _ s)).trans ?_
  rw [if_neg hdepth]
  exact Call.bind_of_ok (connectionOf_apply hopen)

/-- The end of a nested transaction finishes it and sends one command. -/
theorem endScope_nested_of_ok {nested : Nat → Command} {reply : Reply} {server : ς}
    (outermost : Command) (h : s.Active n t) (hdepth : t.info.depth ≠ 0) (hne : t.outermost ≠ n)
    (hsend : d.server.send t.connection (nested t.info.depth) s.server = (.ok reply, server)) :
    d.endScope outermost nested n s = (.ok (), { s.finish n with server := server }) := by
  rw [d.endScope_nested_eq outermost nested h hdepth hne]
  exact Call.bind_of_ok (d.send_of_ok (s := s.finish n) hsend)

/-- A nested transaction is finished even if the server refuses the command that ends it. -/
theorem endScope_nested_of_error {nested : Nat → Command} {e : DriverError} {server : ς}
    (outermost : Command) (h : s.Active n t) (hdepth : t.info.depth ≠ 0) (hne : t.outermost ≠ n)
    (hsend : d.server.send t.connection (nested t.info.depth) s.server = (.error e, server)) :
    d.endScope outermost nested n s
      = (.error (d.failure e), { s.finish n with server := server }) := by
  rw [d.endScope_nested_eq outermost nested h hdepth hne]
  exact Call.bind_of_error (d.send_of_error (s := s.finish n) hsend)

/-- The command that ends a transaction inside another one, by the answer of its work. -/
def nestedEndOf {α : Type} (depth : Nat) : Except DbError α → Command
  | .ok _ => .release depth
  | .error _ => .rollbackTo depth

/-- If the server accepts the end, the answer of the work stands. -/
theorem settle_nested_of_ok {α : Type} {answer : Except DbError α} {reply : Reply} {server : ς}
    (h : s.Active n t) (hdepth : t.info.depth ≠ 0) (hne : t.outermost ≠ n)
    (hsend : d.server.send t.connection (nestedEndOf t.info.depth answer) s.server
      = (.ok reply, server)) :
    d.adapter.settle n answer s = (answer, { s.finish n with server := server }) := by
  cases answer with
  | ok value => exact Call.bind_of_ok (d.endScope_nested_of_ok .commit h hdepth hne hsend)
  | error e => exact Call.bind_of_ok (d.endScope_nested_of_ok .rollback h hdepth hne hsend)

/-- If the server refuses it, its failure stands. -/
theorem settle_nested_of_error {α : Type} {answer : Except DbError α} {e : DriverError} {server : ς}
    (h : s.Active n t) (hdepth : t.info.depth ≠ 0) (hne : t.outermost ≠ n)
    (hsend : d.server.send t.connection (nestedEndOf t.info.depth answer) s.server
      = (.error e, server)) :
    d.adapter.settle n answer s
      = (.error (d.failure e), { s.finish n with server := server }) := by
  cases answer with
  | ok value => exact Call.bind_of_error (d.endScope_nested_of_error .commit h hdepth hne hsend)
  | error e => exact Call.bind_of_error (d.endScope_nested_of_error .rollback h hdepth hne hsend)

/-! ### Outermost transactions -/

/-- The beginning of an outermost transaction on the connection that was borrowed for it. -/
def beginOn (connection : Nat) : Call (SqlStore ς) Nat := do
  match ← ExceptT.lift (d.send connection .begin).run with
  | .ok _ =>
    let n := (← get).scopes.length
    addScope ⟨Transaction.outermost d.backend n, connection, n, false⟩
  | .error e =>
    giveBack connection
    throw e

/-- An outermost transaction is begun on a connection that was acquired before. -/
theorem beginOutermost_eq : d.beginOutermost = (do
    ensureOpen
    let connection ← d.acquire d.failure
    d.beginOn connection : Call (SqlStore ς) Nat) := rfl

/-- A beginning that the server accepts adds a transaction. -/
theorem beginOn_of_ok {connection : Nat} {reply : Reply} {server : ς}
    (h : d.server.send connection .begin s.server = (.ok reply, server)) :
    d.beginOn connection s = (.ok s.scopes.length,
      { s with
        server := server
        scopes := s.scopes ++ [⟨Transaction.outermost d.backend s.scopes.length, connection,
          s.scopes.length, false⟩] }) :=
  Call.bind_of_ok (d.lift_send_of_ok h)

/-- A refused beginning gives the connection back and is no beginning. -/
theorem beginOn_of_error {connection : Nat} {e : DriverError} {server : ς}
    (h : d.server.send connection .begin s.server = (.error e, server)) :
    d.beginOn connection s = (.error (d.failure e),
      { s with server := server, pool := s.pool.giveBack connection }) :=
  Call.bind_of_ok (d.lift_send_of_error h)

/-- **An outermost transaction that begins.** It is the next one, and its own outermost one. -/
theorem beginOutermost_eq_ok {s' : SqlStore ς} (h : d.beginOutermost s = (.ok n, s')) :
    n = s.scopes.length ∧ ∃ connection,
      s'.scopes = s.scopes ++ [⟨Transaction.outermost d.backend n, connection, n, false⟩] := by
  rw [beginOutermost_eq] at h
  obtain ⟨u, s₁, hopen, h⟩ := Call.bind_eq_ok h
  obtain ⟨connection, s₂, hacquire, h⟩ := Call.bind_eq_ok h
  have hs₁ : s₁.scopes = s.scopes := ensureOpen_keepsScopes.eq_of_apply hopen
  have hs₂ : s₂.scopes = s₁.scopes := (d.acquire_keepsScopes d.failure).eq_of_apply hacquire
  -- Neither check nor pool touches the transactions, so the number is that of before.
  rcases hsend : d.server.send connection .begin s₂.server with ⟨e | reply, after⟩
  · rw [d.beginOn_of_error hsend] at h
    exact absurd (Prod.mk.inj h).1 nofun
  · rw [d.beginOn_of_ok hsend] at h
    obtain ⟨hnumber, rfl⟩ := Prod.mk.inj h
    obtain rfl : s₂.scopes.length = n := Except.ok.inj hnumber
    refine ⟨by rw [hs₂, hs₁], connection, ?_⟩
    rw [hs₂, hs₁]

/-- One that does not begin leaves the transactions as they are. -/
theorem beginOutermost_eq_error {e : DbError} {s' : SqlStore ς}
    (h : d.beginOutermost s = (.error e, s')) : s'.scopes = s.scopes := by
  rw [beginOutermost_eq] at h
  rcases Call.bind_eq_error h with hopen | ⟨u, s₁, hopen, h⟩
  · exact ensureOpen_keepsScopes.eq_of_apply hopen
  have hs₁ : s₁.scopes = s.scopes := ensureOpen_keepsScopes.eq_of_apply hopen
  rcases Call.bind_eq_error h with hacquire | ⟨connection, s₂, hacquire, h⟩
  · exact ((d.acquire_keepsScopes d.failure).eq_of_apply hacquire).trans hs₁
  have hs₂ : s₂.scopes = s₁.scopes := (d.acquire_keepsScopes d.failure).eq_of_apply hacquire
  -- A refused beginning gives its connection back and adds nothing.
  rcases hsend : d.server.send connection .begin s₂.server with ⟨e | reply, after⟩
  · rw [d.beginOn_of_error hsend] at h
    rw [← (Prod.mk.inj h).2]
    exact hs₂.trans hs₁
  · rw [d.beginOn_of_ok hsend] at h
    exact absurd (Prod.mk.inj h).1 nofun

/-- An outermost transaction that has just begun is active. -/
theorem active_of_beginOutermost {s' : SqlStore ς} (h : d.beginOutermost s = (.ok n, s')) :
    ∃ t, s'.Active n t ∧ t.info.depth = 0 ∧ t.outermost = n := by
  obtain ⟨rfl, connection, hscopes⟩ := d.beginOutermost_eq_ok h
  have hhere : s'.scopes[s.scopes.length]? = some
      ⟨Transaction.outermost d.backend s.scopes.length, connection, s.scopes.length, false⟩ := by
    rw [hscopes, List.getElem?_append_right (Nat.le_refl _), Nat.sub_self]
    rfl
  refine ⟨_, ⟨hhere, rfl, ?_⟩, rfl, rfl⟩
  rw [scope_of_getElem? hhere]

/-- The command that ends an outermost transaction, by the answer of its work. -/
def outermostEndOf {α : Type} : Except DbError α → Command
  | .ok _ => .commit
  | .error _ => .rollback

section EndOutermost

variable {α : Type} {answer : Except DbError α} {c : Command} {server : ς} (h : s.Active n t)
  (hdepth : t.info.depth = 0)

include h hdepth

/-- **The end of an outermost transaction.** It counts as ended before the server is asked. -/
theorem endScope_outermost_eq (nested : Nat → Command) :
    d.endScope c nested n s = d.endOutermost t c (s.finish n) := by
  unfold endScope
  refine (Call.bind_of_ok (d.activeScope_apply h.here h.unfinished)).trans ?_
  refine (Call.bind_of_ok (Call.modify_apply _ s)).trans ?_
  rw [if_pos hdepth]

/-- Its connection goes back to the pool. -/
theorem endScope_outermost_of_ok {reply : Reply} (nested : Nat → Command)
    (hsend : d.server.send t.connection c s.server = (.ok reply, server)) :
    d.endScope c nested n s
      = (.ok (), { s.finish n with server := server, pool := s.pool.giveBack t.connection }) := by
  rw [d.endScope_outermost_eq h hdepth]
  exact Call.bind_of_ok (d.lift_send_of_ok (s := s.finish n) hsend)

/-- A refused end is the answer of the call. -/
theorem endScope_outermost_of_error {e : DriverError} (nested : Nat → Command)
    (hsend : d.server.send t.connection c s.server = (.error e, server)) :
    ∃ s', d.endScope c nested n s = (.error (d.failure e), s') := by
  have hlift := d.lift_send_of_error (s := s.finish n) hsend
  have hanswer : (d.endScope c nested n s).1 = .error (d.failure e) := by
    rw [d.endScope_outermost_eq h hdepth]
    exact congrArg Prod.fst (Call.bind_of_ok hlift)
  exact ⟨_, Prod.ext hanswer rfl⟩

/-- If the server accepts the end, the answer of the work stands. -/
theorem settle_outermost_of_ok {reply : Reply}
    (hsend : d.server.send t.connection (outermostEndOf answer) s.server = (.ok reply, server)) :
    d.adapter.settle n answer s
      = (answer, { s.finish n with server := server, pool := s.pool.giveBack t.connection }) := by
  cases answer with
  | ok value => exact Call.bind_of_ok (d.endScope_outermost_of_ok h hdepth .release hsend)
  | error e => exact Call.bind_of_ok (d.endScope_outermost_of_ok h hdepth .rollbackTo hsend)

/-- If the server refuses the end, its failure stands. -/
theorem settle_outermost_of_error {e : DriverError}
    (hsend : d.server.send t.connection (outermostEndOf answer) s.server = (.error e, server)) :
    (d.adapter.settle n answer s).1 = .error (d.failure e) := by
  cases answer with
  | ok value =>
    obtain ⟨s', hend⟩ := d.endScope_outermost_of_error h hdepth .release hsend
    exact congrArg Prod.fst (Call.bind_of_error hend)
  | error e' =>
    obtain ⟨s', hend⟩ := d.endScope_outermost_of_error h hdepth .rollbackTo hsend
    exact congrArg Prod.fst (Call.bind_of_error hend)

end EndOutermost

end SqlDriver

end StoreBridge
