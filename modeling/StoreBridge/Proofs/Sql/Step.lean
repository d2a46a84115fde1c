import StoreBridge.Proofs.Sql.Scope

/-!
# What calls do to the transactions of a SQL store

A beginning adds one transaction, if it is answered, and an end ends one, whatever is answered.

A call on a transaction is refused, and nothing is sent, if the transaction has ended or if its
outermost transaction has (`SqlDriver.Refuses`). Nothing else is looked at: any other call is sent
to the server on the connection of the outermost transaction (`Sends`), also if a transaction
between the two has ended.
-/

namespace StoreBridge

namespace SqlStore

variable {ς : Type} {s : SqlStore ς} {n : Nat} {t : SqlScope}

/-- Ending a transaction that has ended changes nothing. -/
theorem finish_scopes_of_finished (h : (s.scope n).finished = true) :
    (s.finish n).scopes = s.scopes := by
  refine List.ext_getElem? fun m => ?_
  -- Its own entry is marked again, and no other one is touched.
  by_cases hm : m = n
  · subst hm
    rw [finish, List.getElem?_modify_eq]
    cases hn : s.scopes[m]? with
    | none => rfl
    | some t =>
      rw [scope_of_getElem? hn] at h
      rw [Option.map_eq_map, Option.map_some, ← h]
  · exact getElem?_finish_of_ne hm

theorem scope_finish_of_ne {m : Nat} (h : m ≠ n) : (s.finish n).scope m = s.scope m := by
  rw [scope, scope, List.getD_eq_getElem?_getD, List.getD_eq_getElem?_getD, getElem?_finish_of_ne h]
  rfl

/-- A transaction that is finished is there as before, but for the mark. -/
theorem getElem?_finish_self (h : s.scopes[n]? = some t) :
    (s.finish n).scopes[n]? = some { t with finished := true } := by
  rw [finish, List.getElem?_modify_eq, h]
  rfl

/-- A transaction is active if it has not ended and its outermost one has not either. -/
theorem active_of_unfinished (hf : (s.scope n).finished = false)
    (ho : (s.scope (s.scope n).outermost).finished = false) : s.Active n (s.scope n) :=
  ⟨getElem?_of_unfinished hf, hf, ho⟩

end SqlStore

namespace SqlDriver

variable {ς : Type} (d : SqlDriver ς) {s s' : SqlStore ς} {n : Nat} {t : SqlScope}

open SqlStore

/-! ### Beginnings inside a transaction -/

section Within

variable (hn : d.dialect.nestedBegin = .savepoint)

include hn

/-- A beginning inside a transaction that has ended, or in one whose outermost has, is refused. -/
theorem beginWithin_of_refused
    (h : (s.scope n).finished = true ∨ (s.scope (s.scope n).outermost).finished = true) :
    d.beginWithin n s = (.error (s.scope n).info.inactive, s) := by
  rw [d.beginWithin_of_savepoint hn, beginSavepoint]
  cases hf : (s.scope n).finished with
  | true => exact Call.bind_of_error (d.activeScope_of_finished hf)
  | false =>
    have ho := h.resolve_left (by simp [hf])
    exact (Call.bind_of_ok (d.activeScope_of_unfinished hf)).trans
      (Call.bind_of_error (connectionOf_of_finished ho))

/-- A transaction that answers a beginning is active. -/
theorem active_of_beginWithin {m : Nat} (h : d.beginWithin n s = (.ok m, s')) :
    s.Active n (s.scope n) := by
  have hopen : ¬ ((s.scope n).finished = true ∨
      (s.scope (s.scope n).outermost).finished = true) := by
    intro hrefused
    rw [d.beginWithin_of_refused hn hrefused] at h
    exact absurd (Prod.mk.inj h).1 nofun
  rw [not_or, Bool.not_eq_true, Bool.not_eq_true] at hopen
  exact active_of_unfinished hopen.1 hopen.2

/-- **A transaction that begins inside another one** is the next one. It shares the connection and
the outermost transaction. -/
theorem beginWithin_eq_ok {m : Nat} (h : d.beginWithin n s = (.ok m, s')) :
    m = s.scopes.length ∧
      s'.scopes = s.scopes ++ [⟨(s.scope n).info.nested m, (s.scope n).connection,
        (s.scope n).outermost, false⟩] := by
  have hactive := d.active_of_beginWithin hn h
  -- It was let through, so a savepoint was sent and set.
  rcases hsend : d.server.send (s.scope n).connection (.savepoint ((s.scope n).info.depth + 1))
    s.server with ⟨e | reply, after⟩
  · rw [d.beginWithin_of_error hn hactive hsend] at h
    exact absurd (Prod.mk.inj h).1 nofun
  · rw [d.beginWithin_of_ok hn hactive hsend] at h
    obtain ⟨hm, rfl⟩ := Prod.mk.inj h
    obtain rfl : s.scopes.length = m := Except.ok.inj hm
    exact ⟨rfl, rfl⟩

/-- A nested beginning that fails begins nothing. -/
theorem beginWithin_eq_error {e : DbError} (h : d.beginWithin n s = (.error e, s')) :
    s'.scopes = s.scopes := by
  -- Either the call was refused at once, or the server has refused the savepoint.
  by_cases hrefused : (s.scope n).finished = true ∨ (s.scope (s.scope n).outermost).finished = true
  · rw [d.beginWithin_of_refused hn hrefused] at h
    rw [← (Prod.mk.inj h).2]
  · rw [not_or, Bool.not_eq_true, Bool.not_eq_true] at hrefused
    have hactive := active_of_unfinished hrefused.1 hrefused.2
    rcases hsend : d.server.send (s.scope n).connection (.savepoint ((s.scope n).info.depth + 1))
      s.server with ⟨e' | reply, after⟩
    · rw [d.beginWithin_of_error hn hactive hsend] at h
      rw [← (Prod.mk.inj h).2]
    · rw [d.beginWithin_of_ok hn hactive hsend] at h
      exact absurd (Prod.mk.inj h).1 nofun

end Within

/-! ### Refused calls -/

/-- A transaction on which every call is refused. Nothing is sent. -/
structure Refuses (n : Nat) (s : SqlStore ς) : Prop where
  execute (r : SqlRequest) :
    d.adapter.execute (.scope n) (.sql r) s = (.error (s.scope n).info.inactive, s)
  document (r : DocumentRequest) : ∃ e, d.adapter.execute (.scope n) (.document r) s = (.error e, s)
  begin : d.adapter.begin (.scope n) s = (.error (s.scope n).info.inactive, s)
  commit : ∃ s', d.adapter.commit n s = (.error (s.scope n).info.inactive, s') ∧
    s'.server = s.server
  rollback : ∃ s', d.adapter.rollback n s = (.error (s.scope n).info.inactive, s') ∧
    s'.server = s.server

/-- Inside a transaction that has ended, every request is refused. Only the failure of a request of
another kind depends on what is looked at first. -/
theorem executeWithin_of_finished (hf : (s.scope n).finished = true) (r : Request) :
    d.executeWithin n r s
      = (if d.dialect.activeFirst then .error (s.scope n).info.inactive
          else r.expectSql d.backend >>= fun _ => .error (s.scope n).info.inactive, s) := by
  have hrefused : (discard (d.activeScope n) : Call (SqlStore ς) PUnit) s
      = (.error (s.scope n).info.inactive, s) := Call.bind_of_error (d.activeScope_of_finished hf)
  unfold executeWithin scopeRequest
  -- Looked at first, the end is the failure; looked at second, it is so for requests for SQL only.
  split
  · exact Call.bind_of_error (Call.bind_of_error hrefused)
  · cases r.expectSql d.backend with
    | error e => exact Call.bind_of_error (Call.bind_of_error (Call.ofExcept_apply _ _))
    | ok sql =>
      exact Call.bind_of_error
        ((Call.bind_of_ok (Call.ofExcept_apply _ _)).trans (Call.bind_of_error hrefused))

/-- A statement in a transaction that has ended is refused for that. -/
theorem executeWithin_sql_of_finished (hf : (s.scope n).finished = true) (r : SqlRequest) :
    d.executeWithin n (.sql r) s = (.error (s.scope n).info.inactive, s) := by
  rw [d.executeWithin_of_finished hf]
  split <;> rfl

/-- A request for documents is refused in any case. -/
theorem executeWithin_document_of_finished (hf : (s.scope n).finished = true)
    (r : DocumentRequest) :
    ∃ e, d.executeWithin n (.document r) s = (.error e, s) := by
  rw [d.executeWithin_of_finished hf]
  split
  · exact ⟨_, rfl⟩
  · exact ⟨_, rfl⟩

section Refused

variable (hn : d.dialect.nestedBegin = .savepoint)

include hn

/-- **A transaction that has ended** refuses every call. -/
theorem refuses_of_finished (hf : (s.scope n).finished = true) : d.Refuses n s := by
  have hrefused := d.activeScope_of_finished hf
  exact ⟨d.executeWithin_sql_of_finished hf, d.executeWithin_document_of_finished hf,
    d.beginWithin_of_refused hn (.inl hf), ⟨s, Call.bind_of_error hrefused, rfl⟩,
    ⟨s, Call.bind_of_error hrefused, rfl⟩⟩

/-- **A transaction whose outermost one has ended** refuses every call, although it has not ended
itself. -/
theorem refuses_of_outermost_finished (hf : (s.scope n).finished = false)
    (ho : (s.scope (s.scope n).outermost).finished = true) (hdepth : (s.scope n).info.depth ≠ 0) :
    d.Refuses n s := by
  have hactive := d.activeScope_of_unfinished hf
  -- It passes for an active one, but the connection went with the outermost one.
  have hrefused : ∀ sql : SqlRequest,
      (do let connection ← connectionOf ((← get).scope n)
          d.runStatement sql connection : Call (SqlStore ς) Output) s
        = (.error (s.scope n).info.inactive, s) := by
    intro sql
    exact (Call.bind_of_ok (Call.get_apply s)).trans
      (Call.bind_of_error (connectionOf_of_finished ho))
  have hsql : ∀ r : SqlRequest,
      d.executeWithin n (.sql r) s = (.error (s.scope n).info.inactive, s) := fun r =>
    (Call.bind_of_ok (d.scopeRequest_of_unfinished _ hf)).trans (hrefused r)
  have hdocument : ∀ r : DocumentRequest, ∃ e, d.executeWithin n (.document r) s = (.error e, s) :=
    fun r => ⟨_, Call.bind_of_error (d.scopeRequest_of_unfinished _ hf)⟩
  have hend : ∀ outermost nested, ∃ s',
      d.endScope outermost nested n s = (.error (s.scope n).info.inactive, s') ∧
        s'.server = s.server := by
    intro outermost nested
    -- Its own end leaves the outermost one as it is.
    have hne : (s.scope n).outermost ≠ n := by
      intro heq
      rw [heq, hf] at ho
      exact absurd ho (by decide)
    have hfinished : ((s.finish n).scope (s.scope n).outermost).finished = true := by
      rw [scope_finish_of_ne hne, ho]
    refine ⟨s.finish n, ?_, rfl⟩
    unfold endScope
    refine (Call.bind_of_ok hactive).trans ((Call.bind_of_ok (Call.modify_apply _ s)).trans ?_)
    rw [if_neg hdepth]
    exact Call.bind_of_error (connectionOf_of_finished hfinished)
  exact ⟨hsql, hdocument, d.beginWithin_of_refused hn (.inr ho), hend _ _, hend _ _⟩

end Refused

/-! ### Ends -/

/-- The commands at the end of an outermost transaction touch no transaction. -/
theorem endOutermost_keepsScopes (t : SqlScope) (c : Command) :
    KeepsScopes (d.endOutermost t c) := by
  refine (d.send_keepsScopes t.connection c).lift_run.bind fun answer => ?_
  cases answer with
  | ok reply => exact giveBack_keepsScopes t.connection
  | error e =>
    exact (d.sendAnyway_keepsScopes t.connection .rollback).bind fun _ =>
      (giveBack_keepsScopes t.connection).bind fun _ => Call.preserves_throw e

/-- **An end** marks its transaction, whatever is answered, and changes no other one. -/
theorem endScope_scopes (outermost : Command) (nested : Nat → Command) (n : Nat) (s : SqlStore ς) :
    (d.endScope outermost nested n s).2.scopes = (s.finish n).scopes := by
  unfold endScope
  cases hf : (s.scope n).finished with
  | true => rw [Call.bind_of_error (d.activeScope_of_finished hf), finish_scopes_of_finished hf]
  | false =>
    rw [Call.bind_of_ok (d.activeScope_of_unfinished hf), Call.bind_of_ok (Call.modify_apply _ s)]
    -- What is sent behind the mark changes no transaction.
    split
    · exact d.endOutermost_keepsScopes _ _ _
    · have hrest : KeepsScopes (do
          let connection ← connectionOf (s.scope n)
          discard (d.send connection (nested (s.scope n).info.depth)) : Call (SqlStore ς) PUnit) :=
        (connectionOf_keepsScopes _).bind fun connection =>
          (d.send_keepsScopes connection _).bind fun _ => Call.preserves_ofExcept (.ok _)
      exact hrest _

end SqlDriver

/-! ### Calls that are sent -/

section Logged

open SqlStore

variable {ς : Type} {server : Server ς}

/-- A server that keeps a log answers as it does without, and the log has one command more. -/
theorem Server.logged_send {connection : Nat} {c : Command} {state : ς × List Command}
    {answer : Except DriverError Reply} {after : ς}
    (h : server.send connection c state.1 = (answer, after)) :
    server.logged.send connection c state = (answer, after, state.2 ++ [c]) := by
  have hsend : server.logged.send connection c state
      = ((server.send connection c state.1).1, (server.send connection c state.1).2,
        state.2 ++ [c]) := rfl
  rw [hsend, h]

/-- The driver of PostgreSQL on a server that writes down what is sent to it. -/
def loggedDriver (server : Server ς) : SqlDriver (ς × List Command) :=
  ⟨.postgresql, server.logged⟩

/-- What has been sent to the server. -/
def SqlStore.sent (s : SqlStore (ς × List Command)) : List Command :=
  s.server.2

/-- A transaction on which every call is sent: a statement, a savepoint, and the command that ends
it. -/
structure Sends (server : Server ς) (n : Nat) (s : SqlStore (ς × List Command)) : Prop where
  execute (r : SqlRequest) :
    ((loggedDriver server).adapter.execute (.scope n) (.sql r) s).2.sent
      = s.sent ++ [(loggedDriver server).statementOf r]
  begin : ((loggedDriver server).adapter.begin (.scope n) s).2.sent
    = s.sent ++ [.savepoint ((s.scope n).info.depth + 1)]
  commit : (s.sent ++ [if (s.scope n).info.depth = 0 then .commit
    else .release (s.scope n).info.depth]) <+: ((loggedDriver server).adapter.commit n s).2.sent
  rollback : (s.sent ++ [if (s.scope n).info.depth = 0 then .rollback
    else .rollbackTo (s.scope n).info.depth])
      <+: ((loggedDriver server).adapter.rollback n s).2.sent

variable {s : SqlStore (ς × List Command)} {n : Nat} {t : SqlScope}

/-- A statement is sent once, answered or not. -/
theorem sent_runStatement (r : SqlRequest) (connection : Nat) (s : SqlStore (ς × List Command)) :
    ((loggedDriver server).runStatement r connection s).2.sent
      = s.sent ++ [(loggedDriver server).statementOf r] := by
  rcases hsend : server.send connection ((loggedDriver server).statementOf r) s.server.1
    with ⟨e | reply, after⟩
  · rw [SqlDriver.runStatement_of_error _ (Server.logged_send hsend)]
    rfl
  · rw [SqlDriver.runStatement_of_ok _ (Server.logged_send hsend)]
    rfl

/-- The end of an outermost transaction, and one more rollback if it was refused. -/
theorem sent_endOutermost (t : SqlScope) (c : Command) (s : SqlStore (ς × List Command)) :
    (s.sent ++ [c]) <+: ((loggedDriver server).endOutermost t c s).2.sent := by
  unfold SqlDriver.endOutermost
  rcases hsend : server.send t.connection c s.server.1 with ⟨e | reply, after⟩
  · rw [Call.bind_of_ok (SqlDriver.lift_send_of_error _ (Server.logged_send hsend))]
    exact List.prefix_append _ [Command.rollback]
  · rw [Call.bind_of_ok (SqlDriver.lift_send_of_ok _ (Server.logged_send hsend))]
    exact List.prefix_rfl

/-- **The end of an active transaction** is sent. -/
theorem sent_endScope (outermost : Command) (nested : Nat → Command) (h : s.Active n t)
    (hdepth : t.info.depth = 0 ↔ t.outermost = n) :
    (s.sent ++ [if t.info.depth = 0 then outermost else nested t.info.depth])
      <+: ((loggedDriver server).endScope outermost nested n s).2.sent := by
  by_cases hzero : t.info.depth = 0
  · rw [if_pos hzero, (loggedDriver server).endScope_outermost_eq h hzero nested]
    exact sent_endOutermost t outermost (s.finish n)
  · rw [if_neg hzero, (loggedDriver server).endScope_nested_eq outermost nested h hzero
      (fun heq => hzero (hdepth.mpr heq))]
    -- Whatever is answered, the command has been written down.
    rcases hsend : server.send t.connection (nested t.info.depth) (s.finish n).server.1
      with ⟨e | reply, after⟩
    · rw [show (discard _ : Call _ PUnit) _ = _ from
        Call.bind_of_error (SqlDriver.send_of_error _ (Server.logged_send hsend))]
      exact List.prefix_rfl
    · rw [show (discard _ : Call _ PUnit) _ = _ from
        Call.bind_of_ok (SqlDriver.send_of_ok _ (Server.logged_send hsend))]
      exact List.prefix_rfl

/-- **An active transaction** sends every call: a request its statement, a beginning its savepoint
and an end the command of its depth. -/
theorem sends_of_active (h : s.Active n t) (hdepth : t.info.depth = 0 ↔ t.outermost = n) :
    Sends server n s := by
  have ht : s.scope n = t := scope_of_getElem? h.here
  refine ⟨?_, ?_, ?_, ?_⟩
  · intro r
    have hexecute : (loggedDriver server).adapter.execute (.scope n) (.sql r) s
        = (loggedDriver server).runStatement r t.connection s :=
      (loggedDriver server).executeWithin_sql r h
    rw [hexecute, sent_runStatement]
  · rw [ht]
    change ((loggedDriver server).beginWithin n s).2.sent = _
    -- The savepoint has been sent, whatever the server made of it.
    rcases hsend : server.send t.connection (.savepoint (t.info.depth + 1)) s.server.1
      with ⟨e | reply, after⟩
    · rw [(loggedDriver server).beginWithin_of_error rfl h (Server.logged_send hsend)]
      rfl
    · rw [(loggedDriver server).beginWithin_of_ok rfl h (Server.logged_send hsend)]
      rfl
  · rw [ht]
    exact sent_endScope .commit .release h hdepth
  · rw [ht]
    exact sent_endScope .rollback .rollbackTo h hdepth

end Logged

end StoreBridge
