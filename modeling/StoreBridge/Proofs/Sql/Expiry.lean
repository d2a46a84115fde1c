import StoreBridge.Proofs.Adapter.Expiry
import StoreBridge.Proofs.Sql.Lineage

/-!
# Ended transactions of a SQL store

A SQL store keeps two things of a transaction that decide what becomes of a call: whether it has
ended, and which transaction is the outermost one around it. An end is marked before the server is
asked, so it counts whatever is answered (`SqlDriver.endScope_sends`).

A call on a transaction that has ended is refused on sight, whatever the dialect looks at first and
whether its transactions nest or not (`inert_of_finished`). What holds of a transaction when it
begins, and is no matter of its end, holds of it in every history (`each_of_ran`): that is how it
keeps its id (`info_id_of_ran`).

On PostgreSQL a transaction is inert as well once the outermost one around it has ended
(`nested_inert`).
-/

namespace StoreBridge

variable {ς : Type}

/-- Whether a command ends a transaction, or a savepoint. -/
def Command.isEnd : Command → Bool
  | .commit | .rollback | .release _ | .rollbackTo _ => true
  | _ => false

/-- What the store has of the end of a transaction. -/
def SqlScope.mark (t : SqlScope) : ScopeMark := ⟨decide (t.info.depth = 0), t.finished⟩

/-- The same of all its transactions. -/
def SqlStore.marks (s : SqlStore ς) : List ScopeMark := s.scopes.map SqlScope.mark

/-- The driver of a dialect, on a server that writes down what is sent to it. -/
def Dialect.on (dialect : Dialect) (server : Server ς) : SqlDriver (ς × List Command) :=
  ⟨dialect, server.logged⟩

namespace SqlStore

variable {s : SqlStore ς} {n : Nat}

theorem marks_finish (s : SqlStore ς) (n : Nat) :
    (s.finish n).marks = s.marks.modify n ScopeMark.finish :=
  map_modify (by exact fun _ => rfl) s.scopes n

/-- A transaction that is marked as finished is one that the store has, and has finished. -/
theorem finished_of_marks (h : Finished s.marks n) :
    s.scopes[n]? = some (s.scope n) ∧ (s.scope n).finished = true := by
  obtain ⟨m, hm, hfinished⟩ := h
  rw [marks, List.getElem?_map, Option.map_eq_some_iff] at hm
  obtain ⟨t, ht, rfl⟩ := hm
  rw [scope_of_getElem? ht]
  exact ⟨ht, hfinished⟩

/-- A transaction of depth zero that is not finished is marked as outermost. -/
theorem outermost_of_depth (hf : (s.scope n).finished = false)
    (hdepth : (s.scope n).info.depth = 0) :
    Outermost s.marks n := by
  refine ⟨(s.scope n).mark, ?_, decide_eq_true hdepth⟩
  rw [marks, List.getElem?_map, getElem?_of_unfinished hf]
  rfl

/-- Something is true of every transaction of the store, by its number. -/
def Each (P : Nat → SqlScope → Prop) (s : SqlStore ς) : Prop :=
  ∀ (n : Nat) (t : SqlScope), s.scopes[n]? = some t → P n t

variable {s' : SqlStore ς} {t : SqlScope} {P : Nat → SqlScope → Prop}

/-- What is said of all transactions depends on the transactions only. -/
theorem Each.of_scopes (h : s.Each P) (hs : s'.scopes = s.scopes) : s'.Each P := by
  intro n t ht
  rw [hs] at ht
  exact h n t ht

/-- One more transaction of the kind is of the kind, and so are all of them. -/
theorem Each.concat (h : s.Each P) (ht : P s.scopes.length t) (hs : s'.scopes = s.scopes ++ [t]) :
    s'.Each P := by
  intro n u hu
  rw [hs] at hu
  -- A number is one of before, or that of the new transaction.
  by_cases hn : n < s.scopes.length
  · rw [List.getElem?_append_left hn] at hu
    exact h n u hu
  · have hbound := (List.getElem?_eq_some_iff.mp hu).1
    rw [List.length_append, List.length_singleton] at hbound
    obtain rfl : n = s.scopes.length := by omega
    rw [List.getElem?_concat_length] at hu
    rwa [← Option.some.inj hu]

/-- What an end does not touch stays true. -/
theorem Each.finish (h : s.Each P) (hP : ∀ n t, P n t → P n { t with finished := true }) (n : Nat) :
    (s.finish n).Each P := by
  intro m t ht
  rw [SqlStore.finish, List.getElem?_modify, Option.map_eq_map, Option.map_eq_some_iff] at ht
  obtain ⟨u, hu, rfl⟩ := ht
  split
  · exact hP m u (h m u hu)
  · exact h m u hu

end SqlStore

namespace SqlDriver

variable (d : SqlDriver ς) {s s' : SqlStore ς} {n : Nat} {h : Handle}

open SqlStore

/-! ### Beginnings and ends -/

/-- A beginning that fails begins nothing. -/
theorem begin_eq_error {e : DbError} (hcall : d.begin h s = (.error e, s')) :
    s'.scopes = s.scopes := by
  cases h with
  | root => exact d.beginOutermost_eq_error hcall
  | scope n =>
    -- A dialect that refuses changes nothing at all; the other one adds a transaction last.
    cases hn : d.dialect.nestedBegin with
    | savepoint => exact d.beginWithin_eq_error hn hcall
    | refused =>
      have hrefused : d.beginWithin n s = (.error e, s') := hcall
      rw [d.beginWithin_of_refusing hn] at hrefused
      rw [(Prod.mk.inj hrefused).2]

/-- **A transaction that begins** is the next one, and it is running. Its id is made from its
number. -/
theorem begin_eq_ok (hcall : d.begin h s = (.ok n, s')) :
    n = s.scopes.length ∧ ∃ t, s'.scopes = s.scopes ++ [t] ∧ t.mark = ⟨decide (h = .root), false⟩ ∧
      t.info.id = Transaction.idOfSerial n := by
  cases h with
  | root =>
    obtain ⟨hn, connection, hscopes⟩ := d.beginOutermost_eq_ok hcall
    exact ⟨hn, _, hscopes, rfl, rfl⟩
  | scope m =>
    -- Inside a transaction only a dialect with savepoints begins one.
    cases hn : d.dialect.nestedBegin with
    | savepoint =>
      obtain ⟨hlength, hscopes⟩ := d.beginWithin_eq_ok hn hcall
      refine ⟨hlength, _, hscopes, ?_, rfl⟩
      simp [SqlScope.mark, Transaction.nested]
    | refused =>
      have hrefused : d.beginWithin m s = (.ok n, s') := hcall
      rw [d.beginWithin_of_refusing hn] at hrefused
      exact absurd (Prod.mk.inj hrefused).1 nofun

/-- **What is true of every transaction that begins** and is not touched by an end is true of every
transaction in every history. -/
theorem each_of_ran {P : Nat → SqlScope → Prop} {o : PoolOptions} {init : ς} {log : List Occurrence}
    (hbegun : ∀ {h n s s'}, d.begin h s = (.ok n, s') →
      n = s.scopes.length ∧ ∃ t, s'.scopes = s.scopes ++ [t] ∧ P n t)
    (hP : ∀ n t, P n t → P n { t with finished := true })
    (hran : d.adapter.Ran (d.start o init) log s) : s.Each P := by
  -- On the history: beginnings add one transaction, ends mark one, and all other calls keep them.
  induction hran with
  | start => nofun
  | connect _ ih => exact ih.of_scopes (d.connect_keepsScopes _)
  | disconnect _ ih => exact ih.of_scopes (d.disconnect_keepsScopes _)
  | execute h r _ _ hcall ih => exact ih.of_scopes ((d.execute_keepsScopes h r).eq_of_apply hcall)
  | @begin log s s' answer h _ _ hcall ih =>
    cases answer with
    | error e => exact ih.of_scopes (d.begin_eq_error hcall)
    | ok m =>
      obtain ⟨rfl, t, hscopes, ht⟩ := hbegun hcall
      exact ih.concat ht hscopes
  | @commit log s s' answer n _ _ hcall ih =>
    have hscopes := d.endScope_scopes .commit .release n s
    rw [show d.endScope .commit .release n s = _ from hcall] at hscopes
    exact (ih.finish hP n).of_scopes hscopes
  | @rollback log s s' answer n _ _ hcall ih =>
    have hscopes := d.endScope_scopes .rollback .rollbackTo n s
    rw [show d.endScope .rollback .rollbackTo n s = _ from hcall] at hscopes
    exact (ih.finish hP n).of_scopes hscopes

section Histories

variable {o : PoolOptions} {init : ς} {log : List Occurrence}

/-- The id of a transaction stays the one made from its number. -/
theorem info_id_of_ran (hran : d.adapter.Ran (d.start o init) log s) (n : Nat) :
    (s.scope n).info.id = Transaction.idOfSerial n := by
  have heach : s.Each fun n t => t.info.id = Transaction.idOfSerial n :=
    d.each_of_ran
      (fun hcall => by
        obtain ⟨hnumber, t, hscopes, -, hid⟩ := d.begin_eq_ok hcall
        exact ⟨hnumber, t, hscopes, hid⟩)
      (fun _ _ h => h) hran
  cases ht : s.scopes[n]? with
  | some t =>
    rw [scope_of_getElem? ht]
    exact heach n t ht
  | none =>
    -- The number was never handed out.
    rw [scope, List.getD_eq_getElem?_getD, ht]
    rfl

end Histories

/-! ### Inert transactions -/

variable {d}

/-- A transaction on which every call is refused sends nothing more. -/
theorem Refuses.inert (h : d.Refuses n s) : d.adapter.Inert SqlStore.server n s where
  execute r := by
    cases r with
    | sql r => exact ⟨_, s, h.execute r, rfl⟩
    | document r =>
      obtain ⟨e, he⟩ := h.document r
      exact ⟨e, s, he, rfl⟩
  begin := ⟨_, s, h.begin, rfl⟩
  commit := by
    obtain ⟨s', hcommit, hserver⟩ := h.commit
    exact ⟨_, s', hcommit, hserver⟩
  rollback := by
    obtain ⟨s', hrollback, hserver⟩ := h.rollback
    exact ⟨_, s', hrollback, hserver⟩

/-- **A transaction that has ended** is inert. -/
theorem inert_of_finished (hf : (s.scope n).finished = true) :
    d.adapter.Inert SqlStore.server n s := by
  cases hn : d.dialect.nestedBegin with
  | savepoint => exact (d.refuses_of_finished hn hf).inert
  | refused =>
    -- Without savepoints each call looks at the transaction for itself, in its own order.
    have hend : ∀ outermost nested,
        d.endScope outermost nested n s = (.error (s.scope n).info.inactive, s) :=
      fun _ _ => Call.bind_of_error (d.activeScope_of_finished hf)
    refine ⟨fun r => ?_, ⟨_, s, d.beginWithin_of_refusing hn n s, rfl⟩, ⟨_, s, hend _ _, rfl⟩,
      ⟨_, s, hend _ _, rfl⟩⟩
    cases r with
    | sql r => exact ⟨_, s, d.executeWithin_sql_of_finished hf r, rfl⟩
    | document r =>
      obtain ⟨e, he⟩ := d.executeWithin_document_of_finished hf r
      exact ⟨e, s, he, rfl⟩

end SqlDriver

/-! ### What calls send -/

section Sent

variable (dialect : Dialect) (server : Server ς) {s s' : SqlStore (ς × List Command)} {n : Nat}

open SqlStore SqlDriver

/-- The call sends nothing that ends a transaction or a savepoint. -/
abbrev SendsNoEnd {α : Type} (c : Call (SqlStore (ς × List Command)) α) : Prop :=
  c.Emits (fun s => s.server.2) (Command.isEnd · = false)

theorem send_sendsNoEnd (connection : Nat) {c : Command} (hc : c.isEnd = false) :
    SendsNoEnd ((dialect.on server).send connection c) :=
  fun _ => ⟨[c], rfl, by simpa using hc⟩

/-- **A request** sends no command that ends a transaction, whatever the handle and whether it is
refused or runs. -/
theorem executeWithin_sendsNoEnd (n : Nat) (r : Request) :
    SendsNoEnd ((dialect.on server).executeWithin n r) := by
  have hactive : SendsNoEnd
      (discard ((dialect.on server).activeScope n) : Call (SqlStore (ς × List Command)) PUnit) :=
    Call.Preserves.emits fun s => by rw [Call.discard_snd, activeScope_eq]
  -- The checks send nothing, in whichever order the dialect makes them.
  have hsql : SendsNoEnd ((dialect.on server).scopeRequest n r) := by
    unfold scopeRequest
    split
    · exact hactive.bind fun _ => Call.Preserves.emits (Call.preserves_ofExcept _)
    · exact (Call.Preserves.emits (Call.preserves_ofExcept _)).bind fun sql => hactive.bind fun _ =>
        Call.Preserves.emits (Call.preserves_ofExcept (.ok sql))
  have hconnection : ∀ t, SendsNoEnd (connectionOf t : Call (SqlStore (ς × List Command)) Nat) :=
    fun t => Call.Preserves.emits fun s => by rw [connectionOf_eq]
  have hstatement : ∀ sql connection,
      SendsNoEnd ((dialect.on server).runStatement sql connection) :=
    fun sql connection => (send_sendsNoEnd dialect server connection rfl).bind fun _ =>
      Call.Preserves.emits (Call.preserves_ofExcept (.ok _))
  -- Only the statement itself is sent, and that is no end.
  exact hsql.bind fun sql => (Call.Preserves.emits Call.preserves_get).bind fun s =>
    (hconnection _).bind fun connection => hstatement sql connection

/-- **A beginning inside a transaction** ends nothing. -/
theorem beginWithin_sendsNoEnd (n : Nat) : SendsNoEnd ((dialect.on server).beginWithin n) := by
  intro s
  cases hn : (dialect.on server).dialect.nestedBegin with
  | refused =>
    rw [beginWithin_of_refusing _ hn]
    exact ⟨[], by simp, by simp⟩
  | savepoint =>
    by_cases hrefused : (s.scope n).finished = true ∨
        (s.scope (s.scope n).outermost).finished = true
    · rw [beginWithin_of_refused _ hn hrefused]
      exact ⟨[], by simp, by simp⟩
    · rw [not_or, Bool.not_eq_true, Bool.not_eq_true] at hrefused
      rw [beginWithin_eq _ hn (active_of_unfinished hrefused.1 hrefused.2)]
      -- A savepoint is sent, and a savepoint ends nothing.
      have hrest : SendsNoEnd (do
          let _ ← (dialect.on server).send (s.scope n).connection
            (.savepoint ((s.scope n).info.depth + 1))
          let serial := (← get).scopes.length
          addScope ⟨(s.scope n).info.nested serial, (s.scope n).connection, (s.scope n).outermost,
            false⟩ : Call (SqlStore (ς × List Command)) Nat) :=
        (send_sendsNoEnd dialect server _ rfl).bind fun _ =>
          (Call.Preserves.emits Call.preserves_get).bind fun _ =>
            Call.Preserves.emits fun _ => rfl
      exact hrest s

/-- The command that ends a savepoint is all that is sent. -/
theorem sent_discard_send (connection : Nat) (c : Command) (s : SqlStore (ς × List Command)) :
    ((discard ((dialect.on server).send connection c) : Call _ PUnit) s).2.server.2
      = s.server.2 ++ [c] := by
  rw [Call.discard_snd]
  rfl

/-- The end of an outermost transaction is sent, and one more rollback if the server has refused
it. -/
theorem endOutermost_sends {t : SqlScope} {c : Command} {answer : Except DbError Unit}
    (hcall : (dialect.on server).endOutermost t c s = (answer, s')) :
    s'.server.2 = s.server.2 ++ [c] ∨
      (∃ e, answer = .error e) ∧ s'.server.2 = s.server.2 ++ [c, .rollback] := by
  unfold endOutermost at hcall
  -- A refused end leaves the connection to the driver, which rolls back what is open on it.
  rcases hsend : server.send t.connection c s.server.1 with ⟨e | reply, after⟩
  · rw [Call.bind_of_ok
      (lift_send_of_error (dialect.on server) (Server.logged_send hsend))] at hcall
    obtain ⟨hanswer, hafter⟩ := Prod.mk.inj hcall
    refine .inr ⟨⟨_, hanswer.symm⟩, ?_⟩
    rw [← hafter]
    exact List.append_assoc _ [c] [Command.rollback]
  · rw [Call.bind_of_ok (lift_send_of_ok (dialect.on server) (Server.logged_send hsend))] at hcall
    exact .inl (by rw [← (Prod.mk.inj hcall).2])

/-- **An end** sends one command, if it is not refused at once. If the server refuses that of an
outermost transaction, one more rollback follows. -/
theorem endScope_sends {outermost : Command} {nested : Nat → Command} {answer : Except DbError Unit}
    (houtermost : outermost.isEnd = true) (hnested : ∀ depth, (nested depth).isEnd = true)
    (hcall : (dialect.on server).endScope outermost nested n s = (answer, s')) :
    ∃ new, s'.server.2 = s.server.2 ++ new ∧
      EndSends Command.isEnd [.rollback] (Outermost s.marks n) answer new := by
  cases hf : (s.scope n).finished with
  | true =>
    have hrefused : (dialect.on server).endScope outermost nested n s
        = (.error (s.scope n).info.inactive, s) :=
      Call.bind_of_error (activeScope_of_finished _ hf)
    rw [hcall] at hrefused
    obtain ⟨rfl, rfl⟩ := Prod.mk.inj hrefused
    exact ⟨[], by rw [List.append_nil], .nothing⟩
  | false =>
    -- It is marked as ended first; what is sent depends on its depth.
    unfold endScope at hcall
    rw [Call.bind_of_ok (activeScope_of_unfinished _ hf), Call.bind_of_ok (Call.modify_apply _ s)]
      at hcall
    by_cases hdepth : (s.scope n).info.depth = 0
    · rw [if_pos hdepth] at hcall
      rcases endOutermost_sends dialect server hcall with hsent | ⟨⟨e, rfl⟩, hsent⟩
      · exact ⟨[outermost], hsent, .once houtermost⟩
      · exact ⟨[outermost, .rollback], hsent, .refused houtermost (outermost_of_depth hf hdepth)⟩
    · rw [if_neg hdepth] at hcall
      -- Inside an outermost transaction that has ended there is no connection to send on.
      cases ho : ((s.finish n).scope (s.scope n).outermost).finished with
      | true =>
        rw [Call.bind_of_error (connectionOf_of_finished ho)] at hcall
        have hsent : s'.server.2 = s.server.2 ++ [] := by
          rw [← (Prod.mk.inj hcall).2, List.append_nil]
          rfl
        exact ⟨[], hsent, .nothing⟩
      | false =>
        rw [Call.bind_of_ok (connectionOf_apply ho)] at hcall
        have hsent := sent_discard_send dialect server (s.scope n).connection
          (nested (s.scope n).info.depth) (s.finish n)
        rw [hcall] at hsent
        exact ⟨[nested (s.scope n).info.depth], hsent, .once (hnested _)⟩

/-- **A SQL store keeps its promise**: an end marks its transaction, a refused commit is followed by
the driver's rollback at most, and a transaction that is marked sends nothing. -/
theorem sql_expires (o : PoolOptions) (init : ς × List Command) :
    (dialect.on server).adapter.Expires ((dialect.on server).start o init) SqlStore.server
      SqlStore.marks Command.isEnd [.rollback] where
  fresh := rfl
  connect s := congrArg (List.map SqlScope.mark) ((dialect.on server).connect_keepsScopes s)
  disconnect s := congrArg (List.map SqlScope.mark) ((dialect.on server).disconnect_keepsScopes s)
  execute h r s := congrArg (List.map SqlScope.mark) ((dialect.on server).execute_keepsScopes h r s)
  begun {h s s' n} hcall := by
    obtain ⟨hn, t, hscopes, hmark, -⟩ := begin_eq_ok _ hcall
    -- The next number is the number of the transactions so far.
    refine ⟨by rw [hn, marks, List.length_map], ?_⟩
    rw [marks, hscopes, List.map_append, List.map_singleton, hmark]
    rfl
  refused hcall := congrArg (List.map SqlScope.mark) (begin_eq_error _ hcall)
  commit n s := by
    rw [← marks_finish]
    exact congrArg (List.map SqlScope.mark) ((dialect.on server).endScope_scopes _ _ n s)
  rollback n s := by
    rw [← marks_finish]
    exact congrArg (List.map SqlScope.mark) ((dialect.on server).endScope_scopes _ _ n s)
  executeSends := executeWithin_sendsNoEnd dialect server
  beginSends := beginWithin_sendsNoEnd dialect server
  commitSends hcall := endScope_sends dialect server rfl (fun _ => rfl) hcall
  rollbackSends hcall := endScope_sends dialect server rfl (fun _ => rfl) hcall
  inert _ hfinished := inert_of_finished (finished_of_marks hfinished).2

end Sent

/-! ### Nested transactions -/

/-- **A transaction of PostgreSQL whose outermost one has ended** is inert. -/
theorem nested_inert {server : Server ς} {o : PoolOptions} {init : ς × List Command}
    {log : List Occurrence} {s : SqlStore (ς × List Command)} {root n : Nat}
    (hran : (Dialect.postgresql.on server).adapter.Ran
      ((Dialect.postgresql.on server).start o init) log s)
    (hroot : Occurrence.begun .root (.ok root) ∈ log)
    (hline : Relation.ReflTransGen (Child log) root n) (hended : Ended log root) :
    (Dialect.postgresql.on server).adapter.Inert SqlStore.server n s := by
  have htracked := (sql_expires .postgresql server o init).tracked hran
  have htraced := traced_of_ran (Dialect.postgresql.on server) rfl hran
  -- What was handed out is known to the store.
  have hhere : ∀ m, (Handle.scope m).Known log → s.scopes[m]? = some (s.scope m) := by
    intro m hm
    have hsome := List.getElem?_eq_getElem ((htraced.known m).mp hm)
    rw [SqlStore.scope_of_getElem? hsome, hsome]
  have hknown : (Handle.scope n).Known log := by
    rcases hline.cases_tail with rfl | ⟨m, -, hchild⟩
    · exact ⟨.root, hroot⟩
    · exact ⟨.scope m, hchild⟩
  have ht := htraced.scopes n _ (hhere n hknown)
  -- The line down to a transaction has one upper end, so the store has the one that has ended.
  have houtermost : (s.scope n).outermost = root := htracked.root_unique ht.root hroot ht.line hline
  have hrootFinished : (s.scope root).finished = true :=
    (htraced.scopes root _ (hhere root ⟨.root, hroot⟩)).finished.mpr hended
  cases hf : (s.scope n).finished with
  | true => exact (SqlDriver.refuses_of_finished _ rfl hf).inert
  | false =>
    -- It is not the outermost one itself, since that one has ended.
    have hdepth : (s.scope n).info.depth ≠ 0 := by
      intro hzero
      have hself : root = n := houtermost.symm.trans (ht.depth.mp hzero)
      rw [← hself, hrootFinished] at hf
      exact absurd hf (by decide)
    rw [← houtermost] at hrootFinished
    exact (SqlDriver.refuses_of_outermost_finished _ rfl hf hrootFinished hdepth).inert

end StoreBridge
