import StoreBridge.Mongo.Store
import StoreBridge.Proofs.Adapter.Expiry
import StoreBridge.Proofs.Steps

/-!
# Ended transactions of a document store

A document store keeps the session of a transaction until it ends, and there are no transactions
inside one. Whatever runs on a session is `Quiet`: it neither begins nor ends a transaction, and no
commit or abort is among what it sends. That goes along every operation (`runOperation_quiet`), so
that only an end is left to be looked at. It sends one command, or none if the server has not heard
of the transaction (`endScope_sends`).

Quiet calls keep the whole `MongoStore.standing` of the transactions. Whether they have ended is
read off it, and so is what is known about them, which an end leaves as it is (`infos_of_ran`).
-/

namespace StoreBridge

variable {ς α β : Type}

/-- Whether a command ends a transaction. -/
def DocumentCommand.isEnd : DocumentCommand → Bool
  | .commit | .abort => true
  | _ => false

/-- The same server, which writes down what is sent to it. -/
def DocumentServer.logged (server : DocumentServer ς) :
    DocumentServer (ς × List (Session × DocumentCommand)) where
  startSession state :=
    let (answer, after) := server.startSession state.1
    (answer, after, state.2)
  select state :=
    let (answer, after) := server.select state.1
    (answer, after, state.2)
  send session c state :=
    let (answer, after) := server.send session c state.1
    (answer, after, state.2 ++ [(session, c)])
  freshId state :=
    let (id, after) := server.freshId state.1
    (id, after, state.2)
  shutdown state :=
    let (u, after) := server.shutdown state.1
    (u, after, state.2)

/-- A document store that writes down what is sent to its server. -/
abbrev LoggedMongoStore (ς : Type) := MongoStore (ς × List (Session × DocumentCommand))

/-- What the store has of the end of a transaction. There are outermost ones only. -/
def SessionScope.mark (t : SessionScope) : ScopeMark := ⟨true, t.finished⟩

/-- The same of all its transactions. -/
def MongoStore.marks (s : MongoStore ς) : List ScopeMark := s.scopes.map SessionScope.mark

/-- All that the store has of its transactions, but for whether the server has heard of them. -/
def MongoStore.standing (s : MongoStore ς) : List (Transaction × Bool) :=
  s.scopes.map fun t => (t.info, t.finished)

/-- What is known about the transactions of the store. -/
def MongoStore.infos (s : MongoStore ς) : List Transaction := s.scopes.map SessionScope.info

namespace MongoStore

variable {s : MongoStore ς} {n : Nat} {t : SessionScope}

theorem scope_of_getElem? (h : s.scopes[n]? = some t) : s.scope n = t := by
  rw [scope, List.getD_eq_getElem?_getD, h, Option.getD_some]

/-- A transaction that is marked as finished is one for the store as well. -/
theorem finished_of_marks (h : Finished s.marks n) : (s.scope n).finished = true := by
  obtain ⟨m, hm, hfinished⟩ := h
  rw [marks, List.getElem?_map, Option.map_eq_some_iff] at hm
  obtain ⟨t, ht, rfl⟩ := hm
  rw [scope_of_getElem? ht]
  exact hfinished

theorem marks_eq (s : MongoStore ς) : s.marks = s.standing.map fun p => ⟨true, p.2⟩ := by
  rw [standing, List.map_map]
  rfl

theorem infos_eq (s : MongoStore ς) : s.infos = s.standing.map Prod.fst := by
  rw [standing, List.map_map]
  rfl

/-- That the server has heard of a transaction does not end it. -/
theorem standing_started (s : MongoStore ς) (n : Nat) :
    (s.modifyScope n fun t => { t with started := true }).standing = s.standing :=
  map_modify_of_eq (by exact fun _ => rfl) s.scopes n

/-- Nor does its end change what is known about it. -/
theorem infos_finished (s : MongoStore ς) (n : Nat) :
    (s.modifyScope n fun t => { t with finished := true }).infos = s.infos :=
  map_modify_of_eq (by exact fun _ => rfl) s.scopes n

/-- Finishing a transaction marks it, and no other one. -/
theorem marks_finished (s : MongoStore ς) (n : Nat) :
    (s.modifyScope n fun t => { t with finished := true }).marks
      = s.marks.modify n ScopeMark.finish :=
  map_modify (by exact fun _ => rfl) s.scopes n

end MongoStore

/-! ### Quiet calls -/

/-- The call begins and ends no transaction, and sends nothing that does. -/
structure Quiet (c : Call (LoggedMongoStore ς) α) : Prop where
  standing : c.Preserves MongoStore.standing
  sends : c.Emits (fun s => s.server.2) fun entry => entry.2.isEnd = false

namespace Quiet

variable {c : Call (LoggedMongoStore ς) α} {k : α → Call (LoggedMongoStore ς) β}

/-- A call that keeps the transactions and the server's log. -/
theorem of_preserves (hstanding : c.Preserves MongoStore.standing)
    (hsent : c.Preserves fun s => s.server.2) : Quiet c :=
  ⟨hstanding, hsent.emits⟩

theorem marks (hc : Quiet c) : c.Preserves MongoStore.marks := fun s => by
  rw [MongoStore.marks_eq, hc.standing s, ← MongoStore.marks_eq]

theorem infos (hc : Quiet c) : c.Preserves MongoStore.infos := fun s => by
  rw [MongoStore.infos_eq, hc.standing s, ← MongoStore.infos_eq]

theorem bind (hc : Quiet c) (hk : ∀ a, Quiet (k a)) : Quiet (c >>= k) :=
  ⟨hc.standing.bind fun a => (hk a).standing, hc.sends.bind fun a => (hk a).sends⟩

theorem lift_run (hc : Quiet c) :
    Quiet (ExceptT.lift c.run : Call (LoggedMongoStore ς) (Except DbError α)) :=
  ⟨hc.standing, hc.sends⟩

theorem ofExcept (r : Except DbError α) : Quiet (Call.ofExcept r : Call (LoggedMongoStore ς) α) :=
  of_preserves (Call.preserves_ofExcept r) (Call.preserves_ofExcept r)

theorem get : Quiet (get : Call (LoggedMongoStore ς) (LoggedMongoStore ς)) :=
  of_preserves Call.preserves_get Call.preserves_get

/-- Quiet calls for the items of a list are quiet together. -/
theorem mapM {f : β → Call (LoggedMongoStore ς) α} (hf : ∀ b, Quiet (f b)) (xs : List β) :
    Quiet (xs.mapM f) := by
  induction xs with
  | nil => exact ofExcept (.ok [])
  | cons x xs ih =>
    rw [List.mapM_cons]
    exact (hf x).bind fun a => ih.bind fun as => ofExcept (.ok (a :: as))

end Quiet

namespace DocumentServer

open MongoStore

variable (server : DocumentServer ς) {n : Nat}

theorem select_quiet : Quiet (exchange server.logged.select failure) :=
  Quiet.of_preserves (fun _ => rfl) fun _ => rfl

theorem send_quiet (session : Session) {c : DocumentCommand} (hc : c.isEnd = false) :
    Quiet (exchange (server.logged.send session c) failure) :=
  ⟨fun _ => rfl, fun _ => ⟨[(session, c)], rfl, by simpa using hc⟩⟩

/-- What a request writes into the log: nothing if no server was found for it, else itself. -/
theorem request_log (session : Session) (c : DocumentCommand)
    (state : ς × List (Session × DocumentCommand)) :
    (server.logged.request session c state).2.2 = state.2 ∨
      (server.logged.request session c state).2.2 = state.2 ++ [(session, c)] := by
  -- The log is written when the request is sent, and for that a server must have been found.
  rcases hselect : server.select state.1 with ⟨e | u, after⟩
  · have hlogged : server.logged.select state = (.error e, after, state.2) := by
      change ((server.select state.1).1, (server.select state.1).2, state.2) = _
      rw [hselect]
    rw [request, step_of_error hlogged]
    exact .inl rfl
  · have hlogged : server.logged.select state = (.ok u, after, state.2) := by
      change ((server.select state.1).1, (server.select state.1).2, state.2) = _
      rw [hselect]
    rw [request, step_of_ok hlogged]
    exact .inr rfl

/-- A command that ends no transaction is quiet, also if no server is found for it. -/
theorem request_quiet (session : Session) {c : DocumentCommand} (hc : c.isEnd = false)
    (failure : DriverError → DbError) :
    Quiet (exchange (server.logged.request session c) failure) := by
  refine ⟨fun _ => rfl, fun s => ?_⟩
  rcases server.request_log session c s.server with hlog | hlog
  · exact ⟨[], by rw [List.append_nil]; exact hlog, nofun⟩
  · exact ⟨[(session, c)], hlog, by simpa using hc⟩

theorem ensureOpen_quiet : Quiet (ensureOpen : Call (LoggedMongoStore ς) Unit) :=
  Quiet.get.bind fun _ => Quiet.ofExcept _

/-- A command that ends nothing, on any handle. -/
theorem sendOn_quiet (h : Handle) {c : DocumentCommand} (hc : c.isEnd = false) :
    Quiet (server.logged.sendOn h c) := by
  cases h with
  | root => exact server.request_quiet .outside hc failure
  | scope n =>
    have hstarted : Quiet (modify fun s => s.modifyScope n fun t => { t with started := true }
        : Call (LoggedMongoStore ς) PUnit) :=
      Quiet.of_preserves (Call.preserves_modify fun s => s.standing_started n) fun _ => rfl
    exact server.select_quiet.bind fun _ => Quiet.get.bind fun s => hstarted.bind fun _ =>
      server.send_quiet (.within n (!(s.scope n).started)) hc

/-- An id is made without the server. -/
theorem identify_quiet (d : Document) : Quiet (server.logged.identify d) := by
  have hfresh : Quiet (exchange (ExceptT.lift server.logged.freshId) failure
      : Call (LoggedMongoStore ς) Bytes) := Quiet.of_preserves (fun _ => rfl) fun _ => rfl
  unfold identify
  split
  · exact Quiet.ofExcept (.ok _)
  · exact hfresh.bind fun fresh =>
      Quiet.ofExcept (.ok (Bson.objectId fresh, d.identified (Bson.objectId fresh)))

/-- Inserting is quiet, with the ids that are asked for before. -/
theorem runInsert_quiet (h : Handle) (r : DocumentRequest) (rows : List Members) :
    Quiet (server.logged.runInsert h r rows) := by
  unfold runInsert
  refine (Quiet.ofExcept _).bind fun documents => ?_
  split
  · exact Quiet.ofExcept (.ok _)
  · exact (Quiet.mapM server.identify_quiet documents).bind fun identified =>
      (server.sendOn_quiet h rfl).bind fun _ => Quiet.ofExcept (.ok _)

/-- Updating is quiet, with its check of the changes. -/
theorem runUpdate_quiet (h : Handle) (r : DocumentRequest) (u : DocumentUpdate) :
    Quiet (server.logged.runUpdate h r u) := by
  unfold runUpdate
  refine (Quiet.ofExcept _).bind fun filter => (Quiet.ofExcept _).bind fun changes => ?_
  dsimp only
  split
  · exact Quiet.ofExcept (.error _)
  · exact (server.sendOn_quiet h rfl).bind fun _ => Quiet.ofExcept (.ok _)

/-- **An operation** is quiet, whichever it is. -/
theorem runOperation_quiet (h : Handle) (r : DocumentRequest) :
    Quiet (server.logged.runOperation h r) := by
  unfold runOperation
  -- Find, delete and aggregation convert and then send one command; the other two are lemmas.
  split
  · exact (Quiet.ofExcept _).bind fun _ => (server.sendOn_quiet h rfl).bind fun _ =>
      Quiet.ofExcept (.ok _)
  · exact server.runInsert_quiet h r _
  · exact server.runUpdate_quiet h r _
  · exact (Quiet.ofExcept _).bind fun _ => (server.sendOn_quiet h rfl).bind fun _ =>
      Quiet.ofExcept (.ok _)
  · exact (Quiet.ofExcept _).bind fun _ => (server.sendOn_quiet h rfl).bind fun _ =>
      Quiet.ofExcept (.ok _)
  · exact Quiet.ofExcept (.error _)

/-- Whether a transaction has ended is looked at without a change. -/
theorem activeScope_eq (srv : DocumentServer ς) (n : Nat) (s : MongoStore ς) :
    srv.activeScope n s =
      (if (s.scope n).finished then .error (s.scope n).info.inactive else .ok (s.scope n), s) := by
  refine (Call.bind_of_ok (Call.get_apply s)).trans ?_
  cases (s.scope n).finished <;> rfl

theorem activeScope_quiet (n : Nat) : Quiet (server.logged.activeScope n) :=
  Quiet.of_preserves (fun s => by rw [activeScope_eq]) fun s => by rw [activeScope_eq]

/-- **A request** is quiet. -/
theorem execute_quiet (h : Handle) (r : Request) : Quiet (server.logged.execute h r) := by
  cases h with
  | root =>
    exact ensureOpen_quiet.bind fun _ => (Quiet.ofExcept _).bind fun request =>
      server.runOperation_quiet .root request
  | scope n =>
    exact (Quiet.ofExcept _).bind fun request => (server.activeScope_quiet n).bind fun _ =>
      server.runOperation_quiet (.scope n) request

theorem connect_quiet : Quiet server.logged.connect :=
  ensureOpen_quiet.bind fun _ => (server.request_quiet .outside rfl _).bind fun _ =>
    (server.request_quiet .outside rfl failure).lift_run.bind fun _ => Quiet.ofExcept (.ok ())

theorem openSession_quiet : Quiet server.logged.openSession :=
  ensureOpen_quiet.bind fun _ => Quiet.of_preserves (fun _ => rfl) fun _ => rfl

/-- Closing the adapter is quiet: transactions are not told. -/
theorem disconnect_quiet : Quiet server.logged.disconnect := by
  have hmarked : Quiet (modify fun s => { s with lifecycle := s.lifecycle.close.2 }
      : Call (LoggedMongoStore ς) PUnit) := Quiet.of_preserves (fun _ => rfl) fun _ => rfl
  have hleft : Quiet (exchange (ExceptT.lift server.logged.shutdown) failure) :=
    Quiet.of_preserves (fun _ => rfl) fun _ => rfl
  refine Quiet.get.bind fun s => hmarked.bind fun _ => ?_
  split
  · exact hleft
  · exact Quiet.ofExcept (.ok ())

/-! ### Ends -/

section Ends

variable {c : DocumentCommand} {s s' : LoggedMongoStore ς}

/-- An end of a transaction that has ended is refused. -/
theorem endScope_of_finished (c : DocumentCommand) (h : (s.scope n).finished = true) :
    server.logged.endScope c n s = (.error (s.scope n).info.inactive, s) := by
  refine Call.bind_of_error ?_
  rw [activeScope_eq, h]
  rfl

/-- **An end** marks the transaction as ended, whatever the server answers, and sends at most one
command. -/
theorem endScope_sends (c : DocumentCommand) (n : Nat) (s : LoggedMongoStore ς) :
    (server.logged.endScope c n s).2.marks = s.marks.modify n ScopeMark.finish ∧
      ((server.logged.endScope c n s).2.server.2 = s.server.2 ∨
        (server.logged.endScope c n s).2.server.2 = s.server.2 ++ [(.within n false, c)]) := by
  -- A transaction that has ended is refused by the first line, and marking it again changes
  -- nothing.
  cases hf : (s.scope n).finished with
  | true =>
    rw [endScope_of_finished server c hf]
    refine ⟨(modify_finish_of_finished fun mark hmark => ?_).symm, .inl rfl⟩
    rw [marks, List.getElem?_map, Option.map_eq_some_iff] at hmark
    obtain ⟨t, ht, rfl⟩ := hmark
    rwa [scope_of_getElem? ht] at hf
  | false =>
    have hactive : server.logged.activeScope n s = (.ok (s.scope n), s) := by
      rw [activeScope_eq, hf]
      rfl
    unfold endScope
    rw [Call.bind_of_ok hactive, Call.bind_of_ok (Call.modify_apply _ s)]
    split
    · -- The command goes out after the mark.
      rw [Call.lift_run_apply, Call.discard_snd]
      exact ⟨s.marks_finished n, server.request_log (.within n false) c s.server⟩
    · exact ⟨s.marks_finished n, .inl rfl⟩

/-- A commit leaves what the end of the transaction leaves. -/
theorem commit_snd (srv : DocumentServer ς) (n : Nat) (s : MongoStore ς) :
    (srv.commit n s).2 = (srv.endScope .commit n s).2 := by
  rcases hend : srv.endScope .commit n s with ⟨e | answer, s'⟩
  · rw [commit, Call.bind_of_error hend]
  · rw [commit, Call.bind_of_ok hend]
    rfl

theorem rollback_snd (srv : DocumentServer ς) (n : Nat) (s : MongoStore ς) :
    (srv.rollback n s).2 = (srv.endScope .abort n s).2 :=
  Call.discard_snd _ s

/-- **What an end sends**: nothing, or the one command that it is about. -/
theorem endScope_endSends (hc : c.isEnd = true) (hs : s' = (server.logged.endScope c n s).2)
    (outermost : Prop) (answer : Except DbError Unit) :
    ∃ new, s'.server.2 = s.server.2 ++ new ∧
      EndSends (fun entry => entry.2.isEnd) [] outermost answer new := by
  subst hs
  rcases (server.endScope_sends c n s).2 with hsent | hsent
  · exact ⟨[], by rw [hsent, List.append_nil], .nothing⟩
  · exact ⟨[(.within n false, c)], hsent, .once hc⟩

/-- A request inside a transaction that has ended is looked at first, and refused for what it is if
it is one for another kind of store. -/
theorem execute_of_finished (srv : DocumentServer ς) {s : MongoStore ς}
    (hf : (s.scope n).finished = true) (r : Request) :
    srv.execute (.scope n) r s
      = (r.expectDocument .mongodb >>= fun _ => .error (s.scope n).info.inactive, s) := by
  have hrefused : srv.activeScope n s = (.error (s.scope n).info.inactive, s) := by
    rw [activeScope_eq, hf]
    rfl
  -- The kind of the request is looked at before the transaction is.
  cases r with
  | sql r => exact Call.bind_of_error (Call.ofExcept_apply _ _)
  | document r =>
    exact (Call.bind_of_ok (Call.ofExcept_apply _ _)).trans (Call.bind_of_error hrefused)

/-- **A transaction that has ended** is inert. -/
theorem inert_of_finished (hf : (s.scope n).finished = true) :
    server.logged.adapter.Inert MongoStore.server n s := by
  have hexecute := server.logged.execute_of_finished hf
  refine ⟨fun r => ?_, ⟨_, s, rfl, rfl⟩,
    ⟨_, s, Call.bind_of_error (endScope_of_finished server .commit hf), rfl⟩,
    ⟨_, s, Call.bind_of_error (endScope_of_finished server .abort hf), rfl⟩⟩
  cases r with
  | sql r => exact ⟨_, s, hexecute (.sql r), rfl⟩
  | document r => exact ⟨_, s, hexecute (.document r), rfl⟩

end Ends

/-- **A document store keeps its promise**: an end marks its transaction, nothing else changes a
mark, and a transaction that is marked sends nothing. -/
theorem expires (init : ς × List (Session × DocumentCommand)) :
    server.logged.adapter.Expires { server := init } MongoStore.server MongoStore.marks
      (fun entry => entry.2.isEnd) [] where
  fresh := rfl
  connect := server.connect_quiet.marks
  disconnect := server.disconnect_quiet.marks
  execute h r := (server.execute_quiet h r).marks
  begun {h s s' n} hcall := by
    cases h with
    | root =>
      obtain ⟨u, s₁, hsession, hrest⟩ := Call.bind_eq_ok hcall
      have hmarks : s₁.marks = s.marks := server.openSession_quiet.marks.eq_of_apply hsession
      obtain ⟨hn, rfl⟩ := Prod.mk.inj hrest
      have hlength : s₁.scopes.length = n := Except.ok.inj hn
      -- The session that is opened for it changes no mark, so the number is that of the old marks.
      refine ⟨?_, ?_⟩
      · rw [← hlength, ← hmarks, marks, List.length_map]
      · rw [← hmarks]
        exact List.map_append
    | scope m => exact absurd (Prod.mk.inj hcall).1 nofun
  refused {h s s' e} hcall := by
    cases h with
    | root =>
      rcases Call.bind_eq_error hcall with hrefused | ⟨u, s₁, -, hrest⟩
      · exact server.openSession_quiet.marks.eq_of_apply hrefused
      · exact absurd (Prod.mk.inj hrest).1 nofun
    | scope m => rw [← (Prod.mk.inj hcall).2]
  commit n s := by
    rw [← (server.endScope_sends .commit n s).1, ← server.logged.commit_snd]
    rfl
  rollback n s := by
    rw [← (server.endScope_sends .abort n s).1, ← server.logged.rollback_snd]
    rfl
  executeSends n r := (server.execute_quiet (.scope n) r).sends
  beginSends n := Call.Preserves.emits fun _ => rfl
  commitSends {n s s' answer} hcall := by
    have hs' := server.logged.commit_snd n s
    rw [show server.logged.commit n s = _ from hcall] at hs'
    exact server.endScope_endSends rfl hs' _ answer
  rollbackSends {n s s' answer} hcall := by
    have hs' := server.logged.rollback_snd n s
    rw [show server.logged.rollback n s = _ from hcall] at hs'
    exact server.endScope_endSends rfl hs' _ answer
  inert _ hfinished := server.inert_of_finished (finished_of_marks hfinished)

/-! ### What is known about a transaction -/

/-- The end of a transaction does not change who it was. -/
theorem endScope_infos (srv : DocumentServer ς) (c : DocumentCommand) (n : Nat) :
    (srv.endScope c n).Preserves MongoStore.infos := by
  have hactive : (srv.activeScope n).Preserves MongoStore.infos := fun s => by rw [activeScope_eq]
  have hsend : (exchange (srv.request (.within n false) c) failure).Preserves MongoStore.infos :=
    fun _ => rfl
  have hdiscard : (discard (exchange (srv.request (.within n false) c) failure)
      : Call (MongoStore ς) PUnit).Preserves MongoStore.infos := fun s => by
    rw [Call.discard_snd, hsend s]
  refine hactive.bind fun t => (Call.preserves_modify fun s => s.infos_finished n).bind fun _ => ?_
  -- Either the command is sent and its answer kept, or nothing is.
  split
  · exact hdiscard.lift_run
  · exact Call.preserves_ofExcept (.ok (Except.ok ()))

/-- A beginning adds an outermost transaction, if it adds any. -/
theorem begin_infos (srv : DocumentServer ς) (h : Handle) (s : MongoStore ς) :
    (srv.begin h s).2.infos = s.infos ∨
      (srv.begin h s).2.infos = s.infos ++ [Transaction.outermost .mongodb s.infos.length] := by
  cases h with
  | scope m => exact .inl rfl
  | root =>
    have hkept : (srv.openSession s).2.infos = s.infos :=
      Call.Preserves.bind (fun _ => rfl) (fun _ _ => rfl) s
    -- No session, no transaction; opening one changes none that is known.
    rcases hopen : srv.openSession s with ⟨e | u, s₁⟩
    · rw [begin, Call.bind_of_error hopen]
      rw [hopen] at hkept
      exact .inl hkept
    · rw [begin, Call.bind_of_ok hopen]
      rw [hopen] at hkept
      have hlength : s.infos.length = s₁.scopes.length := by
        rw [← hkept]
        exact List.length_map _
      rw [hlength, ← hkept]
      exact .inr List.map_append

/-- The transactions of a store are outermost ones, and each is named by its number. -/
theorem infos_of_ran {init : ς × List (Session × DocumentCommand)} {log : List Occurrence}
    {s : LoggedMongoStore ς} (hran : server.logged.adapter.Ran { server := init } log s) :
    s.infos = (List.range s.infos.length).map (Transaction.outermost .mongodb) := by
  have hkept : ∀ {s s' : LoggedMongoStore ς}, s'.infos = s.infos →
      s.infos = (List.range s.infos.length).map (Transaction.outermost .mongodb) →
      s'.infos = (List.range s'.infos.length).map (Transaction.outermost .mongodb) := by
    intro s s' hinfos h
    rw [hinfos]
    exact h
  -- On the history. Only a beginning adds to what is known, and it numbers what it adds.
  induction hran with
  | start => rfl
  | connect _ ih => exact hkept (server.connect_quiet.infos _) ih
  | disconnect _ ih => exact hkept (server.disconnect_quiet.infos _) ih
  | execute h r _ _ hcall ih =>
    exact hkept ((server.execute_quiet h r).infos.eq_of_apply hcall) ih
  | @begin log s s' answer h _ _ hcall ih =>
    have hbegin := server.logged.begin_infos h s
    rw [show server.logged.begin h s = _ from hcall] at hbegin
    rcases hbegin with hsame | hadded
    · exact hkept hsame ih
    · dsimp only at hadded
      rw [hadded, List.length_append, List.length_singleton, List.range_succ, List.map_append, ← ih]
      rfl
  | @commit log s s' answer n _ _ hcall ih =>
    have hend := server.logged.commit_snd n s
    rw [show server.logged.commit n s = _ from hcall] at hend
    refine hkept ?_ ih
    dsimp only at hend
    rw [hend, endScope_infos]
  | @rollback log s s' answer n _ _ hcall ih =>
    have hend := server.logged.rollback_snd n s
    rw [show server.logged.rollback n s = _ from hcall] at hend
    refine hkept ?_ ih
    dsimp only at hend
    rw [hend, endScope_infos]

/-- The id of a transaction stays the one made from its number. -/
theorem info_id_of_ran {init : ς × List (Session × DocumentCommand)} {log : List Occurrence}
    {s : LoggedMongoStore ς} (hran : server.logged.adapter.Ran { server := init } log s) (n : Nat) :
    (s.scope n).info.id = Transaction.idOfSerial n := by
  -- What is known about the transaction with the number `n` is the entry number `n`.
  cases ht : s.scopes[n]? with
  | some t =>
    have hinfo : s.infos[n]? = some t.info := by
      rw [infos, List.getElem?_map, ht]
      rfl
    rw [server.infos_of_ran hran, List.getElem?_map, Option.map_eq_some_iff] at hinfo
    obtain ⟨m, hm, hinfo⟩ := hinfo
    obtain ⟨hlt, rfl⟩ := List.getElem?_eq_some_iff.mp hm
    rw [scope_of_getElem? ht, ← hinfo, List.getElem_range]
    rfl
  | none =>
    -- The number was never handed out.
    rw [scope, List.getD_eq_getElem?_getD, ht]
    rfl

end DocumentServer

end StoreBridge
