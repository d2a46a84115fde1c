import StoreBridge.Proofs.Adapter.Failure
import StoreBridge.Proofs.Checked
import StoreBridge.Proofs.Mongo.Expiry

/-!
# How calls on a document store fail

Whatever a document store has to read of a request, it reads before the server hears of anything:
all the documents of an insert, the filter and the changes of an update, all stages of an
aggregation. What cannot be read is a compile error. After that an id may be made and a command
sent, and only the server fails (`DocumentServer.orderly`), on the adapter and in a session alike.
-/

namespace StoreBridge

/-! ### Reading documents -/

/-- An object that makes no document is a compile error. -/
theorem Document.ofMembers_compileError {ms : Members} {e : DbError}
    (h : Document.ofMembers ms = .error e) : e.isCompileError = true := by
  unfold Document.ofMembers at h
  split at h
  · exact absurd h nofun
  · rw [← Except.error.inj h]
    rfl
  · rw [← Except.error.inj h]
    rfl

/-- A stage that is none is a compile error. -/
theorem DocumentServer.stage_compileError {value : Json} {e : DbError}
    (h : DocumentServer.stage value = .error e) : e.isCompileError = true := by
  cases value with
  | object ms => exact Document.ofMembers_compileError h
  | null | bool | int | double | string | array =>
    rw [← Except.error.inj h]
    rfl

namespace DocumentServer

variable {ς α : Type} (server : DocumentServer ς)

open MongoStore

/-! ### Exchanges -/

/-- An exchange fails as the driver says, and never closes the adapter. -/
theorem exchange_driven {failure : DriverError → DbError} (hf : ∀ e, (failure e).OfDriver .mongodb)
    (x : Exchange ς α) : (exchange x failure).Driven .mongodb MongoStore.lifecycle where
  keeps _ := rfl
  fails s e s' hcall := by
    have hanswer : (x s.server).1.mapError failure = .error e := (Prod.mk.inj hcall).1
    exact .of_mapError hf hanswer

theorem failure_ofDriver (e : DriverError) : (MongoStore.failure e).OfDriver .mongodb :=
  .failed e

/-- A command on any handle. That the transaction has started is noted, which is no matter of the
adapter. -/
theorem sendOn_driven (h : Handle) (c : DocumentCommand) :
    (server.sendOn h c).Driven .mongodb MongoStore.lifecycle := by
  cases h with
  | root => exact exchange_driven failure_ofDriver (server.request .outside c)
  | scope n =>
    refine (exchange_driven failure_ofDriver server.select).bind fun _ => .of_eq fun s => ⟨do
        modify fun s => s.modifyScope n fun t => { t with started := true }
        exchange (server.send (.within n (!(s.scope n).started)) c) failure,
      .bind (.modify fun _ => rfl) fun _ => exchange_driven failure_ofDriver _, ?_⟩
    exact Call.bind_of_ok (Call.get_apply s)

/-- A document without an id gets one, for which the server is not asked. -/
theorem identify_driven (d : Document) :
    (server.identify d).Driven .mongodb MongoStore.lifecycle := by
  unfold identify
  split
  · exact .pure _
  · exact (exchange_driven failure_ofDriver _).bind fun _ => .pure _

/-! ### Operations -/

section Operations

variable (h : Handle) (r : DocumentRequest)

/-- A filter is read without the server. -/
theorem ofMembers_checks (ms : Members) :
    (Call.ofExcept (Document.ofMembers ms) : Call (MongoStore ς) Document).Checks
      MongoStore.lifecycle :=
  .ofExcept fun _ => Document.ofMembers_compileError

/-- What is read item by item is read without the server. -/
theorem mapM_checks {β : Type} {f : β → Except DbError α}
    (hf : ∀ x e, f x = .error e → e.isCompileError = true) (xs : List β) :
    (Call.ofExcept (xs.mapM f) : Call (MongoStore ς) (List α)).Checks MongoStore.lifecycle := by
  refine .ofExcept fun e he => ?_
  obtain ⟨x, -, hfail⟩ := mapM_eq_error he
  exact hf x e hfail

theorem runFind_orderly (filter : Members) :
    (server.runFind h r filter).Orderly .mongodb MongoStore.lifecycle := by
  refine (ofMembers_checks filter).bind fun document => Call.Driven.orderly ?_
  exact (server.sendOn_driven h _).bind fun _ => .pure _

/-- The rows of an insert are read before anything is sent. -/
theorem runInsert_orderly (rows : List Members) :
    (server.runInsert h r rows).Orderly .mongodb MongoStore.lifecycle := by
  unfold runInsert
  refine (mapM_checks (fun _ _ => Document.ofMembers_compileError) rows).bind fun documents =>
    Call.Driven.orderly ?_
  split
  · exact .pure _
  · -- All documents have been read when the first id is made.
    refine (Call.Driven.mapM server.identify_driven documents).bind fun identified => ?_
    exact (server.sendOn_driven h _).bind fun _ => .pure _

/-- The conditions and the changes of an update are read before it is sent, and may be refused for
want of an operator. -/
theorem runUpdate_orderly (u : DocumentUpdate) :
    (server.runUpdate h r u).Orderly .mongodb MongoStore.lifecycle := by
  unfold runUpdate
  refine (ofMembers_checks u.filter).bind fun filter => ?_
  refine (ofMembers_checks u.changes).bind fun changes => Call.Driven.orderly ?_
  dsimp only
  split
  · -- It is the driver that refuses a replacement, and this is no compile error.
    exact .throw (failure_ofDriver _)
  · exact (server.sendOn_driven h _).bind fun _ => .pure _

theorem runDelete_orderly (filter : Members) :
    (server.runDelete h r filter).Orderly .mongodb MongoStore.lifecycle := by
  refine (ofMembers_checks filter).bind fun document => Call.Driven.orderly ?_
  exact (server.sendOn_driven h _).bind fun _ => .pure _

/-- All stages are read before the first one is sent. -/
theorem runAggregate_orderly (stages : List Json) :
    (server.runAggregate h r stages).Orderly .mongodb MongoStore.lifecycle := by
  refine (mapM_checks (fun _ _ => stage_compileError) stages).bind fun documents =>
    Call.Driven.orderly ?_
  exact (server.sendOn_driven h _).bind fun _ => .pure _

/-- **An operation** is read before it is sent, whichever it is. -/
theorem runOperation_orderly :
    (server.runOperation h r).Orderly .mongodb MongoStore.lifecycle := by
  unfold runOperation
  split
  · exact server.runFind_orderly h r _
  · exact server.runInsert_orderly h r _
  · exact server.runUpdate_orderly h r _
  · exact server.runDelete_orderly h r _
  · exact server.runAggregate_orderly h r _
  · exact (Call.Checks.throw rfl).orderly

end Operations

/-! ### Calls -/

/-- Looking whether the adapter is open is a check. -/
theorem ensureOpen_checks :
    (ensureOpen : Call (MongoStore ς) Unit).Checks MongoStore.lifecycle where
  unchanged _ := rfl
  fails _ _ _ hcall := Lifecycle.refusal_of_ensureOpen (Prod.mk.inj hcall).1

/-- Looking at the kind of the request is a check. -/
theorem expectDocument_checks (r : Request) :
    (Call.ofExcept (r.expectDocument .mongodb) : Call (MongoStore ς) DocumentRequest).Checks
      MongoStore.lifecycle := by
  refine .ofExcept fun e he => ?_
  cases r with
  | document r => exact absurd he nofun
  | sql r =>
    rw [← Except.error.inj he]
    rfl

theorem activeScope_checks (n : Nat) : (server.activeScope n).Checks MongoStore.lifecycle :=
  .of_ended (server.activeScope_eq n)

/-- Connecting asks the driver once the adapter is known to be open. -/
theorem connect_orderly : server.connect.Orderly .mongodb MongoStore.lifecycle := by
  have hunreachable : ∀ e : DriverError, (connectError .mongodb e.text).OfDriver .mongodb :=
    fun e => .unreachable e.text
  refine ensureOpen_checks.bind fun _ => Call.Driven.orderly ?_
  refine (exchange_driven hunreachable _).bind fun _ => ?_
  -- The version is asked for, and a failure of that is no failure.
  exact (exchange_driven failure_ofDriver _).lift_bind fun _ _ => .pure _

/-- **A request** is checked first, on the adapter and in a transaction. -/
theorem execute_orderly (h : Handle) (r : Request) :
    (server.execute h r).Orderly .mongodb MongoStore.lifecycle := by
  cases h with
  | root =>
    refine ensureOpen_checks.bind fun _ => (expectDocument_checks r).bind fun request => ?_
    exact server.runOperation_orderly .root request
  | scope n =>
    refine (expectDocument_checks r).bind fun request => ?_
    refine (server.activeScope_checks n).bind fun _ => ?_
    exact server.runOperation_orderly (.scope n) request

theorem openSession_orderly : server.openSession.Orderly .mongodb MongoStore.lifecycle :=
  ensureOpen_checks.bind fun _ => (exchange_driven failure_ofDriver server.startSession).orderly

/-- **A beginning** is refused, or it is a matter of the driver. -/
theorem begin_orderly (h : Handle) : (server.begin h).Orderly .mongodb MongoStore.lifecycle := by
  cases h with
  | root =>
    -- Once there is a session, nothing is refused any more.
    exact server.openSession_orderly.andThen fun _ =>
      ⟨fun _ => rfl, fun _ _ _ hcall => absurd (Prod.mk.inj hcall).1 nofun⟩
  | scope n => exact (Call.Checks.throw rfl).orderly

/-- **A document store reads first**, whatever its server is. -/
theorem orderly : server.adapter.Orderly MongoStore.lifecycle where
  connect := server.connect_orderly
  execute := server.execute_orderly
  begin := server.begin_orderly

end DocumentServer

end StoreBridge
