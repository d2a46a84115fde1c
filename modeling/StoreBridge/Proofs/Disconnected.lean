import StoreBridge.Proofs.Mongo.Failure
import StoreBridge.Proofs.Sql.Expiry
import StoreBridge.Proofs.Sql.Failure

/-!
# Disconnected adapters

An adapter is open until it is disconnected, and closed ever after. What a list of calls on it
answers is therefore known as soon as it has been disconnected: `AdapterCall.whenClosed` is the
answer of each call, and no call changes anything, the server with what it was sent included. Until
then no call fails as on a closed adapter.

Two laws of an adapter are enough for that, beside its calls being orderly: disconnecting closes it,
and a call on a closed adapter is answered without a change (`Adapter.Closing`). What a run of calls
keeps is the lifecycle, up to whether it is closed.

The answer on a closed adapter is not the same on every store. Oracle looks at the request before it
looks at the adapter, so a request for a collection is refused for what it is.
-/

namespace StoreBridge

variable {σ ς : Type}

/-! ### Calls on an adapter -/

/-- A call on an adapter itself. -/
inductive AdapterCall where
  | connect
  | disconnect
  | execute (r : Request)
  | begin
  deriving DecidableEq

namespace AdapterCall

/-- Makes the call. What a success brings is dropped. -/
def on (a : Adapter σ) : AdapterCall → Call σ Unit
  | .connect => a.connect
  | .disconnect => a.disconnect
  | .execute r => discard (a.execute .root r)
  | .begin => discard (a.begin .root)

/-- What the call answers on an adapter that has been disconnected. -/
def whenClosed (b : Backend) : AdapterCall → Except DbError Unit
  | .disconnect => .ok ()
  | .execute (.document _) =>
    .error (if b = .oracle then DbError.sqlOnly b else DbError.disconnected b)
  | _ => .error (DbError.disconnected b)

end AdapterCall

namespace Adapter

/-- Makes calls one after the other: their answers, and the state after the last one. -/
def runCalls (a : Adapter σ) : List AdapterCall → σ → List (Except DbError Unit) × σ
  | [], s => ([], s)
  | c :: calls, s =>
    let rest := a.runCalls calls (c.on a s).2
    ((c.on a s).1 :: rest.1, rest.2)

/-- **Disconnected for good.** Before the first disconnect no call fails as on a closed adapter.
After one, whatever was called before it and whatever is called later, every answer is the one of a
closed adapter, and nothing changes any more. -/
structure ClosesForGood (a : Adapter σ) (start : σ) : Prop where
  before : ∀ calls, AdapterCall.disconnect ∉ calls →
    .error (DbError.disconnected a.backend) ∉ (a.runCalls calls start).1
  after : ∀ calls later,
    a.runCalls later (a.runCalls (calls ++ [.disconnect]) start).2
      = (later.map (AdapterCall.whenClosed a.backend),
          (a.runCalls (calls ++ [.disconnect]) start).2)

/-- The laws of an adapter that closes. -/
structure Closing (a : Adapter σ) (lifecycle : σ → Lifecycle) : Prop where
  orderly : a.Orderly lifecycle
  disconnect : ∀ s, lifecycle (a.disconnect s).2 = (lifecycle s).close.2
  closed : ∀ s, lifecycle s = ⟨a.backend, true⟩ →
    ∀ c : AdapterCall, c.on a s = (c.whenClosed a.backend, s)

section Runs

variable {a : Adapter σ} {lifecycle : σ → Lifecycle} (ha : a.Closing lifecycle)

/-- Calls after other calls are made in the state that those left. -/
theorem runCalls_append (calls later : List AdapterCall) (s : σ) :
    (a.runCalls (calls ++ later) s).2 = (a.runCalls later (a.runCalls calls s).2).2 := by
  induction calls generalizing s with
  | nil => rfl
  | cons c calls ih => exact ih (c.on a s).2

include ha

/-- Every call but a disconnect is orderly. -/
theorem Closing.on_orderly {c : AdapterCall} (hc : c ≠ .disconnect) :
    (c.on a).Orderly a.backend lifecycle := by
  cases c with
  | connect => exact ha.orderly.connect
  | disconnect => exact absurd rfl hc
  | execute r => exact (ha.orderly.execute .root r).discard
  | begin => exact (ha.orderly.begin .root).discard

/-- **One call on an open adapter** leaves it open, and does not fail as on a closed one. -/
theorem Closing.on_open {c : AdapterCall} (hc : c ≠ .disconnect) {s : σ}
    (hs : (lifecycle s).closed = false) :
    lifecycle (c.on a s).2 = lifecycle s ∧
      (c.on a s).1 ≠ .error (DbError.disconnected a.backend) := by
  refine ⟨(ha.on_orderly hc).keeps s, fun herror => ?_⟩
  exact (ha.on_orderly hc).ne_disconnected (Prod.ext herror rfl) hs a.backend rfl

/-- A run without a disconnect. -/
theorem Closing.runCalls_open {calls : List AdapterCall} (hcalls : .disconnect ∉ calls) {s : σ}
    (hs : (lifecycle s).closed = false) :
    .error (DbError.disconnected a.backend) ∉ (a.runCalls calls s).1 := by
  -- On the calls: each is made on an open adapter, and leaves it open for the next one.
  induction calls generalizing s with
  | nil => exact List.not_mem_nil
  | cons c calls ih =>
    obtain ⟨hc, hrest⟩ := List.ne_and_not_mem_of_not_mem_cons hcalls
    obtain ⟨hkept, hanswer⟩ := ha.on_open hc.symm hs
    intro hmem
    rcases List.mem_cons.mp hmem with herror | hmem
    · exact hanswer herror.symm
    · exact ih hrest (by rw [hkept, hs]) hmem

/-- Every call leaves the adapter one of its backend. -/
theorem Closing.runCalls_backend (calls : List AdapterCall) (s : σ) :
    (lifecycle (a.runCalls calls s).2).backend = (lifecycle s).backend := by
  induction calls generalizing s with
  | nil => rfl
  | cons c calls ih =>
    refine (ih _).trans ?_
    -- A disconnect closes the adapter, and every other call keeps it as it is.
    by_cases hc : c = .disconnect
    · subst hc
      have hclosed : lifecycle (AdapterCall.disconnect.on a s).2 = (lifecycle s).close.2 :=
        ha.disconnect s
      rw [hclosed]
      rfl
    · rw [(ha.on_orderly hc).keeps s]

/-- **A run on a closed adapter** changes nothing. -/
theorem Closing.runCalls_closed {s : σ} (hs : lifecycle s = ⟨a.backend, true⟩)
    (calls : List AdapterCall) :
    a.runCalls calls s = (calls.map (AdapterCall.whenClosed a.backend), s) := by
  induction calls with
  | nil => rfl
  | cons c calls ih =>
    rw [runCalls, ha.closed s hs c, ih]
    rfl

/-- An adapter that closes with its lifecycle stays closed once it is, since nothing opens a
lifecycle. -/
theorem Closing.closesForGood {start : σ} (hstart : lifecycle start = ⟨a.backend, false⟩) :
    a.ClosesForGood start where
  before calls hcalls := ha.runCalls_open hcalls (by rw [hstart])
  after calls later := by
    refine ha.runCalls_closed ?_ later
    -- Whatever was called before, the disconnect closes an adapter of the same backend.
    have hbackend : (lifecycle (a.runCalls calls start).2).backend = a.backend := by
      rw [ha.runCalls_backend calls start, hstart]
    have hclosed : lifecycle (a.runCalls (calls ++ [.disconnect]) start).2
        = (lifecycle (a.runCalls calls start).2).close.2 := by
      rw [runCalls_append]
      exact ha.disconnect _
    rw [hclosed, Lifecycle.close, hbackend]

end Runs

end Adapter

/-! ### The stores -/

/-- What is closed stays as it is, and closing it again says so. -/
theorem Lifecycle.close_of_closed {l : Lifecycle} (h : l.closed = true) : l.close = (false, l) := by
  have hsame : ({ l with closed := true } : Lifecycle) = l := by rw [← h]
  rw [close, hsame, h]
  rfl

namespace SqlDriver

variable (d : SqlDriver ς) {s : SqlStore ς}

/-- A closed SQL store is refused before anything else. -/
theorem ensureOpen_of_closed {b : Backend} (h : s.lifecycle = ⟨b, true⟩) :
    (SqlStore.ensureOpen : Call (SqlStore ς) Unit) s = (.error (DbError.disconnected b), s) := by
  refine (Call.bind_of_ok (Call.get_apply s)).trans ?_
  rw [Call.ofExcept_apply, h]
  rfl

/-- A request to a closed adapter. The dialect decides what is looked at first. -/
theorem rootRequest_of_closed (h : s.lifecycle = ⟨d.backend, true⟩)
    (hd : d.dialect.requestFirst = decide (d.backend = .oracle)) (r : Request) :
    ∃ e, d.rootRequest r s = (.error e, s) ∧
      AdapterCall.whenClosed d.backend (.execute r) = .error e := by
  -- Oracle looks at the request first, the other stores at the adapter.
  by_cases ho : d.backend = .oracle
  · have hfirst : d.dialect.requestFirst = true := by rw [hd, decide_eq_true ho]
    unfold rootRequest
    rw [if_pos hfirst]
    cases r with
    | sql r =>
      refine ⟨_, (Call.bind_of_ok (Call.ofExcept_apply _ _)).trans
        (Call.bind_of_error (ensureOpen_of_closed h)), rfl⟩
    | document r =>
      refine ⟨_, Call.bind_of_error (Call.ofExcept_apply _ _), ?_⟩
      exact congrArg Except.error (if_pos ho)
  · have hfirst : ¬ d.dialect.requestFirst = true := by rw [hd, decide_eq_true_iff]; exact ho
    unfold rootRequest
    rw [if_neg hfirst]
    refine ⟨_, Call.bind_of_error (ensureOpen_of_closed h), ?_⟩
    cases r with
    | sql r => rfl
    | document r => exact congrArg Except.error (if_neg ho)

/-- **A disconnect** closes the adapter, whatever becomes of its pool. -/
theorem disconnect_lifecycle (s : SqlStore ς) :
    (d.disconnect s).2.lifecycle = s.lifecycle.close.2 := by
  unfold disconnect
  rw [Call.bind_of_ok (Call.get_apply s), Call.bind_of_ok (Call.modify_apply _ s)]
  split
  · exact d.closePool_preserves (fun _ _ => rfl) (fun _ _ => rfl) _
  · rfl

/-- On a closed adapter there is nothing left to close. -/
theorem disconnect_of_closed (h : s.lifecycle.closed = true) : d.disconnect s = (.ok (), s) := by
  unfold disconnect
  rw [Call.bind_of_ok (Call.get_apply s), Call.bind_of_ok (Call.modify_apply _ s),
    Lifecycle.close_of_closed h, if_neg Bool.false_ne_true]
  rfl

/-- A SQL store closes with its lifecycle: once that is closed, every call fails in front of the
server. -/
theorem closing (hd : d.dialect.requestFirst = decide (d.backend = .oracle)) :
    d.adapter.Closing SqlStore.lifecycle where
  orderly := d.orderly
  disconnect := d.disconnect_lifecycle
  closed s h c := by
    cases c with
    | connect => exact Call.bind_of_error (ensureOpen_of_closed h)
    | disconnect => exact d.disconnect_of_closed (by rw [h])
    | execute r =>
      obtain ⟨e, hrequest, hanswer⟩ := d.rootRequest_of_closed h hd r
      have hcall : d.execute .root r s = (.error e, s) := Call.bind_of_error hrequest
      exact (Call.bind_of_error hcall).trans (by rw [← hanswer]; rfl)
    | begin =>
      have hcall : d.begin .root s = (.error (DbError.disconnected d.backend), s) :=
        Call.bind_of_error (ensureOpen_of_closed h)
      exact Call.bind_of_error hcall

end SqlDriver

namespace DocumentServer

variable (server : DocumentServer ς) {s : MongoStore ς}

/-- A closed document store is refused before anything else. -/
theorem ensureOpen_of_closed {b : Backend} (h : s.lifecycle = ⟨b, true⟩) :
    (MongoStore.ensureOpen : Call (MongoStore ς) Unit) s
      = (.error (DbError.disconnected b), s) := by
  refine (Call.bind_of_ok (Call.get_apply s)).trans ?_
  rw [Call.ofExcept_apply, h]
  rfl

/-- **A disconnect** closes this adapter as well. -/
theorem disconnect_lifecycle (s : MongoStore ς) :
    (server.disconnect s).2.lifecycle = s.lifecycle.close.2 := by
  unfold disconnect
  rw [Call.bind_of_ok (Call.get_apply s), Call.bind_of_ok (Call.modify_apply _ s)]
  split <;> rfl

/-- The client of a closed adapter is not shut down again. -/
theorem disconnect_of_closed (h : s.lifecycle.closed = true) :
    server.disconnect s = (.ok (), s) := by
  unfold disconnect
  rw [Call.bind_of_ok (Call.get_apply s), Call.bind_of_ok (Call.modify_apply _ s),
    Lifecycle.close_of_closed h, if_neg Bool.false_ne_true]
  rfl

/-- A document store closes with its lifecycle as well. -/
theorem closing : server.adapter.Closing MongoStore.lifecycle where
  orderly := server.orderly
  disconnect := server.disconnect_lifecycle
  closed s h c := by
    cases c with
    | connect => exact Call.bind_of_error (ensureOpen_of_closed h)
    | disconnect => exact server.disconnect_of_closed (by rw [h])
    | execute r =>
      have hcall : server.execute .root r s = (.error (DbError.disconnected .mongodb), s) :=
        Call.bind_of_error (ensureOpen_of_closed h)
      refine (Call.bind_of_error hcall).trans ?_
      cases r <;> rfl
    | begin =>
      have hcall : server.begin .root s = (.error (DbError.disconnected .mongodb), s) :=
        Call.bind_of_error (Call.bind_of_error (ensureOpen_of_closed h))
      exact Call.bind_of_error hcall

end DocumentServer

/-- **A disconnected adapter stays disconnected**, whatever its server is and however it was
configured. On PostgreSQL, MySQL, SQLite and MongoDB every call but a disconnect then fails as on a
closed adapter. On Oracle so does every call but a disconnect and a request for a collection. -/
theorem disconnected_for_good (ς : Type) :
    (∀ dialect ∈ [Dialect.postgresql, .mysql, .sqlite, .oracle],
      ∀ (server : Server ς) (o : PoolOptions) (init : ς),
        (dialect.on server).adapter.ClosesForGood ((dialect.on server).start o (init, []))) ∧
    ∀ (server : DocumentServer ς) (init : ς),
      server.logged.adapter.ClosesForGood { server := (init, []) } := by
  refine ⟨?_, ?_⟩
  · intro dialect hdialect server o init
    -- Oracle is the only one of the four that looks at a request first.
    have horder : dialect.requestFirst = decide (dialect.backend = .oracle) := by
      simp only [List.mem_cons, List.not_mem_nil, or_false] at hdialect
      rcases hdialect with rfl | rfl | rfl | rfl <;> rfl
    exact ((dialect.on server).closing horder).closesForGood rfl
  · intro server init
    exact server.logged.closing.closesForGood rfl

/-- A request for a collection. -/
def findPeople : Request :=
  .document ⟨"people", { DocumentOperation.empty with find := some [] }⟩

/-- A MySQL store that has not been used yet. -/
def unusedStore : SqlStore (Unit × List Command) :=
  (Dialect.mysql.on .accepting).start {} ((), [])

/-- Calls on a MySQL adapter before it is disconnected, and after it. -/
theorem unusedStore_disconnected :
    AdapterCall.disconnect ∉ [AdapterCall.connect, .begin] ∧
      .error (DbError.disconnected .mysql)
        ∉ ((Dialect.mysql.on .accepting).adapter.runCalls [.connect, .begin] unusedStore).1 ∧
      ((Dialect.mysql.on .accepting).adapter.runCalls [.execute findPeople, .begin, .disconnect]
          ((Dialect.mysql.on .accepting).adapter.runCalls [.connect, .disconnect] unusedStore).2).1
        = [.error (DbError.disconnected .mysql), .error (DbError.disconnected .mysql), .ok ()] := by
  obtain ⟨hsql, -⟩ := disconnected_for_good Unit
  -- What holds of every MySQL server holds of this one.
  have hmysql := hsql .mysql (by simp) .accepting {} ()
  have hopen : AdapterCall.disconnect ∉ [AdapterCall.connect, .begin] := by decide
  have hclosed := hmysql.after [.connect] [.execute findPeople, .begin, .disconnect]
  exact ⟨hopen, hmysql.before [.connect, .begin] hopen, congrArg Prod.fst hclosed⟩

/-- **Oracle looks at the request first.** A request for a collection is not answered as on a closed
adapter. -/
theorem oracle_disconnected_document :
    ((Dialect.oracle.on .accepting).adapter.runCalls
        [.disconnect, .execute findPeople] ((Dialect.oracle.on .accepting).start {} ((), []))).1
      = [.ok (), .error (DbError.sqlOnly .oracle)] ∧
    DbError.sqlOnly .oracle ≠ DbError.disconnected .oracle :=
  ⟨rfl, nofun⟩

end StoreBridge
