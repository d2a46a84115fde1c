import StoreBridge.Adapter.Database
import StoreBridge.Proofs.Mongo.Expiry
import StoreBridge.Proofs.Sql.Expiry

/-!
# Refused nesting

The holder of a transaction may call on its handle whatever an adapter answers, also what a
transaction has no use for: to connect and to disconnect, and, on a store whose transactions do not
nest, to begin a transaction inside. Such calls are idle. `Adapter.runHandle` makes a list of calls
on a transaction and ends it, and `Adapter.IgnoresNesting` says that the run is the same when its
idle calls are left out.

One fact about a store carries this: a beginning inside a transaction is refused, and the store is
as before (`Adapter.RefusesNesting`). The work of a refused transaction is not run. It is arbitrary
here and may write to further state beside the store, and nothing is written there.

Whether a store refuses is decided by the beginning that its dialect has, and not by what the store
reports of itself. On PostgreSQL a beginning inside an active transaction is a matter of the server
(`SqlDriver.beginWithin_ok_iff`). That the report of every store is right (`Dialect.reports_iff`) is
therefore checked dialect by dialect.
-/

namespace StoreBridge

variable {σ τ ς : Type}

/-! ### Calls on a handle -/

/-- A call on the handle of a transaction that does not end the transaction. -/
inductive HandleCall (σ : Type) : Type 1 where
  | execute (r : Request)
  | begin
  /-- Runs work in a transaction inside. -/
  | transaction (β : Type) (work : Nat → Call σ β)
  | connect
  | disconnect

namespace HandleCall

/-- What the call answers. -/
abbrev Answer : HandleCall σ → Type
  | .execute _ => Except DbError Output
  | .begin => Except DbError Nat
  | .transaction β _ => Except DbError β
  | .connect => Except DbError Unit
  | .disconnect => Except DbError Unit

/-- Makes the call on a transaction. -/
def on (a : Adapter σ) (n : Nat) : (c : HandleCall σ) → σ → c.Answer × σ
  | .execute r => a.execute (.scope n) r
  | .begin => a.begin (.scope n)
  | .transaction _ work => a.transaction (.scope n) work
  | .connect => a.connectOn (.scope n)
  | .disconnect => a.disconnectOn (.scope n)

/-- Whether the call runs a request. -/
def isRequest : HandleCall σ → Bool
  | .execute _ => true
  | _ => false

end HandleCall

/-- A call with its answer. -/
structure Answered (σ : Type) where
  call : HandleCall σ
  answer : call.Answer

/-- The answers that idle calls get where transactions do not nest. -/
inductive Answered.Idle (b : Backend) : Answered σ → Prop
  | begin : Idle b ⟨.begin, .error (DbError.nestedTransaction b)⟩
  | transaction (β : Type) (work : Nat → Call σ β) :
      Idle b ⟨.transaction β work, .error (DbError.nestedTransaction b)⟩
  | connect : Idle b ⟨.connect, .ok ()⟩
  | disconnect : Idle b ⟨.disconnect, .ok ()⟩

/-- How the holder of a transaction ends it. -/
inductive Ending where
  | commit
  | rollback

/-- What becomes of the calls on a transaction: their answers, the answer of the end, and the state
after it. -/
structure HandleRun (σ : Type) where
  answers : List (Answered σ)
  outcome : Except DbError Unit
  after : σ

namespace Adapter

/-- Ends a transaction. -/
def endBy (a : Adapter σ) : Ending → Nat → Call σ Unit
  | .commit => a.commit
  | .rollback => a.rollback

/-- Makes calls on a transaction, one after the other, and ends it. -/
def runHandle (a : Adapter σ) (n : Nat) (ending : Ending) :
    List (HandleCall σ) → σ → HandleRun σ
  | [], s => ⟨[], (a.endBy ending n s).1, (a.endBy ending n s).2⟩
  | c :: calls, s =>
    let rest := a.runHandle n ending calls (c.on a n s).2
    { rest with answers := ⟨c, (c.on a n s).1⟩ :: rest.answers }

/-- A beginning inside a transaction is refused, and nothing else happens. -/
def RefusesNesting (a : Adapter σ) : Prop :=
  ∀ (n : Nat) (s : σ), a.begin (.scope n) s = (.error (DbError.nestedTransaction a.backend), s)

/-- **Idle calls are ignored.** Calls are made on a transaction, in any order and with any work,
next to further state that the work may write to. Every call that is no request is idle, and without
these calls everything else is the same: the answers of the requests, the answer of the end, and the
store with its server. The further state is as it was. -/
structure IgnoresNesting (a : Adapter σ) (n : Nat) (ending : Ending) (τ : Type)
    (calls : List (HandleCall (σ × τ))) (s : σ × τ) : Prop where
  idle : ∀ x ∈ (a.beside.runHandle n ending calls s).answers, x.call.isRequest = false →
    x.Idle a.backend
  answers : (a.beside.runHandle n ending (calls.filter (·.isRequest)) s).answers
    = (a.beside.runHandle n ending calls s).answers.filter (·.call.isRequest)
  outcome : (a.beside.runHandle n ending (calls.filter (·.isRequest)) s).outcome
    = (a.beside.runHandle n ending calls s).outcome
  after : (a.beside.runHandle n ending (calls.filter (·.isRequest)) s).after
    = (a.beside.runHandle n ending calls s).after
  untouched : (a.beside.runHandle n ending calls s).after.2 = s.2

section Refusal

variable {a : Adapter σ}

/-- Further state beside the store makes no difference to a refusal. -/
theorem RefusesNesting.beside (ha : a.RefusesNesting) :
    (a.beside : Adapter (σ × τ)).RefusesNesting := by
  intro n s
  have hbegin : (a.beside : Adapter (σ × τ)).begin (.scope n) s
      = ((a.begin (.scope n) s.1).1, (a.begin (.scope n) s.1).2, s.2) := rfl
  rw [hbegin, ha n s.1]
  rfl

/-- **An idle call** on any handle leaves the store as it is, and its answer is one that an idle
call may give. -/
theorem RefusesNesting.on_idle (ha : a.RefusesNesting) {c : HandleCall σ}
    (hc : c.isRequest = false) (n : Nat) (s : σ) :
    (c.on a n s).2 = s ∧ Answered.Idle a.backend ⟨c, (c.on a n s).1⟩ := by
  cases c with
  | execute r => exact absurd hc.symm Bool.false_ne_true
  | begin =>
    have hcall : HandleCall.on a n .begin s = (.error (DbError.nestedTransaction a.backend), s) :=
      ha n s
    rw [hcall]
    exact ⟨rfl, .begin⟩
  | transaction β work =>
    -- The transaction does not begin, so its work is not looked at.
    have hcall : HandleCall.on a n (.transaction β work) s
        = (.error (DbError.nestedTransaction a.backend), s) := transaction_of_refused (ha n s)
    rw [hcall]
    exact ⟨rfl, .transaction β work⟩
  | connect => exact ⟨rfl, .connect⟩
  | disconnect => exact ⟨rfl, .disconnect⟩

/-- Without the idle calls of a run, the rest of it is the same. -/
theorem RefusesNesting.run (ha : a.RefusesNesting) (n : Nat) (ending : Ending)
    (calls : List (HandleCall σ)) (s : σ) :
    a.runHandle n ending (calls.filter (·.isRequest)) s
        = { a.runHandle n ending calls s with
            answers := (a.runHandle n ending calls s).answers.filter (·.call.isRequest) } ∧
      ∀ x ∈ (a.runHandle n ending calls s).answers, x.call.isRequest = false →
        x.Idle a.backend := by
  -- On the calls. A request is the first call of both runs, and an idle call, which changes
  -- nothing, is only there in one of them.
  induction calls generalizing s with
  | nil => exact ⟨rfl, by simp [runHandle]⟩
  | cons c calls ih =>
    obtain ⟨hrest, hidle⟩ := ih (c.on a n s).2
    cases hc : c.isRequest with
    | true =>
      refine ⟨?_, fun x hx hfalse => ?_⟩
      · have hkeep : (a.runHandle n ending (c :: calls) s).answers.filter (·.call.isRequest)
            = ⟨c, (c.on a n s).1⟩
              :: (a.runHandle n ending calls (c.on a n s).2).answers.filter (·.call.isRequest) :=
          List.filter_cons_of_pos hc
        -- Both runs make the request, and go on from the same state.
        rw [hkeep, List.filter_cons_of_pos hc, runHandle, runHandle, hrest]
      · rcases List.mem_cons.mp hx with rfl | hx
        · exact absurd hc (Bool.eq_false_iff.mp hfalse)
        · exact hidle x hx hfalse
    | false =>
      obtain ⟨hstate, hanswer⟩ := ha.on_idle hc n s
      rw [hstate] at hrest hidle
      have hskip : ¬ c.isRequest = true := by rw [hc]; decide
      refine ⟨?_, fun x hx hfalse => ?_⟩
      · have hdrop : (a.runHandle n ending (c :: calls) s).answers.filter (·.call.isRequest)
            = (a.runHandle n ending calls (c.on a n s).2).answers.filter (·.call.isRequest) :=
          List.filter_cons_of_neg hskip
        rw [hdrop, List.filter_cons_of_neg hskip, runHandle, hstate, hrest]
      · rw [runHandle, hstate] at hx
        rcases List.mem_cons.mp hx with rfl | hx
        · exact hanswer
        · exact hidle x hx hfalse

/-- Requests on the adapter next to further state do not touch that state. -/
theorem runHandle_beside_snd (a : Adapter σ) (n : Nat) (ending : Ending)
    {calls : List (HandleCall (σ × τ))} (hcalls : ∀ c ∈ calls, c.isRequest = true) (s : σ × τ) :
    (a.beside.runHandle n ending calls s).after.2 = s.2 := by
  induction calls generalizing s with
  | nil => cases ending <;> rfl
  | cons c calls ih =>
    have hc : c.isRequest = true := hcalls c List.mem_cons_self
    have hrest := ih (fun d hd => hcalls d (List.mem_cons_of_mem _ hd)) (c.on a.beside n s).2
    rw [runHandle, hrest]
    -- The other calls may change what stands beside the store, but they are no requests.
    cases c with
    | execute r => rfl
    | begin | transaction β work | connect | disconnect => exact absurd hc Bool.false_ne_true

/-- **A store that refuses nesting** ignores idle calls. -/
theorem RefusesNesting.ignores (ha : a.RefusesNesting) (n : Nat) (ending : Ending)
    (calls : List (HandleCall (σ × τ))) (s : σ × τ) : a.IgnoresNesting n ending τ calls s := by
  have hbeside : (a.beside : Adapter (σ × τ)).RefusesNesting := ha.beside
  obtain ⟨hrun, hidle⟩ := hbeside.run n ending calls s
  have hafter : (a.beside.runHandle n ending (calls.filter (·.isRequest)) s).after
      = (a.beside.runHandle n ending calls s).after := by rw [hrun]
  refine ⟨hidle, by rw [hrun], by rw [hrun], hafter, ?_⟩
  -- Without the idle calls there is no work that could write to the further state.
  rw [← hafter]
  exact a.runHandle_beside_snd n ending (fun c hc => (List.mem_filter.mp hc).2) s

end Refusal

end Adapter

/-! ### Beginnings inside an active transaction -/

namespace SqlDriver

variable (d : SqlDriver ς) {s : SqlStore ς} {n : Nat} {t : SqlScope}

/-- **A beginning inside an active transaction** succeeds if the dialect has savepoints and the
server sets this one. -/
theorem beginWithin_ok_iff (h : s.Active n t) :
    (∃ m s', d.beginWithin n s = (.ok m, s')) ↔ d.dialect.nestedBegin = .savepoint ∧
      ∃ reply server, d.server.send t.connection (.savepoint (t.info.depth + 1)) s.server
        = (.ok reply, server) := by
  cases hn : d.dialect.nestedBegin with
  | refused =>
    rw [d.beginWithin_of_refusing hn]
    constructor
    · rintro ⟨m, s', hcall⟩
      exact absurd (Prod.mk.inj hcall).1 nofun
    · rintro ⟨hsavepoint, -⟩
      exact absurd hsavepoint nofun
  | savepoint =>
    -- With savepoints, it is the server that decides.
    rcases hsend : d.server.send t.connection (.savepoint (t.info.depth + 1)) s.server
      with ⟨e | reply, server⟩
    · rw [d.beginWithin_of_error hn h hsend]
      constructor
      · rintro ⟨m, s', hcall⟩
        exact absurd (Prod.mk.inj hcall).1 nofun
      · rintro ⟨-, reply, after, hreply⟩
        exact absurd (Prod.mk.inj hreply).1 nofun
    · rw [d.beginWithin_of_ok hn h hsend]
      exact ⟨fun _ => ⟨rfl, reply, server, rfl⟩, fun _ => ⟨_, _, rfl⟩⟩

/-- A dialect that refuses does so in every state. -/
theorem refusesNesting (hn : d.dialect.nestedBegin = .refused) : d.adapter.RefusesNesting :=
  fun n s => d.beginWithin_of_refusing hn n s

/-- On a server that may be any, a beginning can succeed if the dialect has savepoints. -/
theorem exists_begin_iff (dialect : Dialect) (h : s.Active n t) :
    (∃ (server : Server ς) (m : Nat) (s' : SqlStore ς),
      (⟨dialect, server⟩ : SqlDriver ς).adapter.begin (.scope n) s = (.ok m, s')) ↔
    dialect.nestedBegin = .savepoint := by
  constructor
  · rintro ⟨server, m, s', hcall⟩
    exact ((beginWithin_ok_iff ⟨dialect, server⟩ h).mp ⟨m, s', hcall⟩).1
  · intro hn
    -- A server that accepts everything, in whatever state it is.
    let server : Server ς := { dial := pure (), send := fun _ _ => pure .empty }
    obtain ⟨m, s', hcall⟩ :=
      (beginWithin_ok_iff ⟨dialect, server⟩ h).mpr ⟨hn, .empty, s.server, rfl⟩
    exact ⟨server, m, s', hcall⟩

end SqlDriver

/-- **What the stores report.** Of each of the dialects, the capability is reported exactly if it
has savepoints. -/
theorem Dialect.reports_iff {dialect : Dialect} (h : dialect ∈ Dialect.all) :
    dialect.backend.capabilities.nestedTransactions = true ↔ dialect.nestedBegin = .savepoint := by
  simp only [Dialect.all, List.mem_cons, List.not_mem_nil, or_false] at h
  -- The two tables have nothing to do with each other, so they are compared entry by entry.
  rcases h with rfl | rfl | rfl | rfl
  · exact iff_of_true rfl rfl
  · exact iff_of_false nofun nofun
  · exact iff_of_false nofun nofun
  · exact iff_of_false nofun nofun

/-- A document store refuses in every state. -/
theorem DocumentServer.refusesNesting (server : DocumentServer ς) : server.adapter.RefusesNesting :=
  fun _ _ => rfl

/-! ### The stores -/

/-- **Nesting is refused without a trace.** On MySQL, SQLite and MongoDB, for whatever is called on
the handle of a transaction and whatever the server answers, the calls that are no requests are
idle, and the run is the same without them. The handle of a transaction reports that transactions
nest exactly if a beginning on an active one can succeed. -/
theorem refused_nesting_leaves_no_trace (ς τ : Type) :
    (∀ dialect, dialect = Dialect.mysql ∨ dialect = Dialect.sqlite →
      ∀ (server : Server ς) (n : Nat) (ending : Ending)
        (calls : List (HandleCall (SqlStore (ς × List Command) × τ)))
        (s : SqlStore (ς × List Command) × τ),
        (dialect.on server).adapter.IgnoresNesting n ending τ calls s) ∧
    (∀ (server : DocumentServer ς) (n : Nat) (ending : Ending)
      (calls : List (HandleCall (LoggedMongoStore ς × τ))) (s : LoggedMongoStore ς × τ),
      server.logged.adapter.IgnoresNesting n ending τ calls s) ∧
    (∀ dialect ∈ Dialect.all, ∀ (server : Server ς) (s : SqlStore ς) (n : Nat) (t : SqlScope),
      s.Active n t →
      (((Database.ofAdapter (⟨dialect, server⟩ : SqlDriver ς).adapter).within
          n).supportsNestedTransactions = true ↔
        ∃ (server : Server ς) (m : Nat) (s' : SqlStore ς),
          (⟨dialect, server⟩ : SqlDriver ς).adapter.begin (.scope n) s = (.ok m, s'))) ∧
    ∀ (server : DocumentServer ς) (s : MongoStore ς) (n : Nat),
      ((Database.ofAdapter server.adapter).within n).supportsNestedTransactions = true ↔
        ∃ (server : DocumentServer ς) (m : Nat) (s' : MongoStore ς),
          server.adapter.begin (.scope n) s = (.ok m, s') := by
  refine ⟨?_, ?_, ?_, ?_⟩
  · rintro dialect hdialect server n ending calls s
    -- Neither dialect has a nested beginning of its own.
    have hn : (dialect.on server).dialect.nestedBegin = .refused := by
      rcases hdialect with rfl | rfl <;> rfl
    exact ((dialect.on server).refusesNesting hn).ignores n ending calls s
  · intro server n ending calls s
    exact server.logged.refusesNesting.ignores n ending calls s
  · intro dialect hdialect server s n t h
    -- What is reported and what can be done agree for one dialect after the other.
    exact (Dialect.reports_iff hdialect).trans (SqlDriver.exists_begin_iff dialect h).symm
  · intro server s n
    constructor
    · intro hsupports
      exact absurd hsupports nofun
    · rintro ⟨server, m, s', hcall⟩
      rw [server.refusesNesting n s] at hcall
      exact absurd (Prod.mk.inj hcall).1 nofun

/-- A store of a dialect in its first transaction, on a server that accepts everything. -/
def openedStore (dialect : Dialect) : SqlStore (Unit × List Command) :=
  ((dialect.on .accepting).adapter.begin .root ((dialect.on .accepting).start {} ((), []))).2

/-- Two statements, and idle calls around them. The work of the transaction inside would count
up. -/
def restlessCalls : List (HandleCall (SqlStore (Unit × List Command) × Nat)) :=
  let statement := Request.sql ⟨"INSERT INTO people (id) VALUES (1)", [], []⟩
  [.connect, .execute statement, .begin, .transaction Unit fun _ => modify fun s => (s.1, s.2 + 1),
    .disconnect, .execute statement]

/-- They are ignored on SQLite, and the server has heard of two statements. On PostgreSQL the
capability agrees with what a beginning on the transaction can do. -/
theorem restlessCalls_ignored :
    (Dialect.sqlite.on .accepting).adapter.isActive 0 (openedStore .sqlite) = true ∧
      (Dialect.sqlite.on .accepting).adapter.IgnoresNesting 0 .commit Nat restlessCalls
        (openedStore .sqlite, 0) ∧
      (((Dialect.sqlite.on .accepting).adapter.beside.runHandle 0 .commit restlessCalls
        (openedStore .sqlite, 0)).after.1.server.2.map Command.text
          = ["BEGIN", "INSERT INTO people (id) VALUES (1)", "INSERT INTO people (id) VALUES (1)",
            "COMMIT"]) ∧
      (((Database.ofAdapter (Dialect.postgresql.on .accepting).adapter).within 0
          ).supportsNestedTransactions = true ↔
        ∃ (server : Server (Unit × List Command)) (m : Nat) (s' : SqlStore (Unit × List Command)),
          (⟨.postgresql, server⟩ : SqlDriver (Unit × List Command)).adapter.begin (.scope 0)
            (openedStore .postgresql) = (.ok m, s')) := by
  obtain ⟨hignores, -, -, -⟩ := refused_nesting_leaves_no_trace Unit Nat
  obtain ⟨-, -, hcapability, -⟩ := refused_nesting_leaves_no_trace (Unit × List Command) Nat
  -- On PostgreSQL the transaction is active, which is what the agreement asks for.
  have hactive : (openedStore .postgresql).Active 0
      ⟨Transaction.outermost .postgresql 0, 0, 0, false⟩ := ⟨rfl, rfl, rfl⟩
  exact ⟨rfl, hignores .sqlite (.inr rfl) .accepting 0 .commit restlessCalls _, rfl,
    hcapability .postgresql (by simp [Dialect.all]) Server.accepting.logged _ 0 _ hactive⟩

end StoreBridge
