import StoreBridge.Proofs.CompileError
import StoreBridge.Proofs.EndedScope
import StoreBridge.Proofs.RefusedNesting

/-!
# What a transaction that has ended answers

Every call on a transaction that has ended is refused, but not always because it has ended. On
PostgreSQL that is looked at first, and the failure is the one of the transaction, under its own id,
whatever was called. Elsewhere two other checks come before it: whether the store takes requests of
this kind at all, and whether its transactions nest, which is all that is asked about a beginning.
These two failures are compile errors, and a caller who goes by that takes an ended transaction for
a mistake in the request.

Which check comes first is the `Precedence` of a store. A request and a beginning differ in what is
held against them for other reasons, so their answers are both an `endedAnswer`, and which of the
two answers it is, is said once (`endedAnswer_cases`). That the stores give these answers in every
history is `ended_scope_answers`. The id in them is the one that the transaction began with, which
is a matter of the history as well (`info_id_of_ran`, for each kind of store).
-/

namespace StoreBridge

/-- The failure of a request for its kind, if the stores of a backend do not take it: MongoDB takes
requests for documents, and every other one takes SQL. -/
def Request.misfit? (b : Backend) : Request → Option DbError
  | .sql _ => if b = .mongodb then some (DbError.documentsOnly b) else none
  | .document _ => if b = .mongodb then none else some (DbError.sqlOnly b)

/-- Whether a store looks at the end of a transaction before it looks at the kind of a request, and
before it asks whether its transactions nest. -/
structure Precedence where
  onRequest : Bool
  onBegin : Bool
  deriving DecidableEq

namespace Precedence

/-- The end is looked at first, whatever is called. -/
def endFirst : Precedence := ⟨true, true⟩

/-- The end is looked at last. -/
def endLast : Precedence := ⟨false, false⟩

end Precedence

/-- What a SQL store looks at first. Only a savepoint needs a transaction that has not ended. -/
def Dialect.precedence (d : Dialect) : Precedence :=
  ⟨d.activeFirst, decide (d.nestedBegin = .savepoint)⟩

/-- The failure of a call on a transaction that has ended, with what is held against the call for
other reasons. -/
def endedAnswer (endFirst : Bool) (id : String) (objection : Option DbError) : DbError :=
  if endFirst then DbError.inactive id else objection.getD (DbError.inactive id)

namespace Backend

/-- The failure of a request. -/
def endedRequest (b : Backend) (p : Precedence) (id : String) (r : Request) : DbError :=
  endedAnswer p.onRequest id (r.misfit? b)

/-- The failure of a beginning. -/
def endedBegin (b : Backend) (p : Precedence) (id : String) : DbError :=
  endedAnswer p.onBegin id (some (DbError.nestedTransaction b))

end Backend

/-- **What a transaction that has ended answers.** The store is as before. -/
structure Adapter.AnswersEnded {σ : Type} (a : Adapter σ) (p : Precedence) (n : Nat) (s : σ) :
    Prop where
  info : (a.info n s).id = Transaction.idOfSerial n
  execute (r : Request) :
    a.execute (.scope n) r s = (.error (a.backend.endedRequest p (Transaction.idOfSerial n) r), s)
  begin : a.begin (.scope n) s = (.error (a.backend.endedBegin p (Transaction.idOfSerial n)), s)

/-! ### Compile errors among the answers -/

/-- That a store does not take a kind of request is a compile error. -/
theorem Request.isCompileError_of_misfit? {b : Backend} {r : Request} {e : DbError}
    (h : r.misfit? b = some e) : e.isCompileError = true := by
  cases r with
  | sql r =>
    obtain ⟨-, he⟩ := Option.ite_none_right_eq_some.mp h
    rw [← Option.some.inj he]
    rfl
  | document r =>
    obtain ⟨-, he⟩ := Option.ite_none_left_eq_some.mp h
    rw [← Option.some.inj he]
    rfl

section Answer

variable (first : Bool) (id : String) {objection : Option DbError}
  (hobjection : ∀ e, objection = some e → e.isCompileError = true)
include hobjection

/-- **Two answers.** A call finds the transaction ended, or it meets an objection, which is a
compile error. -/
theorem endedAnswer_cases :
    (endedAnswer first id objection = DbError.inactive id ∧
      ¬ (first = false ∧ objection.isSome = true)) ∨
    ((endedAnswer first id objection).isCompileError = true ∧
      (first = false ∧ objection.isSome = true)) := by
  -- The end is looked at first, or else the objection comes before it, if there is one.
  cases first with
  | true => exact .inl ⟨rfl, nofun⟩
  | false =>
    cases hsome : objection with
    | none => exact .inl ⟨rfl, nofun⟩
    | some e => exact .inr ⟨hobjection e hsome, rfl, rfl⟩

/-- The answer is a compile error exactly if there is an objection and it is looked at before the
end. -/
theorem endedAnswer_isCompileError_iff :
    (endedAnswer first id objection).isCompileError = true ↔
      first = false ∧ objection.isSome = true := by
  rcases endedAnswer_cases first id hobjection with ⟨hinactive, hnone⟩ | ⟨herror, hmet⟩
  · rw [hinactive]
    exact iff_of_false nofun hnone
  · exact iff_of_true herror hmet

/-- Whenever the answer is no compile error, it is the failure of the ended transaction. -/
theorem endedAnswer_eq_inactive_iff :
    endedAnswer first id objection = DbError.inactive id ↔
      (endedAnswer first id objection).isCompileError = false := by
  rcases endedAnswer_cases first id hobjection with ⟨hinactive, -⟩ | ⟨herror, -⟩
  · rw [hinactive]
    exact iff_of_true rfl rfl
  · refine iff_of_false (fun heq => ?_) fun hfalse => ?_
    · rw [heq] at herror
      exact absurd herror nofun
    · exact absurd (herror.symm.trans hfalse) nofun

end Answer

/-- That transactions do not nest is a compile error, and always held against a beginning. -/
theorem Backend.nestedTransaction_objection (b : Backend) :
    ∀ e, some (DbError.nestedTransaction b) = some e → e.isCompileError = true := by
  intro e he
  rw [← Option.some.inj he]
  rfl

/-! ### The two kinds of store -/

/-- What is left of the kind check of a SQL store in front of a failure. -/
theorem expectSql_bind_error {b : Backend} (hb : b ≠ .mongodb) (r : Request) (e : DbError) :
    (r.expectSql b >>= fun _ => (.error e : Except DbError Output))
      = .error ((r.misfit? b).getD e) := by
  -- A request for a table passes the check, and the failure is left.
  cases r with
  | sql r =>
    rw [Request.misfit?, if_neg hb]
    rfl
  | document r =>
    rw [Request.misfit?, if_neg hb]
    rfl

/-- What is left of the kind check of a document store in front of a failure. -/
theorem expectDocument_bind_error (r : Request) (e : DbError) :
    (r.expectDocument .mongodb >>= fun _ => (.error e : Except DbError Output))
      = .error ((r.misfit? .mongodb).getD e) := by
  cases r <;> rfl

section Stores

variable {ς : Type} {log : List Occurrence} {n : Nat}

/-- **A SQL store** answers a request and a beginning on an ended transaction with the failure of
the check that its dialect makes first. -/
theorem sql_answersEnded {dialect : Dialect} (hsql : dialect.backend ≠ .mongodb) {server : Server ς}
    {o : PoolOptions} {init : ς} {s : SqlStore (ς × List Command)}
    (hran : (dialect.on server).adapter.Ran ((dialect.on server).start o (init, [])) log s)
    (hended : Ended log n) : (dialect.on server).adapter.AnswersEnded dialect.precedence n s := by
  -- The history says that the transaction has ended, so the store has it marked as finished.
  have htracked := (sql_expires dialect server o (init, [])).tracked hran
  have hf := (SqlStore.finished_of_marks ((htracked.finished n).mpr hended)).2
  have hid := (dialect.on server).info_id_of_ran hran n
  have hinactive : (s.scope n).info.inactive = DbError.inactive (Transaction.idOfSerial n) := by
    rw [Transaction.inactive, hid]
  refine ⟨hid, fun r => ?_, ?_⟩
  · change (dialect.on server).executeWithin n r s = (.error (dialect.backend.endedRequest
      dialect.precedence (Transaction.idOfSerial n) r), s)
    rw [(dialect.on server).executeWithin_of_finished hf, hinactive, Backend.endedRequest,
      Dialect.precedence]
    change (if dialect.activeFirst then _ else r.expectSql dialect.backend >>= fun _ => _, s) = _
    -- With the end first, the kind of the request is not looked at any more.
    cases dialect.activeFirst with
    | true => rfl
    | false => exact congrArg (·, s) (expectSql_bind_error hsql r _)
  · change (dialect.on server).beginWithin n s = (.error (dialect.backend.endedBegin
      dialect.precedence (Transaction.idOfSerial n)), s)
    -- A dialect with savepoints sees that the transaction has ended, the others do not look.
    cases hn : dialect.nestedBegin with
    | savepoint =>
      rw [(dialect.on server).beginWithin_of_refused hn (.inl hf), hinactive, Backend.endedBegin,
        Dialect.precedence, hn]
      rfl
    | refused =>
      rw [(dialect.on server).beginWithin_of_refusing hn, Backend.endedBegin, Dialect.precedence,
        hn]
      rfl

/-- **A document store.** -/
theorem document_answersEnded {server : DocumentServer ς} {init : ς} {s : LoggedMongoStore ς}
    (hran : server.logged.adapter.Ran { server := (init, []) } log s) (hended : Ended log n) :
    server.logged.adapter.AnswersEnded .endLast n s := by
  -- The history says that the transaction has ended, so the store has it marked as finished.
  have htracked := (server.expires (init, [])).tracked hran
  have hf : (s.scope n).finished = true :=
    MongoStore.finished_of_marks ((htracked.finished n).mpr hended)
  have hid := server.info_id_of_ran hran n
  refine ⟨hid, fun r => ?_, rfl⟩
  change server.logged.execute (.scope n) r s
    = (.error (Backend.mongodb.endedRequest .endLast (Transaction.idOfSerial n) r), s)
  rw [server.logged.execute_of_finished hf, Transaction.inactive, hid, expectDocument_bind_error]
  rfl

end Stores

/-- Of the SQL stores, PostgreSQL alone looks at the end first. -/
theorem Dialect.precedence_of_mem {dialect : Dialect} (h : dialect ∈ Dialect.all) :
    dialect.precedence = if dialect.backend = .postgresql then .endFirst else .endLast := by
  simp only [Dialect.all, List.mem_cons, List.not_mem_nil, or_false] at h
  rcases h with rfl | rfl | rfl | rfl <;> rfl

/-- **What a transaction that has ended answers**, in every history of calls on a SQL store of any
dialect or on a document store, whatever the server answers: where the end is looked at first, and
to a request of a kind that the store takes, the failure of the ended transaction under its own id;
to any other request, and to a beginning, a compile error. On PostgreSQL the end is looked at first,
and elsewhere last. -/
theorem ended_scope_answers (ς : Type) :
    (∀ (dialect : Dialect) (server : Server ς) (o : PoolOptions) (init : ς) (log : List Occurrence)
      (s : SqlStore (ς × List Command)) (n : Nat), dialect.backend ≠ .mongodb →
      (dialect.on server).adapter.Ran ((dialect.on server).start o (init, [])) log s →
      Ended log n → (dialect.on server).adapter.AnswersEnded dialect.precedence n s) ∧
    (∀ dialect ∈ Dialect.all,
      dialect.precedence = if dialect.backend = .postgresql then .endFirst else .endLast) ∧
    (∀ (server : DocumentServer ς) (init : ς) (log : List Occurrence) (s : LoggedMongoStore ς)
      (n : Nat),
      server.logged.adapter.Ran { server := (init, []) } log s →
      Ended log n → server.logged.adapter.AnswersEnded .endLast n s) ∧
    (∀ (b : Backend) (p : Precedence) (id : String) (r : Request),
      (b.endedRequest p id r = DbError.inactive id ↔
        (b.endedRequest p id r).isCompileError = false) ∧
      ((b.endedRequest p id r).isCompileError = true ↔
        p.onRequest = false ∧ (r.misfit? b).isSome = true)) ∧
    ∀ (b : Backend) (p : Precedence) (id : String),
      (b.endedBegin p id = DbError.inactive id ↔ (b.endedBegin p id).isCompileError = false) ∧
      ((b.endedBegin p id).isCompileError = true ↔ p.onBegin = false) := by
  refine ⟨?_, ?_, ?_, ?_, ?_⟩
  · intro dialect server o init log s n hsql hran hended
    exact sql_answersEnded hsql hran hended
  · intro dialect hdialect
    exact Dialect.precedence_of_mem hdialect
  · intro server init log s n hran hended
    exact document_answersEnded hran hended
  · intro b p id r
    -- The two objections are compile errors, and so is an answer exactly if it is one of them.
    have hmisfit : ∀ e, r.misfit? b = some e → e.isCompileError = true :=
      fun _ => Request.isCompileError_of_misfit?
    exact ⟨endedAnswer_eq_inactive_iff _ id hmisfit, endedAnswer_isCompileError_iff _ id hmisfit⟩
  · intro b p id
    have hflat := b.nestedTransaction_objection
    exact ⟨endedAnswer_eq_inactive_iff _ id hflat,
      (endedAnswer_isCompileError_iff _ id hflat).trans (and_iff_left rfl)⟩

/-- A transaction that has been committed. -/
def closedHistory : List Occurrence :=
  [.begun .root (.ok 0), .committed 0 (.ok ())]

/-- An SQLite store after that. -/
def closedStore : SqlStore (Unit × List Command) :=
  ((Dialect.sqlite.on .accepting).adapter.commit 0 (openedStore .sqlite)).2

/-- A document store after that. -/
def closedMongoStore : LoggedMongoStore Unit where
  server := ((), [])
  scopes := [⟨Transaction.outermost .mongodb 0, false, true⟩]

theorem closedHistory_ended : Ended closedHistory 0 :=
  ⟨.ok (), by simp [closedHistory]⟩

/-- It is a history of calls on SQLite. -/
theorem closedHistory_sqlite :
    (Dialect.sqlite.on .accepting).adapter.Ran ((Dialect.sqlite.on .accepting).start {} ((), []))
      closedHistory closedStore := by
  have hopened : (Dialect.sqlite.on .accepting).adapter.Ran
      ((Dialect.sqlite.on .accepting).start {} ((), [])) [.begun .root (.ok 0)]
      (openedStore .sqlite) :=
    .begin .root .start trivial rfl
  exact .commit 0 hopened ⟨.root, by simp⟩ rfl

/-- The answers on SQLite and on MongoDB. -/
theorem closedHistory_answers :
    (Dialect.sqlite.backend ≠ .mongodb ∧
      (Dialect.sqlite.on .accepting).adapter.Ran ((Dialect.sqlite.on .accepting).start {} ((), []))
        closedHistory closedStore ∧
      Ended closedHistory 0 ∧
      (Dialect.sqlite.on .accepting).adapter.AnswersEnded .endLast 0 closedStore) ∧
    (DocumentServer.silent.logged.adapter.Ran { server := ((), []) } closedHistory
        closedMongoStore ∧
      DocumentServer.silent.logged.adapter.AnswersEnded .endLast 0 closedMongoStore) := by
  obtain ⟨hsql, -, hdocument, -, -⟩ := ended_scope_answers Unit
  -- The document store has the same history, one transaction that is begun and committed.
  have hopened :
      DocumentServer.silent.logged.adapter.Ran { server := ((), []) } [.begun .root (.ok 0)]
      { server := ((), []), scopes := [⟨Transaction.outermost .mongodb 0, false, false⟩] } :=
    .begin .root .start trivial rfl
  have hclosed : DocumentServer.silent.logged.adapter.Ran { server := ((), []) } closedHistory
      closedMongoStore := .commit 0 hopened ⟨.root, by simp⟩ rfl
  have hbackend : Dialect.sqlite.backend ≠ .mongodb := by decide
  exact ⟨⟨hbackend, closedHistory_sqlite, closedHistory_ended,
    hsql .sqlite .accepting {} () _ _ 0 hbackend closedHistory_sqlite closedHistory_ended⟩,
    hclosed, hdocument .silent () _ _ 0 hclosed closedHistory_ended⟩

/-- **Compile errors of an ended transaction.** SQLite answers a beginning and a request for
documents on a transaction that has been committed as if there were a mistake in them. -/
theorem closedSqlite_compile_errors :
    (Dialect.sqlite.on .accepting).adapter.Ran ((Dialect.sqlite.on .accepting).start {} ((), []))
        closedHistory closedStore ∧
      Ended closedHistory 0 ∧
      (∃ e, (Dialect.sqlite.on .accepting).adapter.begin (.scope 0) closedStore
          = (.error e, closedStore) ∧
        e.isCompileError = true ∧ ∀ id, e ≠ DbError.inactive id) ∧
      ∃ e, (Dialect.sqlite.on .accepting).adapter.execute (.scope 0)
          (.document ⟨"people", { DocumentOperation.empty with find := some [] }⟩) closedStore
          = (.error e, closedStore) ∧
        e.isCompileError = true ∧ ∀ id, e ≠ DbError.inactive id :=
  ⟨closedHistory_sqlite, closedHistory_ended,
    ⟨DbError.nestedTransaction .sqlite, rfl, rfl, nofun⟩,
    ⟨DbError.sqlOnly .sqlite, rfl, rfl, nofun⟩⟩

end StoreBridge
