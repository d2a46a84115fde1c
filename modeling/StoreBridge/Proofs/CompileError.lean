import StoreBridge.Proofs.Adapter.Batch
import StoreBridge.Proofs.Mongo.Failure
import StoreBridge.Proofs.Sql.Expiry
import StoreBridge.Proofs.Sql.Failure

/-!
# Compile errors

A failure for which `DbError.isCompileError` holds promises that nothing has happened. The promise
is kept in two places. A chain that does not compile never reaches the adapter
(`Database.noted_run`), and an adapter that refuses a request, or a beginning, does so before the
server hears of anything (`Adapter.CompilesFirst`), which is what orderly calls are about.

Of a store that a call leaves as it was, everything is as it was: the server with the list of what
it was sent, the pool with its connections, and the transactions.
-/

namespace StoreBridge

variable {σ : Type}

/-- **A compile error leaves no trace.** Where a request, a beginning or a query fails with one, on
the adapter or on any transaction and in whatever state, the state after it is the state before
it. -/
structure Adapter.CompilesFirst (a : Adapter σ) : Prop where
  execute : ∀ (h : Handle) (r : Request) (s : σ) (e : DbError) (s' : σ),
    a.execute h r s = (.error e, s') → e.isCompileError = true → s' = s
  begin : ∀ (h : Handle) (s : σ) (e : DbError) (s' : σ),
    a.begin h s = (.error e, s') → e.isCompileError = true → s' = s
  run : ∀ (h : Handle) (schema : Schema) (operations : List Operation) (s : σ) (e : DbError)
    (s' : σ),
    (⟨a, h⟩ : Database σ).run schema operations s = (.error e, s') → e.isCompileError = true →
      s' = s

/-- **One request, or none.** On an adapter that notes its calls, a chain that does not compile
leaves no note, and one that compiles leaves the note of its request. -/
theorem Database.noted_run (db : Database σ) (schema : Schema) (operations : List Operation) (s : σ)
    (log : List Occurrence) :
    db.noted.run schema operations (s, log) =
      match compile schema operations with
      | .error e => (.error e, s, log)
      | .ok r => ((db.execute r s).1, (db.execute r s).2,
          log ++ [.executed db.handle r (db.execute r s).1]) := by
  cases hcompile : compile schema operations with
  | error e => exact run_of_error hcompile (s, log)
  | ok r =>
    rw [Database.run_of_ok hcompile]
    exact Call.noted_of_eq rfl

/-- An orderly adapter compiles first. -/
theorem Adapter.Orderly.compilesFirst {a : Adapter σ} {lifecycle : σ → Lifecycle}
    (ha : a.Orderly lifecycle) : a.CompilesFirst where
  execute h r _ _ _ hcall he := (ha.execute h r).eq_of_isCompileError hcall he
  begin h _ _ _ hcall he := (ha.begin h).eq_of_isCompileError hcall he
  run h schema operations s e s' hcall he := by
    cases hcompile : compile schema operations with
    | error e' =>
      rw [Database.run_of_error hcompile] at hcall
      exact (Prod.mk.inj hcall).2.symm
    | ok r =>
      -- The chain has compiled, so the failure is one of its request.
      rw [Database.run_of_ok hcompile] at hcall
      exact (ha.execute h r).eq_of_isCompileError hcall he

/-- **Compile errors mean that nothing was sent.** This holds of a SQL store of any dialect and of a
document store, on a server that answers as it likes, and of a query on any adapter whatever: if it
does not compile, the adapter is not called, and otherwise it is called once. -/
theorem compile_error_leaves_no_trace (ς : Type) :
    (∀ (dialect : Dialect) (server : Server ς), (dialect.on server).adapter.CompilesFirst) ∧
    (∀ server : DocumentServer ς, server.logged.adapter.CompilesFirst) ∧
    ∀ (σ : Type) (db : Database σ) (schema : Schema) (operations : List Operation) (s : σ)
      (log : List Occurrence),
      db.noted.run schema operations (s, log) =
        match compile schema operations with
        | .error e => (.error e, s, log)
        | .ok r => ((db.execute r s).1, (db.execute r s).2,
            log ++ [.executed db.handle r (db.execute r s).1]) := by
  refine ⟨?_, ?_, ?_⟩
  · -- Every call of a store looks at its request before it asks for a connection.
    intro dialect server
    exact (dialect.on server).orderly.compilesFirst
  · intro server
    exact server.logged.orderly.compilesFirst
  · intro σ db schema operations s log
    exact db.noted_run schema operations s log

/-- A document server that answers every command with nothing. -/
def DocumentServer.silent : DocumentServer Unit where
  send _ _ := pure default
  freshId := pure []

/-- A document store in a transaction that the server has heard of. -/
def startedStore : LoggedMongoStore Unit where
  server := ((), [(.within 0 true, .find "people" [] none none none)])
  scopes := [⟨Transaction.outermost .mongodb 0, true, false⟩]

/-- An aggregation whose second stage is no object. -/
def halfReadable : List Operation := [.aggregate (.array [.object [], .null])]

/-- As a query inside the transaction it is refused, and the server has not heard of its first
stage. Neither has the server of an SQLite store heard of a beginning inside a transaction. -/
theorem halfReadable_refused :
    (∃ e s',
      (⟨DocumentServer.silent.logged.adapter, .scope 0⟩ : Database (LoggedMongoStore Unit)).run
        ⟨"people", .document, []⟩ halfReadable startedStore = (.error e, s') ∧
      e.isCompileError = true ∧ s' = startedStore) ∧
    ∃ e s', (Dialect.sqlite.on .accepting).adapter.begin (.scope 0)
        ((Dialect.sqlite.on .accepting).start {} ((), [])) = (.error e, s') ∧
      e.isCompileError = true ∧ s' = (Dialect.sqlite.on .accepting).start {} ((), []) := by
  obtain ⟨hsql, hdocument, -⟩ := compile_error_leaves_no_trace Unit
  -- The answers are computed; that nothing else has happened is what the theorem says.
  have hquery :
      (⟨DocumentServer.silent.logged.adapter, .scope 0⟩ : Database (LoggedMongoStore Unit)).run
      ⟨"people", .document, []⟩ halfReadable startedStore
        = (.error (.invalidQuery (.badStage .null)), startedStore) := rfl
  have hbegin : (Dialect.sqlite.on .accepting).adapter.begin (.scope 0)
      ((Dialect.sqlite.on .accepting).start {} ((), []))
        = (.error (DbError.nestedTransaction .sqlite),
          (Dialect.sqlite.on .accepting).start {} ((), [])) := rfl
  exact ⟨⟨_, _, hquery, rfl, (hdocument .silent).run _ _ _ _ _ _ hquery rfl⟩,
    ⟨_, _, hbegin, rfl, (hsql .sqlite .accepting).begin _ _ _ _ hbegin rfl⟩⟩

end StoreBridge
