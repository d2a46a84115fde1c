import StoreBridge.Proofs.Mongo.Expiry
import StoreBridge.Proofs.Sql.Expiry

/-!
# A transaction that has ended

`ended_scope_inert` puts together what the stores promise: over every history of calls and every
server, a transaction that has been committed or rolled back can do nothing more, and nothing but
its first end has told the server that it is over.
-/

namespace StoreBridge

/-- **A transaction that has ended is inert.** In every history of calls on a SQL store of any
dialect or on a document store, whatever the server answers: once a transaction has been committed
or rolled back, well or not, every call on it is an error that the server does not hear of, and the
calls on it have sent at most one finishing command. The one thing that may follow that is the
rollback with which the driver of a SQL store leaves an outermost transaction whose end was refused.
On PostgreSQL every transaction inside an outermost one is inert as well once that has ended. -/
theorem ended_scope_inert (ς : Type) :
    (∀ (dialect : Dialect) (server : Server ς) (o : PoolOptions) (init : ς),
      (dialect.on server).adapter.EndsOnce ((dialect.on server).start o (init, []))
        SqlStore.server Command.isEnd [.rollback]) ∧
    (∀ (server : DocumentServer ς) (init : ς),
      server.logged.adapter.EndsOnce { server := (init, []) } MongoStore.server
        (fun entry => entry.2.isEnd) []) ∧
    ∀ (server : Server ς) (o : PoolOptions) (init : ς) (log : List Occurrence)
      (s : SqlStore (ς × List Command)),
      (Dialect.postgresql.on server).adapter.Ran
          ((Dialect.postgresql.on server).start o (init, [])) log s →
        ∀ root n, Occurrence.begun .root (.ok root) ∈ log →
          Relation.ReflTransGen (Child log) root n → Ended log root →
          (Dialect.postgresql.on server).adapter.Inert SqlStore.server n s := by
  refine ⟨?_, ?_, ?_⟩
  · intro dialect server o init
    exact (sql_expires dialect server o (init, [])).endsOnce
  · intro server init
    exact (server.expires (init, [])).endsOnce
  · intro server o init log s hran root n hroot hline hended
    exact nested_inert hran hroot hline hended

/-- A transaction inside another one, of which the outer one has been committed. -/
def committedHistory : List Occurrence :=
  [.begun .root (.ok 0), .begun (.scope 0) (.ok 1), .committed 0 (.ok ())]

/-- The store after that. -/
def committedStore : SqlStore (Unit × List Command) :=
  ((Dialect.postgresql.on .accepting).adapter.commit 0 (nestedStore 1)).2

/-- After the commit of the outer transaction both are inert, the one that was committed and the one
that was begun inside it. -/
theorem committedHistory_inert :
    (Dialect.postgresql.on .accepting).adapter.Ran
        ((Dialect.postgresql.on .accepting).start {} ((), [])) committedHistory committedStore ∧
      Ended committedHistory 0 ∧
      (Dialect.postgresql.on .accepting).adapter.Inert SqlStore.server 0 committedStore ∧
      (Dialect.postgresql.on .accepting).adapter.Inert SqlStore.server 1 committedStore := by
  -- The history is one that the store can have, step by step.
  have houter : (Dialect.postgresql.on .accepting).adapter.Ran
      ((Dialect.postgresql.on .accepting).start {} ((), [])) [.begun .root (.ok 0)]
      (nestedStore 0) := .begin .root .start trivial rfl
  have hinner : (Dialect.postgresql.on .accepting).adapter.Ran
      ((Dialect.postgresql.on .accepting).start {} ((), []))
      [.begun .root (.ok 0), .begun (.scope 0) (.ok 1)] (nestedStore 1) :=
    .begin (.scope 0) houter ⟨.root, by simp⟩ rfl
  have hran : (Dialect.postgresql.on .accepting).adapter.Ran
      ((Dialect.postgresql.on .accepting).start {} ((), [])) committedHistory committedStore :=
    .commit 0 hinner ⟨.root, by simp⟩ rfl
  have hroot : Occurrence.begun .root (.ok 0) ∈ committedHistory := by simp [committedHistory]
  have hended : Ended committedHistory 0 := ⟨.ok (), by simp [committedHistory]⟩
  have hchild : Child committedHistory 0 1 := by simp [Child, committedHistory]
  obtain ⟨hsql, -, hnested⟩ := ended_scope_inert Unit
  exact ⟨hran, hended, (hsql .postgresql .accepting {} ()).inert hran 0 hended,
    hnested .accepting {} () _ _ hran 0 1 hroot (.single hchild) hended⟩

end StoreBridge
