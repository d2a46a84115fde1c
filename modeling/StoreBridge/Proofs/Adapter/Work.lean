import StoreBridge.Adapter.Database
import StoreBridge.Proofs.Adapter.Call

/-!
# Work inside transactions

`Work α` is what a caller does with a database: it runs requests and opens transactions, one after
the other, and each further step may depend on all answers so far. The work of a transaction is work
again, on the database inside that transaction, so a piece of work is a tree of any depth and with
any number of transactions side by side.

* `Work.run` — the work, done on a database;
* `Work.Fails` — whatever the store answers, the work ends with an error;
* `Work.Careful` — in the work and in every transaction inside it, a request that failed leads to an
  error at the end. The error of a transaction inside may be dropped;
* `Work.Uses` — what the requests of the work are like.
-/

namespace StoreBridge

/-- A piece of work that answers with `α` or an error. -/
inductive Work : Type → Type 1 where
  /-- The work is over. -/
  | done {α : Type} (answer : Except DbError α) : Work α
  /-- Runs a request and goes on with its answer. -/
  | execute {α : Type} (r : Request) (next : Except DbError Output → Work α) : Work α
  /-- Does other work in a transaction and goes on with the answer of the transaction. -/
  | transaction {α β : Type} (inner : Work β) (next : Except DbError β → Work α) : Work α

namespace Work

variable {σ : Type}

/-- Does the work on a database. -/
def run : {α : Type} → Work α → Database σ → Call σ α
  | _, .done answer, _ => Call.ofExcept answer
  | _, .execute r next, db => ExceptT.mk do
    let answer ← (db.execute r).run
    ((next answer).run db).run
  | _, .transaction inner next, db => ExceptT.mk do
    let answer ← (db.transaction fun tx => inner.run tx).run
    ((next answer).run db).run

section Run

variable {α β : Type} {db : Database σ} {s s' : σ}

theorem run_done (answer : Except DbError α) (db : Database σ) (s : σ) :
    (Work.done answer).run db s = (answer, s) := rfl

/-- Work goes on with the answer to its request. -/
theorem run_execute {r : Request} {next : Except DbError Output → Work α}
    {answer : Except DbError Output} (h : db.execute r s = (answer, s')) :
    (Work.execute r next).run db s = (next answer).run db s' :=
  Call.mk_bind_of_eq h

/-- Work goes on with the outcome of a transaction inside it. -/
theorem run_transaction {inner : Work β} {next : Except DbError β → Work α}
    {answer : Except DbError β} (h : (db.transaction fun tx => inner.run tx) s = (answer, s')) :
    (Work.transaction inner next).run db s = (next answer).run db s' :=
  Call.mk_bind_of_eq h

end Run

/-- Whatever is answered, the work ends with an error. -/
def Fails : {α : Type} → Work α → Prop
  | _, .done answer => ∃ e, answer = .error e
  | _, .execute _ next => ∀ answer, (next answer).Fails
  | _, .transaction _ next => ∀ answer, (next answer).Fails

/-- A request that failed makes the work end with an error, here and in every transaction inside. -/
def Careful : {α : Type} → Work α → Prop
  | _, .done _ => True
  | _, .execute _ next => (∀ e, (next (.error e)).Fails) ∧ ∀ answer, (next answer).Careful
  | _, .transaction inner next => inner.Careful ∧ ∀ answer, (next answer).Careful

/-- Every request of the work, and of the transactions inside it, satisfies `P`. -/
def Uses (P : Request → Prop) : {α : Type} → Work α → Prop
  | _, .done _ => True
  | _, .execute r next => P r ∧ ∀ answer, (next answer).Uses P
  | _, .transaction inner next => inner.Uses P ∧ ∀ answer, (next answer).Uses P

/-- Runs statements one after the other, up to the first that fails. -/
def statements : List SqlRequest → Work Unit
  | [] => .done (.ok ())
  | r :: rest => .execute (.sql r) fun
    | .ok _ => statements rest
    | .error e => .done (.error e)

/-- Statements in a row are careful: the first one that fails is the last. -/
theorem statements_careful (requests : List SqlRequest) : (statements requests).Careful := by
  induction requests with
  | nil => trivial
  | cons r rest ih =>
    refine ⟨fun e => ⟨e, rfl⟩, fun answer => ?_⟩
    cases answer with
    | ok output => exact ih
    | error e => trivial

/-- Statements in a row use the requests that they are made of. -/
theorem statements_uses {P : Request → Prop} {requests : List SqlRequest}
    (h : ∀ r ∈ requests, P (.sql r)) : (statements requests).Uses P := by
  induction requests with
  | nil => trivial
  | cons r rest ih =>
    refine ⟨h r List.mem_cons_self, fun answer => ?_⟩
    cases answer with
    | ok output => exact ih fun q hq => h q (List.mem_cons_of_mem _ hq)
    | error e => trivial

end Work

end StoreBridge
