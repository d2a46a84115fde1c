import StoreBridge.Proofs.Adapter.Work
import StoreBridge.Proofs.Sql.Scope
import StoreBridge.Proofs.Sql.Session

/-!
# Transactions on PostgreSQL are snapshots

`Work.Reference` is what transactions mean, without a server and without savepoints: a transaction
that ends with an error leaves exactly the data of its beginning, and any other one leaves what its
work has made of them. A server with savepoints shows the same data, after every single command
(`transaction_snapshot`).

Two facts about the store and the server carry the induction on the work (`run_played`):

* the calls of the work change nothing in the store but the server and transactions that were not
  there before (`SqlStore.Keeps`);
* what the work leaves on the savepoints of the server belongs to larger depths
  (`SqlSession.Grows`), so each transaction finds its own savepoint when it ends.
-/

namespace StoreBridge

variable {D : Type}

/-- What a transaction leaves to the one around it: everything if it succeeds, and otherwise what
was there before. -/
def Moment.settled {α : Type} (before : Moment D) : Except DbError α → Moment D → Moment D
  | .ok _, inside => inside
  | .error _, _ => before

/-- **The reference semantics.** `Reference effect w m answer after log`: from the moment `m` the
work `w` may answer `answer` and leave the moment `after`, and `log` is what is seen of each
command.

A statement either has its effect, or fails and changes no data. After that nothing else succeeds
until a transaction around it ends. -/
inductive Work.Reference (effect : String → List Argument → D → Reply → D → Prop) :
    {α : Type} → Work α → Moment D → Except DbError α → Moment D → List (Sight D) → Prop
  | done {α : Type} {answer : Except DbError α} {m : Moment D} :
    Reference effect (.done answer) m answer m []
  | statement {α : Type} {r : SqlRequest} {next : Except DbError Output → Work α}
      {m after : Moment D}
      {answer : Except DbError α} {reply : Reply} {data : D} {log : List (Sight D)}
      (hm : m.failed = false)
      (heffect : effect r.postgresText (r.params.map Argument.ofJson) m.data reply data)
      (hnext : Reference effect (next (.ok (Dialect.postgresql.output r.postgresText reply)))
        ⟨data, false⟩ answer after log) :
    Reference effect (.execute (.sql r) next) m answer after (⟨some (.ok reply), data⟩ :: log)
  | refused {α : Type} {r : SqlRequest} {next : Except DbError Output → Work α} {m after : Moment D}
      {answer : Except DbError α} {log : List (Sight D)} (e : DriverError)
      (hnext : Reference effect (next (.error (.backend .postgresql e))) ⟨m.data, true⟩ answer after
        log) :
    Reference effect (.execute (.sql r) next) m answer after (⟨some (.error e), m.data⟩ :: log)
  | transaction {α β : Type} {inner : Work β} {next : Except DbError β → Work α}
      {m inside after : Moment D} {result : Except DbError β} {answer : Except DbError α}
      {log log' : List (Sight D)} (hm : m.failed = false)
      (hinner : Reference effect inner m result inside log)
      (hnext : Reference effect (next result) (m.settled result inside) answer after log') :
    Reference effect (.transaction inner next) m answer after
      (.mark m.data :: log ++ .mark (m.settled result inside).data :: log')
  | blocked {α β : Type} {inner : Work β} {next : Except DbError β → Work α} {m after : Moment D}
      {answer : Except DbError α} {log : List (Sight D)} (hm : m.failed = true) (e : DriverError)
      (hnext : Reference effect (next (.error (.backend .postgresql e))) m answer after log) :
    Reference effect (.transaction inner next) m answer after (.mark m.data :: log)

/-- A statement that is no command of transactions, as the server gets it. -/
def IsStatement (IsData : String → Prop) : Request → Prop
  | .sql r => IsData r.postgresText
  | .document _ => False

/-- A SQL store on a server that is watched. -/
abbrev WatchedStore (ς D : Type) := SqlStore (ς × List (Sight D))

section Server

variable {ς : Type} {server : Server ς} {connection : Nat} {session : ς → Option (SqlSession D)}
  {look : ς → D} {IsData : String → Prop}
  {effect : String → List Argument → D → Reply → D → Prop}

/-- The driver of PostgreSQL on a server that is watched. -/
def watchedDriver (server : Server ς) (look : ς → D) : SqlDriver (ς × List (Sight D)) :=
  ⟨.postgresql, server.watched look⟩

/-- A database inside a transaction of that driver. -/
def watchedWithin (server : Server ς) (look : ς → D) (n : Nat) : Database (WatchedStore ς D) :=
  ⟨(watchedDriver server look).adapter, .scope n⟩

/-- One call or several calls inside a transaction of some depth, from `s` to `s'`. On the server
they lead from `x` to `x'`, and `log` is what was seen. -/
structure Passes (session : ς → Option (SqlSession D)) (depth : Nat) (s s' : WatchedStore ς D)
    (x x' : SqlSession D) (log : List (Sight D)) : Prop where
  keeps : s.Keeps s'
  session : session s'.server.1 = some x'
  grows : x.Grows depth x'
  log : s'.server.2 = s.server.2 ++ log

/-- Work after work passes from the first state to the last, with the sights of both. -/
theorem Passes.trans {depth : Nat} {s s₁ s₂ : WatchedStore ς D} {x x₁ x₂ : SqlSession D}
    {log log' : List (Sight D)} (h : Passes session depth s s₁ x x₁ log)
    (h' : Passes session depth s₁ s₂ x₁ x₂ log') :
    Passes session depth s s₂ x x₂ (log ++ log') where
  keeps := h.keeps.trans h'.keeps
  session := h'.session
  grows := h.grows.trans h'.grows
  log := by rw [h'.log, h.log, List.append_assoc]

/-- The answer of some work inside a transaction, with what it leads to. -/
structure Played (session : ς → Option (SqlSession D))
    (effect : String → List Argument → D → Reply → D → Prop) {α : Type} (w : Work α) (depth : Nat)
    (s s' : WatchedStore ς D) (x x' : SqlSession D) (answer : Except DbError α)
    (log : List (Sight D)) : Prop where
  passes : Passes session depth s s' x x' log
  reference : w.Reference effect x.toMoment answer x'.toMoment log
  failed : x'.failed = true → ∃ e, answer = .error e

/-- Work that succeeds leaves a transaction that has not failed. -/
theorem not_failed_of_ok {α : Type} {failed : Bool} {value : α}
    (h : failed = true → ∃ e : DbError, (.ok value : Except DbError α) = .error e) :
    failed = false := by
  refine Bool.eq_false_iff.mpr fun hfailed => ?_
  obtain ⟨e, he⟩ := h hfailed
  exact absurd he (by simp)

variable (hlaws : server.Savepoints connection session look IsData effect)
  {s : WatchedStore ς D} {n : Nat} {t : SqlScope} {x : SqlSession D}

include hlaws

/-- **A statement.** It has its effect or fails. -/
theorem execute_passes {r : SqlRequest} (hdata : IsData r.postgresText) (h : s.Active n t)
    (hc : t.connection = connection) (hx : session s.server.1 = some x) :
    (∃ reply data s', (watchedWithin server look n).execute (.sql r) s
        = (.ok (Dialect.postgresql.output r.postgresText reply), s') ∧ x.failed = false ∧
      effect r.postgresText (r.params.map Argument.ofJson) x.data reply data ∧
      Passes session t.info.depth s s' x { x with data := data } [⟨some (.ok reply), data⟩]) ∨
    ∃ e s', (watchedWithin server look n).execute (.sql r) s
      = (.error (.backend .postgresql e), s') ∧
      Passes session t.info.depth s s' x { x with failed := true } [⟨some (.error e), x.data⟩] := by
  have hexecute : (watchedWithin server look n).execute (.sql r) s
      = (watchedDriver server look).runStatement r t.connection s :=
    (watchedDriver server look).executeWithin_sql r h
  rw [hexecute, hc]
  -- By what the server replies; either way one command was watched.
  rcases hsend : server.send connection ((watchedDriver server look).statementOf r) s.server.1
    with ⟨e | reply, after⟩
  · right
    have hafter := hlaws.statement_error hx hdata hsend
    refine ⟨e, _, SqlDriver.runStatement_of_error _ (Server.watched_send hsend), ?_⟩
    refine ⟨SqlStore.keeps_server _ _, hafter, .of_eq rfl rfl, ?_⟩
    rw [hlaws.look_eq hafter]
    rfl
  · left
    obtain ⟨hx, data, heffect, hafter⟩ := hlaws.statement_ok hx hdata hsend
    refine ⟨reply, data, _, SqlDriver.runStatement_of_ok _ (Server.watched_send hsend), hx, heffect,
      ?_⟩
    refine ⟨SqlStore.keeps_server _ _, hafter, .of_eq rfl rfl, ?_⟩
    rw [hlaws.look_eq hafter]
    rfl

/-- **A transaction inside one that has failed.** Its savepoint is refused, and its work is not
done. -/
theorem transaction_blocked {β : Type} (inner : Work β) (h : s.Active n t)
    (hc : t.connection = connection) (hx : session s.server.1 = some x) (hf : x.failed = true) :
    ∃ e s', ((watchedWithin server look n).transaction fun tx => inner.run tx) s
        = (.error (.backend .postgresql e), s') ∧
      Passes session t.info.depth s s' x x [.mark x.data] := by
  obtain ⟨e, after, hsend, hafter⟩ := hlaws.savepoint_failed (t.info.depth + 1) hx hf
  rw [← hc] at hsend
  -- The refused savepoint is the one command that is sent.
  have hbegin := (watchedDriver server look).beginWithin_of_error rfl h (Server.watched_send hsend)
  refine ⟨e, _, Adapter.transaction_of_refused hbegin, SqlStore.keeps_server _ _, hafter,
    .of_eq rfl rfl, ?_⟩
  rw [hlaws.look_eq hafter]
  rfl

/-- **The beginning of a transaction inside one that has not failed.** Its savepoint lies upon the
others. -/
theorem begin_passes (h : s.Active n t) (hc : t.connection = connection)
    (hx : session s.server.1 = some x) (hf : x.failed = false) :
    ∃ s₁ t₁, (watchedDriver server look).adapter.begin (.scope n) s = (.ok s.scopes.length, s₁) ∧
      s₁.Active s.scopes.length t₁ ∧ t₁.connection = connection ∧
      t₁.info.depth = t.info.depth + 1 ∧ t₁.outermost ≠ s.scopes.length ∧ s.Keeps s₁ ∧
      session s₁.server.1 = some { x with
        savepoints := (Transaction.savepointOf (t.info.depth + 1), x.data) :: x.savepoints } ∧
      s₁.server.2 = s.server.2 ++ [.mark x.data] := by
  obtain ⟨reply, after, hsend, hafter⟩ := hlaws.savepoint (t.info.depth + 1) hx hf
  rw [← hc] at hsend
  -- The savepoint carries the data of this moment, which the end may go back to.
  have hbegin := (watchedDriver server look).beginWithin_of_ok rfl h (Server.watched_send hsend)
  refine ⟨_, s.child t, hbegin, h.opened _, hc, rfl, h.outermost_ne, s.keeps_concat _ _, hafter, ?_⟩
  change s.server.2 ++ [.mark (look after)] = _
  rw [hlaws.look_eq hafter]

/-- **The end of a transaction inside another one.** Its savepoint is found beneath what its work
has left: it is given up, or gone back to and left behind. -/
theorem settle_passes {β : Type} {result : Except DbError β} {y : SqlSession D} {data : D}
    {older : List (String × D)} (h : s.Active n t) (hc : t.connection = connection)
    (hdepth : t.info.depth ≠ 0) (hne : t.outermost ≠ n) (hx : session s.server.1 = some x)
    (hy : y.savepoints = (Transaction.savepointOf t.info.depth, data) :: older)
    (hgrows : y.Grows t.info.depth x) (hfailed : x.failed = true → ∃ e, result = .error e) :
    ∃ b x', (watchedDriver server look).adapter.settle n result s
        = (result, { s.finish n with server := (b, s.server.2 ++ [.mark x'.data]) }) ∧
      session b = some x' ∧ x'.start = x.start ∧ x'.failed = false ∧
      x'.toMoment = Moment.settled ⟨data, false⟩ result x.toMoment ∧
      (x'.savepoints = older ∨
        x'.savepoints = (Transaction.savepointOf t.info.depth, data) :: older) := by
  have hsince := SqlSession.since_of_grows hy hgrows
  -- An answer needs work that has not failed, so its savepoint can be released; a failure goes back
  -- to it.
  cases result with
  | ok value =>
    have hf : x.failed = false := not_failed_of_ok hfailed
    obtain ⟨reply, b, hsend, hb⟩ := hlaws.release hx hf hsince
    rw [← hc] at hsend
    refine ⟨b, _, ?_, hb, rfl, hf, rfl, Or.inl rfl⟩
    rw [← hlaws.look_eq hb]
    exact (watchedDriver server look).settle_nested_of_ok h hdepth hne (Server.watched_send hsend)
  | error e =>
    obtain ⟨reply, b, hsend, hb⟩ := hlaws.rollbackTo hx hsince
    rw [← hc] at hsend
    refine ⟨b, _, ?_, hb, rfl, rfl, rfl, Or.inr rfl⟩
    rw [← hlaws.look_eq hb]
    exact (watchedDriver server look).settle_nested_of_ok h hdepth hne (Server.watched_send hsend)

/-- **A transaction inside one that has not failed.** Its work is given by what it does on a
database inside it. -/
theorem transaction_passes {β : Type} {inner : Work β}
    (hinner : ∀ (s : WatchedStore ς D) (n : Nat) (t : SqlScope) (x : SqlSession D),
      s.Active n t → t.connection = connection → session s.server.1 = some x → x.failed = false →
      ∃ answer s' x' log, inner.run (watchedWithin server look n) s = (answer, s') ∧
        Played session effect inner t.info.depth s s' x x' answer log)
    (h : s.Active n t) (hc : t.connection = connection) (hx : session s.server.1 = some x)
    (hf : x.failed = false) :
    ∃ result s' x' inside log,
      ((watchedWithin server look n).transaction fun tx => inner.run tx) s = (result, s') ∧
      inner.Reference effect x.toMoment result inside log ∧
      x'.toMoment = x.toMoment.settled result inside ∧ x'.failed = false ∧
      Passes session t.info.depth s s' x x' (.mark x.data :: log ++ [.mark x'.data]) := by
  -- Three stores: with the savepoint, after the work, and after the end.
  obtain ⟨s₁, t₁, hbegin, h₁, hc₁, hdepth, hne, hkeeps, hx₁, hlog⟩ := begin_passes hlaws h hc hx hf
  obtain ⟨result, s₂, x₂, log, hwork, hplayed⟩ := hinner s₁ _ t₁ _ h₁ hc₁ hx₁ hf
  obtain ⟨hpasses, hreference, hfailed⟩ := hplayed
  obtain ⟨b, x₃, hend, hx₃, hstart, hf₃, hmoment, hsavepoints⟩ := settle_passes hlaws
    (h₁.keep hpasses.keeps) hc₁ (by omega) hne hpasses.session
      (by rw [hdepth]) hpasses.grows hfailed
  have hm : x.toMoment = ⟨x.data, false⟩ := by rw [← hf]
  refine ⟨result, { s₂.finish s.scopes.length with server := (b, s₂.server.2 ++ [.mark x₃.data]) },
    x₃, x₂.toMoment, log, ?_, hreference, ?_, hf₃, ⟨?_, hx₃, ⟨?_, ?_⟩, ?_⟩⟩
  · exact (Adapter.transaction_of_begun hbegin hwork).trans hend
  · rw [hmoment, hm]
  · exact ((hkeeps.trans hpasses.keeps).finish (Nat.le_refl _)).trans (SqlStore.keeps_server _ _)
  · -- Only the savepoint of this transaction may be left behind, and it is one level below.
    rcases hsavepoints with hnone | hkept
    · exact ⟨[], hnone, by simp⟩
    · refine ⟨[_], hkept, fun p hp => ⟨t₁.info.depth, by omega, ?_⟩⟩
      rw [List.mem_singleton.mp hp]
  · rw [hstart, hpasses.grows.start]
  · change s₂.server.2 ++ [.mark x₃.data] = _
    rw [hpasses.log, hlog]
    simp only [List.append_assoc, List.cons_append, List.nil_append]

/-- **Work inside a transaction.** On the server that is watched it plays as in the reference
semantics. -/
theorem run_played {α : Type} (w : Work α) (hw : w.Uses (IsStatement IsData))
    (hcareful : w.Careful) :
    ∀ (s : WatchedStore ς D) (n : Nat) (t : SqlScope) (x : SqlSession D),
      s.Active n t → t.connection = connection → session s.server.1 = some x →
      (x.failed = true → w.Fails) →
      ∃ answer s' x' log, w.run (watchedWithin server look n) s = (answer, s') ∧
        Played session effect w t.info.depth s s' x x' answer log := by
  -- On the tree of the work, as the reference semantics is defined: one case for each of its rules.
  induction w with
  | done answer =>
    intro s n t x h hc hx hfails
    have hnothing : Passes session t.info.depth s s x x [] :=
      ⟨.refl s, hx, .of_eq rfl rfl, (List.append_nil _).symm⟩
    exact ⟨answer, s, x, [], Work.run_done answer _ s, hnothing, .done, hfails⟩
  | execute r next ih =>
    intro s n t x h hc hx hfails
    cases r with
    | document r => exact absurd hw.1 id
    | sql r =>
      rcases execute_passes hlaws hw.1 h hc hx with
        ⟨reply, data, s₁, hexecute, hf, heffect, hpasses⟩ | ⟨e, s₁, hexecute, hpasses⟩
      · obtain ⟨answer, s', x', log, hrun, hplayed⟩ := ih _ (hw.2 _) (hcareful.2 _) s₁ n t _
          (h.keep hpasses.keeps) hc hpasses.session (fun hfailed => absurd hfailed (by simp [hf]))
        -- The moment after the statement is written with the mark of the one before it.
        have hnext := hplayed.reference
        simp only [hf] at hnext
        exact ⟨answer, s', x', _, (Work.run_execute hexecute).trans hrun,
          hpasses.trans hplayed.passes, .statement hf heffect hnext, hplayed.failed⟩
      · -- From here on the work can only end with an error.
        obtain ⟨answer, s', x', log, hrun, hplayed⟩ := ih _ (hw.2 _) (hcareful.2 _) s₁ n t _
          (h.keep hpasses.keeps) hc hpasses.session (fun _ => hcareful.1 _)
        exact ⟨answer, s', x', _, (Work.run_execute hexecute).trans hrun,
          hpasses.trans hplayed.passes, .refused e hplayed.reference, hplayed.failed⟩
  | transaction inner next ihInner ih =>
    intro s n t x h hc hx hfails
    by_cases hf : x.failed = true
    · -- A failure is open, so the inner transaction is blocked, and the work has to fail after it.
      obtain ⟨e, s₁, htransaction, hpasses⟩ := transaction_blocked hlaws inner h hc hx hf
      obtain ⟨answer, s', x', log, hrun, hplayed⟩ := ih _ (hw.2 _) (hcareful.2 _) s₁ n t x
        (h.keep hpasses.keeps) hc hpasses.session (fun _ => hfails hf _)
      exact ⟨answer, s', x', _, (Work.run_transaction htransaction).trans hrun,
        hpasses.trans hplayed.passes, .blocked hf e hplayed.reference, hplayed.failed⟩
    · -- However the inner transaction ends, this one has not failed after it.
      have hf : x.failed = false := Bool.eq_false_iff.mpr hf
      obtain ⟨result, s₁, x₁, inside, log, htransaction, hinner, hmoment, hf₁, hpasses⟩ :=
        transaction_passes hlaws
          (fun s n t x h hc hx hf => ihInner hw.1 hcareful.1 s n t x h hc hx
            (fun hfailed => absurd hfailed (by simp [hf]))) h hc hx hf
      obtain ⟨answer, s', x', log', hrun, hplayed⟩ := ih _ (hw.2 _) (hcareful.2 _) s₁ n t x₁
        (h.keep hpasses.keeps) hc hpasses.session (fun hfailed => absurd hfailed (by simp [hf₁]))
      have hnext := hplayed.reference
      rw [hmoment] at hnext
      refine ⟨answer, s', x', _, (Work.run_transaction htransaction).trans hrun,
        hpasses.trans hplayed.passes, ?_, hplayed.failed⟩
      have hreference := Work.Reference.transaction hf hinner hnext
      rw [← hmoment] at hreference
      rw [List.append_assoc]
      exact hreference

omit hlaws in
/-- **Transactions on PostgreSQL are snapshots.** Once the outermost transaction has begun at
`data`, its work plays as in the reference semantics, with the same answers and the same data after
every command. At the end it leaves the data that the reference semantics leaves, unless the server
refuses the end; then that failure is the answer. -/
theorem transaction_snapshot {α : Type} {w : Work α} (hw : w.Uses (IsStatement IsData))
    (hcareful : w.Careful) {opened : WatchedStore ς D} {data : D}
    (hbegin : (watchedDriver server look).adapter.begin .root s = (.ok n, opened))
    (hlaws : server.Savepoints (opened.scope n).connection session look IsData effect)
    (hsession : session opened.server.1 = some ⟨⟨data, false⟩, [], data⟩) :
    ∃ answer ended after log, w.run (watchedWithin server look n) opened = (answer, ended) ∧
      w.Reference effect ⟨data, false⟩ answer after log ∧
      ended.server.2 = opened.server.2 ++ log ∧
      let result := (Database.ofAdapter (watchedDriver server look).adapter).transaction
        (fun tx => w.run tx) s
      (result.1 = answer ∧
        result.2.server.2
          = ended.server.2 ++ [.mark (Moment.settled ⟨data, false⟩ answer after).data]) ∨
      ∃ e b, server.send (opened.scope n).connection (SqlDriver.outermostEndOf answer)
          ended.server.1 = (.error e, b) ∧
        result.1 = .error (.backend .postgresql e) := by
  obtain ⟨t, hactive, hdepth, -⟩ := (watchedDriver server look).active_of_beginOutermost hbegin
  rw [SqlStore.scope_of_getElem? hactive.here] at hlaws ⊢
  obtain ⟨answer, ended, x, log, hrun, hpasses, hreference, hfailed⟩ :=
    run_played hlaws w hw hcareful opened n t _ hactive rfl hsession
      (fun hf => absurd hf (by simp))
  -- The outermost transaction is active still, so it is the one that is ended.
  have hended := hactive.keep hpasses.keeps
  have htransaction : (Database.ofAdapter (watchedDriver server look).adapter).transaction
      (fun tx => w.run tx) s = (watchedDriver server look).adapter.settle n answer ended :=
    Adapter.transaction_of_begun hbegin hrun
  refine ⟨answer, ended, x.toMoment, log, hrun, hreference, hpasses.log, ?_⟩
  simp only [htransaction]
  rcases hsend : server.send t.connection (SqlDriver.outermostEndOf answer) ended.server.1
    with ⟨e | reply, b⟩
  · exact Or.inr ⟨e, b, rfl,
      (watchedDriver server look).settle_outermost_of_error hended hdepth
        (Server.watched_send hsend)⟩
  · refine Or.inl ?_
    rw [(watchedDriver server look).settle_outermost_of_ok hended hdepth
      (Server.watched_send hsend)]
    refine ⟨rfl, ?_⟩
    -- A commit keeps the data of the session, a rollback goes back to those of its start.
    cases answer with
    | ok value =>
      rw [hlaws.commit_ok hpasses.session (not_failed_of_ok hfailed) hsend]
      rfl
    | error e =>
      rw [hlaws.rollback_ok hpasses.session hsend, hpasses.grows.start]
      rfl

end Server

/-! ### An instance -/

/-- A statement that writes one entry. -/
def writeEntry (text : String) : SqlRequest :=
  ⟨text, [], []⟩

/-- Every statement is kept as an entry, except one on a table that does not exist. -/
def keepEntry (text : String) (_ : List Argument) (entries : List String) :
    Except DriverError (Reply × List String) :=
  if text = "INSERT INTO missing (n) VALUES (1)" then
    .error ⟨"error returned from database: relation \"missing\" does not exist", some "42P01"⟩
  else .ok (⟨[], 1, 0⟩, entries ++ [text])

/-- Two transactions inside another one, the first of which fails after it has written. -/
def failingSibling : Work Unit :=
  .transaction (.statements [writeEntry "INSERT INTO entries (n) VALUES (1)",
    writeEntry "INSERT INTO missing (n) VALUES (1)"]) fun _ =>
  .transaction (.statements [writeEntry "INSERT INTO entries (n) VALUES (2)"]) .done

/-- A store on a server without entries. -/
def entryStore : SqlStore ((List String × Option (SqlSession (List String))) ×
    List (Sight (List String))) :=
  (watchedDriver (SqlSession.server keepEntry) SqlSession.seen).start {} (([], none), [])

/-- The same store inside a transaction. -/
def entryStoreOpened : SqlStore ((List String × Option (SqlSession (List String))) ×
    List (Sight (List String))) :=
  ((watchedDriver (SqlSession.server keepEntry) SqlSession.seen).adapter.begin .root entryStore).2

/-- The first of the two leaves nothing, and the second finds its savepoint although that of the
first is still there. -/
theorem failingSibling_snapshot :
    (watchedDriver (SqlSession.server keepEntry) SqlSession.seen).adapter.begin .root entryStore
        = (.ok 0, entryStoreOpened) ∧
      ∃ answer ended after log,
        failingSibling.run (watchedWithin (SqlSession.server keepEntry) SqlSession.seen 0)
          entryStoreOpened = (answer, ended) ∧
        failingSibling.Reference
          (fun text arguments data reply data' => keepEntry text arguments data
            = .ok (reply, data'))
          ⟨[], false⟩ answer after log ∧
        ended.server.2 = entryStoreOpened.server.2 ++ log := by
  have hbegin : (watchedDriver (SqlSession.server keepEntry) SqlSession.seen).adapter.begin .root
      entryStore = (.ok 0, entryStoreOpened) := rfl
  -- Both inner transactions are made of statements, and neither of them goes on after a failure.
  have huses : failingSibling.Uses (IsStatement fun _ => True) :=
    ⟨Work.statements_uses fun _ _ => trivial,
      fun _ => ⟨Work.statements_uses fun _ _ => trivial, fun _ => trivial⟩⟩
  have hcareful : failingSibling.Careful :=
    ⟨Work.statements_careful _, fun _ => ⟨Work.statements_careful _, fun _ => trivial⟩⟩
  obtain ⟨answer, ended, after, log, hrun, hreference, hlog, -⟩ :=
    transaction_snapshot huses hcareful hbegin (SqlSession.server_savepoints keepEntry _) rfl
  exact ⟨hbegin, answer, ended, after, log, hrun, hreference, hlog⟩

end StoreBridge
