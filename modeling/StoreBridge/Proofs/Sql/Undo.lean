import StoreBridge.Proofs.Sql.Snapshot
import StoreBridge.Proofs.Sql.Step

/-!
# How a transaction inside another one ends on PostgreSQL

A transaction inside another one is a savepoint, and it ends with one command, which depends on the
outcome of its work only: the savepoint is given up if the work answered, and gone back to if it
failed. Whatever the server answers, that command is the last one that is sent for it
(`run_sendsBelow`, `nested_transaction_end`).

So a transaction whose work fails is undone. One whose work answers is not, and if its work has
dropped the failure of a statement, the server refuses to give up the savepoint: then the
transaction fails, what it wrote is not undone, and the transaction around it cannot go on
(`swallowedFailure_not_undone`).
-/

namespace StoreBridge

/-! ### What is sent -/

/-- A statement, or a command of savepoints of larger depths. -/
def Command.Below (depth : Nat) : Command → Prop
  | .statement _ _ => True
  | .savepoint k | .release k | .rollbackTo k => depth < k
  | .version _ | .begin | .commit | .rollback => False

/-- What is below a depth is below every larger one. -/
theorem Command.Below.mono {k l : Nat} {c : Command} (h : c.Below l) (hkl : k ≤ l) : c.Below k := by
  cases c <;> first | exact h | exact Nat.lt_of_le_of_lt hkl h

variable {ς : Type} {server : Server ς}

/-- Calls inside a transaction of some depth, and the commands that they send. -/
structure SendsBelow (depth : Nat) (s s' : SqlStore (ς × List Command)) (commands : List Command) :
    Prop where
  keeps : s.Keeps s'
  sent : s'.sent = s.sent ++ commands
  below : ∀ c ∈ commands, c.Below depth

/-- What is sent by work after work is below the same depth. -/
theorem SendsBelow.trans {depth : Nat} {s s₁ s₂ : SqlStore (ς × List Command)}
    {commands more : List Command} (h : SendsBelow depth s s₁ commands)
    (h' : SendsBelow depth s₁ s₂ more) : SendsBelow depth s s₂ (commands ++ more) where
  keeps := h.keeps.trans h'.keeps
  sent := by rw [h'.sent, h.sent, List.append_assoc]
  below c hc := (List.mem_append.mp hc).elim (h.below c) (h'.below c)

/-- A database inside a transaction of PostgreSQL, on a server that writes down what is sent. -/
def loggedWithin (server : Server ς) (n : Nat) : Database (SqlStore (ς × List Command)) :=
  ⟨(loggedDriver server).adapter, .scope n⟩

variable {s : SqlStore (ς × List Command)} {n : Nat} {t : SqlScope}

/-- A request sends its statement, or nothing. -/
theorem execute_sendsBelow (h : s.Active n t) (r : Request) : ∃ answer s' commands,
    (loggedWithin server n).execute r s = (answer, s') ∧ SendsBelow t.info.depth s s' commands := by
  cases r with
  | sql r =>
    have hexecute : (loggedWithin server n).execute (.sql r) s
        = (loggedDriver server).runStatement r t.connection s :=
      (loggedDriver server).executeWithin_sql r h
    -- A statement names no savepoint, so it is below every depth.
    have hbelow : ∀ c ∈ [(loggedDriver server).statementOf r], c.Below t.info.depth := by
      simp [SqlDriver.statementOf, Command.Below]
    rw [hexecute]
    rcases hsend : server.send t.connection ((loggedDriver server).statementOf r) s.server.1
      with ⟨e | reply, b⟩
    · exact ⟨_, _, _, SqlDriver.runStatement_of_error _ (Server.logged_send hsend),
        s.keeps_server _, rfl, hbelow⟩
    · exact ⟨_, _, _, SqlDriver.runStatement_of_ok _ (Server.logged_send hsend),
        s.keeps_server _, rfl, hbelow⟩
  | document r =>
    obtain ⟨e, hrefused⟩ := (loggedDriver server).executeWithin_document r h
    exact ⟨_, s, [], hrefused, .refl s, (List.append_nil _).symm, by simp⟩

/-- Inside every active transaction, the work sends statements, and commands of savepoints of larger
depths. -/
def Work.Confined {α : Type} (server : Server ς) (w : Work α) : Prop :=
  ∀ (s : SqlStore (ς × List Command)) (n : Nat) (t : SqlScope), s.Active n t →
    ∃ answer s' commands, w.run (loggedWithin server n) s = (answer, s') ∧
      SendsBelow t.info.depth s s' commands

/-- **A transaction inside another one.** Its savepoint is refused, and nothing else is sent; or its
work is done on a database inside it, and one more command is sent, whatever the server answers. -/
theorem transaction_cases {α : Type} (h : s.Active n t) {inner : Work α}
    (hinner : inner.Confined server) :
    (∃ e b, server.send t.connection (.savepoint (t.info.depth + 1)) s.server.1 = (.error e, b) ∧
      ((loggedWithin server n).transaction fun tx => inner.run tx) s
        = (.error (.backend .postgresql e),
          { s with server := (b, s.sent ++ [.savepoint (t.info.depth + 1)]) })) ∨
    ∃ reply b outcome s₂ commands,
      server.send t.connection (.savepoint (t.info.depth + 1)) s.server.1 = (.ok reply, b) ∧
      inner.run (loggedWithin server s.scopes.length)
        (s.opened t (b, s.sent ++ [.savepoint (t.info.depth + 1)])) = (outcome, s₂) ∧
      SendsBelow (t.info.depth + 1) (s.opened t (b, s.sent ++ [.savepoint (t.info.depth + 1)])) s₂
        commands ∧
      ∀ answer b', server.send t.connection (SqlDriver.nestedEndOf (t.info.depth + 1) outcome)
          s₂.server.1 = (answer, b') →
        ((loggedWithin server n).transaction fun tx => inner.run tx) s
          = (answer.mapError (.backend .postgresql) >>= fun _ => outcome,
            { s₂.finish s.scopes.length with
              server := (b', s₂.sent ++ [SqlDriver.nestedEndOf (t.info.depth + 1) outcome]) }) := by
  rcases hsavepoint : server.send t.connection (.savepoint (t.info.depth + 1)) s.server.1
    with ⟨e | reply, b⟩
  · refine .inl ⟨e, b, rfl, Adapter.transaction_of_refused ?_⟩
    exact (loggedDriver server).beginWithin_of_error rfl h (Server.logged_send hsavepoint)
  · right
    have hbegin := (loggedDriver server).beginWithin_of_ok rfl h (Server.logged_send hsavepoint)
    have h₁ := h.opened (b, s.sent ++ [.savepoint (t.info.depth + 1)])
    obtain ⟨outcome, s₂, commands, hwork, hsends⟩ := hinner _ _ _ h₁
    -- The work has ended no transaction that it found, so this one can still be ended.
    refine ⟨reply, b, outcome, s₂, commands, rfl, hwork, hsends, fun answer b' hend => ?_⟩
    have h₂ := h₁.keep hsends.keeps
    refine (Adapter.transaction_of_begun hbegin hwork).trans ?_
    -- The transaction is settled by the outcome of its work, also if the end is refused.
    cases answer with
    | ok reply =>
      exact (loggedDriver server).settle_nested_of_ok h₂ (Nat.succ_ne_zero _) h.outermost_ne
        (Server.logged_send hend)
    | error e =>
      exact (loggedDriver server).settle_nested_of_error h₂ (Nat.succ_ne_zero _) h.outermost_ne
        (Server.logged_send hend)

/-- It sends commands of its own savepoint, and those of its work. -/
theorem transaction_sendsBelow {α : Type} (h : s.Active n t) {inner : Work α}
    (hinner : inner.Confined server) :
    ∃ answer s' commands,
      ((loggedWithin server n).transaction fun tx => inner.run tx) s = (answer, s') ∧
      SendsBelow t.info.depth s s' commands := by
  have hsavepoint : (Command.savepoint (t.info.depth + 1)).Below t.info.depth := Nat.lt_succ_self _
  rcases transaction_cases h hinner with ⟨e, b, -, hrefused⟩ |
    ⟨reply, b, outcome, s₂, commands, -, hwork, hsends, hend⟩
  · exact ⟨_, _, [.savepoint (t.info.depth + 1)], hrefused, s.keeps_server _, rfl, by simpa⟩
  · rcases hsend : server.send t.connection
      (SqlDriver.nestedEndOf (t.info.depth + 1) outcome) s₂.server.1 with ⟨answer, b'⟩
    refine ⟨_, _, .savepoint (t.info.depth + 1) ::
      (commands ++ [SqlDriver.nestedEndOf (t.info.depth + 1) outcome]), hend answer b' hsend,
      ?_, ?_, ?_⟩
    · have hopened : s.Keeps s₂ := (s.keeps_concat _ _).trans hsends.keeps
      exact (hopened.finish (Nat.le_refl _)).trans (SqlStore.keeps_server _ _)
    · change s₂.sent ++ _ = _
      rw [hsends.sent]
      simp [SqlStore.sent, SqlStore.opened]
    · -- The savepoint and its end are one level below, and what the work sends is further below.
      intro c hc
      rcases List.mem_cons.mp hc with rfl | hc
      · exact hsavepoint
      rcases List.mem_append.mp hc with hc | hc
      · exact (hsends.below c hc).mono (Nat.le_succ _)
      · rw [List.mem_singleton.mp hc]
        cases outcome <;> exact Nat.lt_succ_self _

/-- **Work inside a transaction** sends statements, and commands of savepoints of larger depths,
whatever the server answers. It ends no transaction that was there before. -/
theorem run_sendsBelow {α : Type} (w : Work α) : w.Confined server := by
  -- On the tree of the work. The transaction that the steps are made in stays active.
  induction w with
  | done answer =>
    intro s n t h
    exact ⟨answer, s, [], rfl, .refl s, (List.append_nil _).symm, by simp⟩
  | execute r next ih =>
    intro s n t h
    obtain ⟨answer, s₁, commands, hexecute, hsends⟩ := execute_sendsBelow h r
    obtain ⟨answer', s', more, hrun, hsends'⟩ := ih answer s₁ n t (h.keep hsends.keeps)
    exact ⟨answer', s', _, (Work.run_execute hexecute).trans hrun, hsends.trans hsends'⟩
  | transaction inner next ihinner ihnext =>
    intro s n t h
    obtain ⟨answer, s₁, commands, hrun, hsends⟩ := transaction_sendsBelow h ihinner
    obtain ⟨answer', s', more, hnext, hsends'⟩ := ihnext answer s₁ n t (h.keep hsends.keeps)
    exact ⟨answer', s', _, (Work.run_transaction hrun).trans hnext, hsends.trans hsends'⟩

/-! ### What becomes of the data -/

section Laws

variable {D : Type} {connection : Nat} {session : ς → Option (SqlSession D)} {look : ς → D}
  {IsData : String → Prop} {effect : String → List Argument → D → Reply → D → Prop}

/-- No savepoint can be given up once a statement has failed. -/
def Server.RefusesRelease (server : Server ς) (connection : Nat)
    (session : ς → Option (SqlSession D)) : Prop :=
  ∀ (a : ς) (x : SqlSession D) (k : Nat), session a = some x → x.failed = true →
    ∃ e b, server.send connection (.release k) a = (.error e, b) ∧ session b = some x

/-- The end of a transaction whose savepoint was set at `data`, by the outcome of its work: what is
answered, and what becomes of the session `y` that the work has left. -/
inductive SavepointEnd {α : Type} (depth : Nat) (data : D) (older : List (String × D))
    (y : SqlSession D) : Except DbError α → Except DriverError Reply → SqlSession D → Prop
  /-- The work has failed. Its writes are undone, and the session has not failed any more. -/
  | undone {e : DbError} {reply : Reply} :
    SavepointEnd depth data older y (.error e) (.ok reply)
      ⟨⟨data, false⟩, (Transaction.savepointOf depth, data) :: older, y.start⟩
  /-- The work has answered, and no statement has failed. Its writes are kept. -/
  | kept {value : α} {reply : Reply} (hf : y.failed = false) :
    SavepointEnd depth data older y (.ok value) (.ok reply) { y with savepoints := older }
  /-- The work has answered although a statement has failed. The end is refused, and everything
  stays as it is: the writes, the savepoint and the failure. -/
  | refused {value : α} {e : DriverError} (hf : y.failed = true) :
    SavepointEnd depth data older y (.ok value) (.error e) y

/-- What it leaves behind are savepoints of larger depths. -/
theorem SavepointEnd.grows {α : Type} {depth : Nat} {data : D} {x y z : SqlSession D}
    {outcome : Except DbError α} {answer : Except DriverError Reply}
    (h : SavepointEnd (depth + 1) data x.savepoints y outcome answer z)
    (hgrows : SqlSession.Grows (depth + 1)
      { x with savepoints := (Transaction.savepointOf (depth + 1), data) :: x.savepoints } y) :
    x.Grows depth z := by
  have hstart : y.start = x.start := hgrows.start
  -- Going back to a savepoint keeps it, releasing it removes it and all upon it.
  cases h with
  | undone =>
    refine ⟨⟨[(Transaction.savepointOf (depth + 1), data)], rfl, fun p hp => ?_⟩, hstart⟩
    rw [List.mem_singleton.mp hp]
    exact ⟨depth + 1, Nat.lt_succ_self _, rfl⟩
  | kept => exact .of_eq rfl hstart
  | refused =>
    -- The savepoint itself is left behind too, one level below.
    obtain ⟨stale, hy, hstale⟩ := hgrows.savepoints
    refine ⟨⟨stale ++ [(Transaction.savepointOf (depth + 1), data)], ?_, fun p hp => ?_⟩, hstart⟩
    · rw [hy, List.append_assoc]
      rfl
    rcases List.mem_append.mp hp with hp | hp
    · obtain ⟨k, hk, hname⟩ := hstale p hp
      exact ⟨k, by omega, hname⟩
    · rw [List.mem_singleton.mp hp]
      exact ⟨depth + 1, Nat.lt_succ_self _, rfl⟩

/-- Inside every active transaction on the connection, what the work leaves behind in the session
are savepoints of larger depths. -/
def Work.Stacks {α : Type} (server : Server ς) (connection : Nat)
    (session : ς → Option (SqlSession D)) (w : Work α) : Prop :=
  ∀ (s : SqlStore (ς × List Command)) (n : Nat) (t : SqlScope) (x : SqlSession D),
    s.Active n t → t.connection = connection → session s.server.1 = some x →
    ∃ x', session (w.run (loggedWithin server n) s).2.server.1 = some x' ∧
      x.Grows t.info.depth x'

variable (hlaws : server.Savepoints connection session look IsData effect)
  (hrelease : server.RefusesRelease connection session) {x y : SqlSession D}

include hlaws hrelease

/-- The end of a transaction inside another one: its savepoint is gone back to, or given up, or the
server refuses to give it up since a statement has failed. -/
theorem savepointEnd {α : Type} (outcome : Except DbError α) {a : ς} {depth : Nat} {data : D}
    {older : List (String × D)} (hy : session a = some y)
    (hx : x.savepoints = (Transaction.savepointOf depth, data) :: older)
    (hgrows : x.Grows depth y) :
    ∃ answer b z, server.send connection (SqlDriver.nestedEndOf depth outcome) a = (answer, b) ∧
      session b = some z ∧ SavepointEnd depth data older y outcome answer z := by
  -- The savepoint is found beneath what the work has left behind.
  have hsince := SqlSession.since_of_grows hx hgrows
  cases outcome with
  | error e =>
    obtain ⟨reply, b, hsend, hb⟩ := hlaws.rollbackTo hy hsince
    exact ⟨_, b, _, hsend, hb, .undone⟩
  | ok value =>
    cases hf : y.failed with
    | false =>
      obtain ⟨reply, b, hsend, hb⟩ := hlaws.release hy hf hsince
      exact ⟨_, b, _, hsend, hb, .kept hf⟩
    | true =>
      obtain ⟨e, b, hsend, hb⟩ := hrelease a y depth hy hf
      exact ⟨_, b, _, hsend, hb, .refused hf⟩

/-- **The session after a transaction** inside one that has not failed. -/
theorem transaction_session {α : Type} {inner : Work α}
    (hinner : inner.Stacks server connection session)
    (h : s.Active n t) (hc : t.connection = connection) (hx : session s.server.1 = some x)
    {reply : Reply} {b : ς}
    (hsavepoint : server.send t.connection (.savepoint (t.info.depth + 1)) s.server.1
      = (.ok reply, b)) {outcome : Except DbError α} {s₂ : SqlStore (ς × List Command)}
    (hwork : inner.run (loggedWithin server s.scopes.length)
      (s.opened t (b, s.sent ++ [.savepoint (t.info.depth + 1)])) = (outcome, s₂)) :
    ∃ y answer b' z, session s₂.server.1 = some y ∧
      server.send connection (SqlDriver.nestedEndOf (t.info.depth + 1) outcome) s₂.server.1
        = (answer, b') ∧ session b' = some z ∧
      SavepointEnd (t.info.depth + 1) x.data x.savepoints y outcome answer z ∧
      x.Grows t.info.depth z := by
  -- The savepoint lies upon the others when the work starts.
  have hset := hsavepoint
  rw [hc] at hset
  obtain ⟨-, hmarked⟩ := hlaws.savepoint_of_ok hx hset
  -- The work leaves further savepoints upon it, and the end finds it beneath them.
  obtain ⟨y, hy, hgrows⟩ := hinner _ _ _ _
    (h.opened (b, s.sent ++ [.savepoint (t.info.depth + 1)])) hc hmarked
  rw [hwork] at hy
  obtain ⟨answer, b', z, hend, hz, hended⟩ := savepointEnd hlaws hrelease outcome hy rfl hgrows
  exact ⟨y, answer, b', z, hy, hend, hz, hended, hended.grows hgrows⟩

/-- Whether it begins or not, it leaves behind savepoints of larger depths. -/
theorem transaction_grows {α : Type} {inner : Work α}
    (hinner : inner.Stacks server connection session)
    (h : s.Active n t) (hc : t.connection = connection) (hx : session s.server.1 = some x) :
    ∃ x', session (((loggedWithin server n).transaction fun tx => inner.run tx) s).2.server.1
        = some x' ∧ x.Grows t.info.depth x' := by
  rcases transaction_cases h (run_sendsBelow inner) with ⟨e, b, hsavepoint, hrefused⟩ |
    ⟨reply, b, outcome, s₂, commands, hsavepoint, hwork, -, hend⟩
  · -- The session stays as it is.
    rw [hrefused]
    rw [hc] at hsavepoint
    exact ⟨x, (hlaws.savepoint_of_error hx hsavepoint).2, .of_eq rfl rfl⟩
  · -- It began, so its savepoint and its end were sent.
    obtain ⟨y, answer, b', z, -, hsend, hz, -, hgrows⟩ :=
      transaction_session hlaws hrelease hinner h hc hx hsavepoint hwork
    rw [← hc] at hsend
    rw [hend answer b' hsend]
    exact ⟨z, hz, hgrows⟩

omit hrelease in
/-- A statement leaves the savepoints as they are. -/
theorem execute_session {r : SqlRequest} (hdata : IsData r.postgresText) (h : s.Active n t)
    (hc : t.connection = connection) (hx : session s.server.1 = some x) :
    ∃ x', session ((loggedWithin server n).execute (.sql r) s).2.server.1 = some x' ∧
      x.Grows t.info.depth x' := by
  have hexecute : (loggedWithin server n).execute (.sql r) s
      = (loggedDriver server).runStatement r t.connection s :=
    (loggedDriver server).executeWithin_sql r h
  rw [hexecute, hc]
  -- Failed or not, a statement sets no savepoint and gives none up.
  rcases hsend : server.send connection ((loggedDriver server).statementOf r) s.server.1
    with ⟨e | reply, b⟩
  · rw [SqlDriver.runStatement_of_error _ (Server.logged_send hsend)]
    exact ⟨_, hlaws.statement_error hx hdata hsend, .of_eq rfl rfl⟩
  · rw [SqlDriver.runStatement_of_ok _ (Server.logged_send hsend)]
    obtain ⟨-, data, -, hb⟩ := hlaws.statement_ok hx hdata hsend
    exact ⟨_, hb, .of_eq rfl rfl⟩

/-- **The session after work inside a transaction.** What the work leaves behind are savepoints of
larger depths. -/
theorem run_grows {α : Type} (w : Work α) (hw : w.Uses (IsStatement IsData)) :
    w.Stacks server connection session := by
  -- On the tree of the work: what each part leaves behind is of a larger depth.
  induction w with
  | done answer =>
    intro s n t x h hc hx
    exact ⟨x, hx, .of_eq rfl rfl⟩
  | execute r next ih =>
    intro s n t x h hc hx
    cases r with
    | document r => exact absurd hw.1 id
    | sql r =>
      obtain ⟨answer, s₁, commands, hexecute, hsends⟩ :=
        @execute_sendsBelow ς server s n t h (.sql r)
      obtain ⟨x₁, hx₁, hgrows⟩ := execute_session hlaws hw.1 h hc hx
      rw [hexecute] at hx₁
      obtain ⟨x', hx', hgrows'⟩ := ih answer (hw.2 answer) s₁ n t x₁ (h.keep hsends.keeps) hc hx₁
      rw [Work.run_execute hexecute]
      exact ⟨x', hx', hgrows.trans hgrows'⟩
  | transaction inner next ihinner ihnext =>
    intro s n t x h hc hx
    obtain ⟨answer, s₁, commands, htransaction, hsends⟩ :=
      transaction_sendsBelow h (run_sendsBelow inner)
    obtain ⟨x₁, hx₁, hgrows⟩ := transaction_grows hlaws hrelease (ihinner hw.1) h hc hx
    rw [htransaction] at hx₁
    obtain ⟨x', hx', hgrows'⟩ := ihnext answer (hw.2 answer) s₁ n t x₁ (h.keep hsends.keeps) hc hx₁
    rw [Work.run_transaction htransaction]
    exact ⟨x', hx', hgrows.trans hgrows'⟩

end Laws

/-- **How a transaction inside another one ends.** Once its savepoint was accepted, its work is
done, and one command ends it, whatever the server answers: the savepoint is gone back to if the
work failed, and given up otherwise. The transaction answers what its work answered, unless the
server refuses that command. On a server with savepoints, the writes of work that failed are undone,
and those of other work are kept, unless one of its statements has failed: then the end is refused,
and nothing is undone. -/
theorem nested_transaction_end {α : Type} (h : s.Active n t) (inner : Work α) {reply : Reply}
    {b : ς}
    (hsavepoint : server.send t.connection (.savepoint (t.info.depth + 1)) s.server.1
      = (.ok reply, b)) :
    ∃ outcome s₂ commands answer b',
      inner.run (loggedWithin server s.scopes.length)
        (s.opened t (b, s.sent ++ [.savepoint (t.info.depth + 1)])) = (outcome, s₂) ∧
      (∀ c ∈ commands, c.Below (t.info.depth + 1)) ∧
      server.send t.connection (SqlDriver.nestedEndOf (t.info.depth + 1) outcome) s₂.server.1
        = (answer, b') ∧
      let result := ((loggedWithin server n).transaction fun tx => inner.run tx) s
      result.1 = (answer.mapError (.backend .postgresql) >>= fun _ => outcome) ∧
      result.2.sent = s.sent ++ .savepoint (t.info.depth + 1) ::
        (commands ++ [SqlDriver.nestedEndOf (t.info.depth + 1) outcome]) ∧
      ∀ (D : Type) (session : ς → Option (SqlSession D)) (look : ς → D) (IsData : String → Prop)
        (effect : String → List Argument → D → Reply → D → Prop) (x : SqlSession D),
        server.Savepoints t.connection session look IsData effect →
        server.RefusesRelease t.connection session → inner.Uses (IsStatement IsData) →
        session s.server.1 = some x →
        ∃ y z, session s₂.server.1 = some y ∧ session result.2.server.1 = some z ∧
          SavepointEnd (t.info.depth + 1) x.data x.savepoints y outcome answer z := by
  -- Its savepoint was accepted, so its work is done and one command ends it.
  rcases transaction_cases h (run_sendsBelow inner) with ⟨e, b₀, hrefused, -⟩ |
    ⟨reply₀, b₀, outcome, s₂, commands, haccepted, hwork, hsends, hend⟩
  · rw [hsavepoint] at hrefused
    exact absurd (Prod.mk.inj hrefused).1 nofun
  rw [hsavepoint] at haccepted
  obtain ⟨-, rfl⟩ := Prod.mk.inj haccepted
  rcases hsend : server.send t.connection (SqlDriver.nestedEndOf (t.info.depth + 1) outcome)
    s₂.server.1 with ⟨answer, b'⟩
  refine ⟨outcome, s₂, commands, answer, b', hwork, hsends.below, hsend, ?_⟩
  rw [hend answer b' hsend]
  refine ⟨rfl, ?_, ?_⟩
  · change s₂.sent ++ _ = _
    rw [hsends.sent]
    simp [SqlStore.sent, SqlStore.opened]
  · -- What the session holds is said for every server with savepoints, however it is looked at.
    intro D session look IsData effect x hlaws hrelease huses hx
    obtain ⟨y, answer₀, b₀, z, hy, hsend₀, hz, hended, -⟩ := transaction_session hlaws hrelease
      (run_grows hlaws hrelease inner huses) h rfl hx hsavepoint hwork
    rw [hsend] at hsend₀
    obtain ⟨rfl, rfl⟩ := Prod.mk.inj hsend₀
    exact ⟨y, z, hy, hz, hended⟩

/-! ### A failure that is dropped -/

/-- A server with one connection does not give up a savepoint after a failure. -/
theorem SqlSession.server_refusesRelease {D : Type}
    (exec : String → List Argument → D → Except DriverError (Reply × D)) (connection : Nat) :
    (SqlSession.server exec).RefusesRelease connection Prod.snd := by
  intro a x k h hf
  rw [SqlSession.server_send connection _ h, SqlSession.answer, if_pos hf]
  exact ⟨_, _, rfl, rfl⟩

/-- A store on a server that keeps entries, inside a transaction. -/
def entryStoreBegun : SqlStore ((List String × Option (SqlSession (List String))) × List Command) :=
  ((loggedDriver (SqlSession.server keepEntry)).adapter.begin .root
    ((loggedDriver (SqlSession.server keepEntry)).start {} (([], none), []))).2

/-- Writes an entry, and drops the failure of a further statement. -/
def swallowedFailure : Work Unit :=
  .execute (.sql (writeEntry "INSERT INTO entries (n) VALUES (1)")) fun _ =>
  .execute (.sql (writeEntry "INSERT INTO missing (n) VALUES (1)")) fun _ => .done (.ok ())

/-- Its end is that of a nested transaction: it goes one of the ways that `SavepointEnd` lists. -/
theorem swallowedFailure_end :
    entryStoreBegun.Active 0 (entryStoreBegun.scope 0) ∧
      ∃ outcome s₂ y z answer,
        swallowedFailure.run (loggedWithin (SqlSession.server keepEntry) 1)
          (entryStoreBegun.opened (entryStoreBegun.scope 0)
            (([], some ⟨⟨[], false⟩, [(Transaction.savepointOf 1, [])], []⟩),
              [.begin, .savepoint 1]))
          = (outcome, s₂) ∧
        s₂.server.1.2 = some y ∧ SavepointEnd 1 [] [] y outcome answer z := by
  have hactive : entryStoreBegun.Active 0 (entryStoreBegun.scope 0) := ⟨rfl, rfl, rfl⟩
  obtain ⟨outcome, s₂, commands, answer, b', hwork, -, -, -, -, hdata⟩ :=
    @nested_transaction_end _ (SqlSession.server keepEntry) _ _ _ _ hactive swallowedFailure _ _ rfl
  -- The server of the example is one with savepoints, and the work is made of statements.
  obtain ⟨y, z, hy, -, hended⟩ := hdata _ _ _ _ _ ⟨⟨[], false⟩, [], []⟩
    (SqlSession.server_savepoints keepEntry _) (SqlSession.server_refusesRelease keepEntry _)
    ⟨trivial, fun _ => ⟨trivial, fun _ => trivial⟩⟩ rfl
  exact ⟨hactive, outcome, s₂, y, z, answer, hwork, hy, hended⟩

/-- **It is not undone.** The transaction fails, but its savepoint was given up and not gone back
to: its entry is still there, and the transaction around it cannot go on. -/
theorem swallowedFailure_not_undone :
    let result := ((loggedWithin (SqlSession.server keepEntry) 0).transaction
      fun tx => swallowedFailure.run tx) entryStoreBegun
    result.1 = .error (.backend .postgresql SqlSession.aborted) ∧
      result.2.sent = [.begin, .savepoint 1, .statement "INSERT INTO entries (n) VALUES (1)" [],
        .statement "INSERT INTO missing (n) VALUES (1)" [], .release 1] ∧
      Command.rollbackTo 1 ∉ result.2.sent ∧
      result.2.server.1.2.map (fun x => x.toMoment)
        = some ⟨["INSERT INTO entries (n) VALUES (1)"], true⟩ := by
  have hsent : (((loggedWithin (SqlSession.server keepEntry) 0).transaction
      fun tx => swallowedFailure.run tx) entryStoreBegun).2.sent
      = [.begin, .savepoint 1, .statement "INSERT INTO entries (n) VALUES (1)" [],
        .statement "INSERT INTO missing (n) VALUES (1)" [], .release 1] := rfl
  refine ⟨rfl, hsent, ?_, rfl⟩
  rw [hsent]
  decide

end StoreBridge
