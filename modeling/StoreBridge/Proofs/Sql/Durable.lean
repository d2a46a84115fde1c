import StoreBridge.Proofs.Sql.Undo

/-!
# What an outermost transaction leaves on PostgreSQL

The work of a transaction may drop the failure of a statement and answer. `Work.kept` are the
statements that such work has a claim on: those that were answered, but for those in transactions
inside it that failed. `Reflects` says that data are what these statements have made of the data at
the beginning.

Whether the claim is good depends on one more thing. A statement that failed leaves the server's
transaction failed, and nothing but going back to a savepoint that was set before it helps.
`Work.spoils` says whether that failure is still there at the end of the work. Then the server takes
a commit for a rollback and does not say so: the transaction answers, and nothing was saved
(`spoiledCommit_not_saved`). If no failure is left, everything was saved (`transaction_durable`).

The two are followed side by side through the tree of the work (`run_lasts`), since the data of a
session are those of the kept statements only as long as it has not failed: a transaction inside
whose end is refused has not undone its writes.
-/

namespace StoreBridge

/-! ### What work has a claim on -/

namespace Work

variable {σ α β : Type}

/-- A statement that was answered. -/
def answered (r : Request) : Except DbError Output → List (Request × Output)
  | .ok output => [(r, output)]
  | .error _ => []

/-- The statements that were answered in the work, in their order, with the answers. What was done
in a transaction inside that failed is not among them. -/
def kept : {α : Type} → Work α → Database σ → σ → List (Request × Output)
  | _, .done _, _, _ => []
  | _, .execute r next, db, s =>
    let (answer, after) := db.execute r s
    answered r answer ++ (next answer).kept db after
  | _, .transaction inner next, db, s =>
    let (answer, after) := (db.transaction fun tx => inner.run tx) s
    (match answer, db.adapter.begin db.handle s with
      | .ok _, (.ok n, begun) => inner.kept (db.within n) begun
      | _, _ => []) ++ (next answer).kept db after

/-- Whether a statement has failed in the work, and was not undone since by the end of a transaction
inside whose work failed too. -/
def spoils : {α : Type} → Work α → Database σ → σ → Bool
  | _, .done _, _, _ => false
  | _, .execute r next, db, s =>
    let (answer, after) := db.execute r s
    !answer.isOk || (next answer).spoils db after
  | _, .transaction inner next, db, s =>
    let (answer, after) := (db.transaction fun tx => inner.run tx) s
    (match db.adapter.begin db.handle s with
      | (.ok n, begun) => (inner.run (db.within n) begun).1.isOk && inner.spoils (db.within n) begun
      | (.error _, _) => true) || (next answer).spoils db after

/-- What a transaction inside keeps, if it is asked for in a state. -/
def keptInside (inner : Work β) (db : Database σ) (s : σ) : List (Request × Output) :=
  match ((db.transaction fun tx => inner.run tx) s).1, db.adapter.begin db.handle s with
  | .ok _, (.ok n, begun) => inner.kept (db.within n) begun
  | _, _ => []

/-- Whether it spoils the work around it. If it does not begin, that work is spoilt already. -/
def spoilsInside (inner : Work β) (db : Database σ) (s : σ) : Bool :=
  match db.adapter.begin db.handle s with
  | (.ok n, begun) => (inner.run (db.within n) begun).1.isOk && inner.spoils (db.within n) begun
  | (.error _, _) => true

section Equations

variable {db : Database σ} {s s' begun : σ} {n : Nat} {e : DbError} {r : Request}
  {next : Except DbError Output → Work α} {inner : Work β} {further : Except DbError β → Work α}

/-- Work that begins with a request keeps this request, if it was answered, and what comes after
it. -/
theorem kept_execute {answer : Except DbError Output} (h : db.execute r s = (answer, s')) :
    (Work.execute r next).kept db s = answered r answer ++ (next answer).kept db s' := by
  have hkept : (Work.execute r next).kept db s = answered r (db.execute r s).1
      ++ (next (db.execute r s).1).kept db (db.execute r s).2 := rfl
  rw [hkept, h]

/-- Work that begins with a request spoils its transaction if the request fails, or later. -/
theorem spoils_execute {answer : Except DbError Output} (h : db.execute r s = (answer, s')) :
    (Work.execute r next).spoils db s = (!answer.isOk || (next answer).spoils db s') := by
  have hspoils : (Work.execute r next).spoils db s = (!(db.execute r s).1.isOk
      || (next (db.execute r s).1).spoils db (db.execute r s).2) := rfl
  rw [hspoils, h]

/-- Work that begins with a transaction keeps what that keeps, and what comes after it. -/
theorem kept_transaction {answer : Except DbError β}
    (h : (db.transaction fun tx => inner.run tx) s = (answer, s')) :
    (Work.transaction inner further).kept db s
      = inner.keptInside db s ++ (further answer).kept db s' := by
  have hkept : (Work.transaction inner further).kept db s = inner.keptInside db s
      ++ (further ((db.transaction fun tx => inner.run tx) s).1).kept db
        ((db.transaction fun tx => inner.run tx) s).2 := rfl
  rw [hkept, h]

/-- Work that begins with a transaction spoils its own one if that leaves it spoilt, or later. -/
theorem spoils_transaction {answer : Except DbError β}
    (h : (db.transaction fun tx => inner.run tx) s = (answer, s')) :
    (Work.transaction inner further).spoils db s
      = (inner.spoilsInside db s || (further answer).spoils db s') := by
  have hspoils : (Work.transaction inner further).spoils db s = (inner.spoilsInside db s
      || (further ((db.transaction fun tx => inner.run tx) s).1).spoils db
        ((db.transaction fun tx => inner.run tx) s).2) := rfl
  rw [hspoils, h]

/-- A transaction that fails keeps nothing. -/
theorem keptInside_of_error (h : ((db.transaction fun tx => inner.run tx) s).1 = .error e) :
    inner.keptInside db s = [] := by
  rw [keptInside, h]

/-- A transaction that succeeds keeps what its work keeps. -/
theorem keptInside_of_ok {value : β} (h : ((db.transaction fun tx => inner.run tx) s).1 = .ok value)
    (hbegin : db.adapter.begin db.handle s = (.ok n, begun)) :
    inner.keptInside db s = inner.kept (db.within n) begun := by
  rw [keptInside, h, hbegin]

/-- A transaction leaves the outer one spoilt if its work is spoilt and succeeds all the same. -/
theorem spoilsInside_of_begun {outcome : Except DbError β}
    (hbegin : db.adapter.begin db.handle s = (.ok n, begun))
    (hwork : inner.run (db.within n) begun = (outcome, s')) :
    inner.spoilsInside db s = (outcome.isOk && inner.spoils (db.within n) begun) := by
  rw [spoilsInside, hbegin]
  change ((inner.run (db.within n) begun).1.isOk && _) = _
  rw [hwork]

end Equations

end Work

/-! ### What becomes of it -/

section Laws

variable {D : Type} {effect : String → List Argument → D → Reply → D → Prop}

/-- The statements, one after the other, have made `data'` of `data`, and were answered so. -/
inductive Reflects (effect : String → List Argument → D → Reply → D → Prop) :
    D → List (Request × Output) → D → Prop
  | nil {data : D} : Reflects effect data [] data
  | cons {r : SqlRequest} {reply : Reply} {data between data' : D} {rest : List (Request × Output)}
      (heffect : effect r.postgresText (r.params.map Argument.ofJson) data reply between)
      (hrest : Reflects effect between rest data') :
      Reflects effect data ((.sql r, Dialect.postgresql.output r.postgresText reply) :: rest) data'

/-- Kept requests take effect one after the other. -/
theorem Reflects.append {data between data' : D} {kept more : List (Request × Output)}
    (h : Reflects effect data kept between) (h' : Reflects effect between more data') :
    Reflects effect data (kept ++ more) data' := by
  induction h with
  | nil => exact h'
  | cons heffect _ ih => exact .cons heffect (ih h')

/-- What a single statement has made. -/
theorem Reflects.of_singleton {r : SqlRequest} {output : Output} {data data' : D}
    (h : Reflects effect data [(.sql r, output)] data') :
    ∃ reply, effect r.postgresText (r.params.map Argument.ofJson) data reply data' := by
  cases h with
  | cons heffect hrest =>
    cases hrest
    exact ⟨_, heffect⟩

/-- Steps on a session. It has failed after them if it had before or they spoil it; and if it has
not, its data reflect what they keep. -/
structure Leads (effect : String → List Argument → D → Reply → D → Prop) (x x' : SqlSession D)
    (kept : List (Request × Output)) (spoils : Bool) : Prop where
  failed : x'.failed = (x.failed || spoils)
  reflects (hf : x'.failed = false) : Reflects effect x.data kept x'.data

/-- What leads from one session to a second and from there to a third leads from the first to the
third. A part that spoils the transaction spoils the whole. -/
theorem Leads.trans {x x' x'' : SqlSession D} {kept more : List (Request × Output)}
    {spoils further : Bool} (h : Leads effect x x' kept spoils)
    (h' : Leads effect x' x'' more further) :
    Leads effect x x'' (kept ++ more) (spoils || further) where
  failed := calc
    x''.failed = (x'.failed || further) := h'.failed
    _ = ((x.failed || spoils) || further) := by rw [h.failed]
    _ = (x.failed || (spoils || further)) := Bool.or_assoc _ _ _
  reflects hf := by
    have hbetween : x'.failed = false := by
      rw [h'.failed, Bool.or_eq_false_iff] at hf
      exact hf.1
    exact (h.reflects hbetween).append (h'.reflects hf)

variable {ς : Type} {server : Server ς} {connection : Nat} {session : ς → Option (SqlSession D)}
  {look : ς → D} {IsData : String → Prop} {s : SqlStore (ς × List Command)} {n : Nat} {t : SqlScope}
  {x : SqlSession D}

/-- On every active transaction on the connection, the work leads as it keeps and spoils. -/
def Work.Lasts {α : Type} (server : Server ς) (connection : Nat)
    (session : ς → Option (SqlSession D))
    (effect : String → List Argument → D → Reply → D → Prop) (w : Work α) : Prop :=
  ∀ (s : SqlStore (ς × List Command)) (n : Nat) (t : SqlScope) (x : SqlSession D),
    s.Active n t → t.connection = connection → session s.server.1 = some x →
    ∃ x', session (w.run (loggedWithin server n) s).2.server.1 = some x' ∧
      Leads effect x x' (w.kept (loggedWithin server n) s) (w.spoils (loggedWithin server n) s)

variable (hlaws : server.Savepoints connection session look IsData effect)

include hlaws

/-- **A statement** that is answered is kept, and one that fails spoils the work. -/
theorem execute_leads {r : SqlRequest} (hdata : IsData r.postgresText) (h : s.Active n t)
    (hc : t.connection = connection) (hx : session s.server.1 = some x) :
    ∃ answer s' x', (loggedWithin server n).execute (.sql r) s = (answer, s') ∧
      session s'.server.1 = some x' ∧
      Leads effect x x' (Work.answered (.sql r) answer) (!answer.isOk) := by
  have hexecute : (loggedWithin server n).execute (.sql r) s
      = (loggedDriver server).runStatement r t.connection s :=
    (loggedDriver server).executeWithin_sql r h
  rw [hexecute, hc]
  rcases hsend : server.send connection ((loggedDriver server).statementOf r) s.server.1
    with ⟨e | reply, b⟩
  · -- A failed statement is answered with nothing to keep, and the session has failed from then on.
    have hb := hlaws.statement_error hx hdata hsend
    refine ⟨_, _, _, SqlDriver.runStatement_of_error _ (Server.logged_send hsend), hb, ?_, nofun⟩
    exact (Bool.or_true x.failed).symm
  · -- An answered one needs a session that had not failed, and has its effect on the data.
    obtain ⟨hf, data, heffect, hb⟩ := hlaws.statement_ok hx hdata hsend
    refine ⟨_, _, _, SqlDriver.runStatement_of_ok _ (Server.logged_send hsend), hb, ?_,
      fun _ => .cons heffect .nil⟩
    exact (Bool.or_false x.failed).symm

variable (hrelease : server.RefusesRelease connection session)

include hrelease

/-- **A transaction inside** keeps what its work does, unless it fails. It spoils the work around it
if its own work answers although it is spoilt. -/
theorem transaction_leads {α : Type} {inner : Work α}
    (hinner : inner.Lasts server connection session effect)
    (huses : inner.Uses (IsStatement IsData))
    (h : s.Active n t) (hc : t.connection = connection) (hx : session s.server.1 = some x) :
    ∃ answer s' x', ((loggedWithin server n).transaction fun tx => inner.run tx) s = (answer, s') ∧
      session s'.server.1 = some x' ∧
      Leads effect x x' (inner.keptInside (loggedWithin server n) s)
        (inner.spoilsInside (loggedWithin server n) s) := by
  rcases transaction_cases h (run_sendsBelow inner) with ⟨e, b, hsavepoint, hrefused⟩ |
    ⟨reply, b, outcome, s₂, commands, hsavepoint, hwork, -, hend⟩
  · -- It has not begun, so a statement has failed before it.
    rw [hc] at hsavepoint
    obtain ⟨hf, hb⟩ := hlaws.savepoint_of_error hx hsavepoint
    refine ⟨_, _, x, hrefused, hb, ?_, fun hnot => ?_⟩
    · rw [hf, Bool.true_or]
    · rw [hf] at hnot
      exact absurd hnot (by decide)
  · have hbegin : (loggedWithin server n).adapter.begin (loggedWithin server n).handle s
        = (.ok s.scopes.length, s.opened t (b, s.sent ++ [.savepoint (t.info.depth + 1)])) :=
      (loggedDriver server).beginWithin_of_ok rfl h (Server.logged_send hsavepoint)
    have hinside : inner.run ((loggedWithin server n).within s.scopes.length)
        (s.opened t (b, s.sent ++ [.savepoint (t.info.depth + 1)])) = (outcome, s₂) := hwork
    obtain ⟨y, answer, b', z, hy, hsend, hz, hended, -⟩ := transaction_session hlaws hrelease
      (run_grows hlaws hrelease inner huses) h hc hx hsavepoint hwork
    rw [← hc] at hsend
    have htransaction := hend answer b' hsend
    have hset := hsavepoint
    rw [hc] at hset
    obtain ⟨hf, hmarked⟩ := hlaws.savepoint_of_ok hx hset
    -- What the work inside leads to is the session that its end finds.
    obtain ⟨y', hy', hleads⟩ := hinner _ _ _ _
      (h.opened (b, s.sent ++ [.savepoint (t.info.depth + 1)])) hc hmarked
    rw [hwork, hy] at hy'
    obtain rfl := Option.some.inj hy'
    refine ⟨_, _, z, htransaction, hz, ?_⟩
    rw [Work.spoilsInside_of_begun hbegin hinside]
    cases hended with
    | undone =>
      -- Going back to the savepoint restores the data and clears the failure.
      rw [Work.keptInside_of_error (congrArg Prod.fst htransaction)]
      exact ⟨by rw [hf]; rfl, fun _ => .nil⟩
    | kept hnot =>
      rw [Work.keptInside_of_ok (congrArg Prod.fst htransaction) hbegin]
      exact ⟨hleads.failed, hleads.reflects⟩
    | refused hfailed =>
      -- The writes inside are still there, but the session has failed, so its data do not count.
      rw [Work.keptInside_of_error (congrArg Prod.fst htransaction)]
      refine ⟨hleads.failed, fun hnot => ?_⟩
      rw [hfailed] at hnot
      exact absurd hnot (by decide)

/-- **Work inside a transaction** leads as it keeps and spoils. -/
theorem run_lasts {α : Type} (w : Work α) (hw : w.Uses (IsStatement IsData)) :
    w.Lasts server connection session effect := by
  -- On the tree of the work: what is kept is put together in the order in which it was answered.
  induction w with
  | done answer =>
    intro s n t x h hc hx
    exact ⟨x, hx, (Bool.or_false _).symm, fun _ => .nil⟩
  | execute r next ih =>
    intro s n t x h hc hx
    cases r with
    | document r => exact absurd hw.1 id
    | sql r =>
      obtain ⟨answer, s₁, commands, hexecute, hsends⟩ :=
        @execute_sendsBelow ς server s n t h (.sql r)
      -- Both runs are the same one, seen as commands and as a session.
      obtain ⟨answer₁, s₁', x₁, hexecute₁, hx₁, hleads⟩ := execute_leads hlaws hw.1 h hc hx
      rw [hexecute] at hexecute₁
      obtain ⟨rfl, rfl⟩ := Prod.mk.inj hexecute₁
      obtain ⟨x', hx', hrest⟩ := ih answer (hw.2 answer) s₁ n t x₁ (h.keep hsends.keeps) hc hx₁
      rw [Work.run_execute hexecute, Work.kept_execute hexecute, Work.spoils_execute hexecute]
      exact ⟨x', hx', hleads.trans hrest⟩
  | transaction inner next ihinner ihnext =>
    intro s n t x h hc hx
    obtain ⟨answer, s₁, commands, htransaction, hsends⟩ :=
      transaction_sendsBelow h (run_sendsBelow inner)
    obtain ⟨answer₁, s₁', x₁, htransaction₁, hx₁, hleads⟩ :=
      transaction_leads hlaws hrelease (ihinner hw.1) hw.1 h hc hx
    rw [htransaction] at htransaction₁
    obtain ⟨rfl, rfl⟩ := Prod.mk.inj htransaction₁
    obtain ⟨x', hx', hrest⟩ := ihnext answer (hw.2 answer) s₁ n t x₁ (h.keep hsends.keeps) hc hx₁
    rw [Work.run_transaction htransaction, Work.kept_transaction htransaction,
      Work.spoils_transaction htransaction]
    exact ⟨x', hx', hleads.trans hrest⟩

/-- A commit of a transaction that has failed is answered, and leaves the data of its beginning. -/
def Server.DiscardsFailed (server : Server ς) (connection : Nat)
    (session : ς → Option (SqlSession D))
    (look : ς → D) : Prop :=
  ∀ (a b : ς) (x : SqlSession D) (reply : Reply), session a = some x → x.failed = true →
    server.send connection .commit a = (.ok reply, b) → look b = x.start

omit hlaws hrelease in
/-- **What a transaction that answers has saved.** If no failure was left in its work, the data are
those of the kept statements, done one after the other from the data of its beginning. If one was
left, nothing was saved. -/
theorem transaction_durable {α : Type} {w : Work α} (hw : w.Uses (IsStatement IsData))
    {opened : SqlStore (ς × List Command)} {data : D}
    (hbegin : (loggedDriver server).adapter.begin .root s = (.ok n, opened))
    (hlaws : server.Savepoints (opened.scope n).connection session look IsData effect)
    (hrelease : server.RefusesRelease (opened.scope n).connection session)
    (hdiscards : server.DiscardsFailed (opened.scope n).connection session look)
    (hsession : session opened.server.1 = some ⟨⟨data, false⟩, [], data⟩) {value : α}
    {ended : SqlStore (ς × List Command)}
    (hanswer : ((Database.ofAdapter (loggedDriver server).adapter).transaction fun tx => w.run tx) s
      = (.ok value, ended)) :
    (w.run (loggedWithin server n) opened).1 = .ok value ∧
      (w.spoils (loggedWithin server n) opened = false →
        Reflects effect data (w.kept (loggedWithin server n) opened) (look ended.server.1)) ∧
      (w.spoils (loggedWithin server n) opened = true → look ended.server.1 = data) := by
  obtain ⟨t, hactive, hdepth, -⟩ := (loggedDriver server).active_of_beginOutermost hbegin
  rw [SqlStore.scope_of_getElem? hactive.here] at hlaws hrelease hdiscards
  obtain ⟨outcome, s₂, commands, hwork, hsends⟩ := run_sendsBelow w opened n t hactive
  obtain ⟨x, hx, hleads⟩ := run_lasts hlaws hrelease w hw opened n t _ hactive rfl hsession
  -- The session still has the data of its beginning, which a spoilt commit goes back to.
  obtain ⟨x', hx', hgrows⟩ := run_grows hlaws hrelease w hw opened n t _ hactive rfl hsession
  rw [hx] at hx'
  obtain rfl := Option.some.inj hx'
  rw [hwork] at hx
  have hended := hactive.keep hsends.keeps
  -- The answer of the transaction is the answer to its end.
  have hsettle : (loggedDriver server).adapter.settle n outcome s₂ = (.ok value, ended) := by
    rw [← hanswer]
    exact (Adapter.transaction_of_begun hbegin hwork).symm
  rcases hsend : server.send t.connection (SqlDriver.outermostEndOf outcome) s₂.server.1
    with ⟨e | reply, b⟩
  · -- A refused end would be the answer.
    have herror := (loggedDriver server).settle_outermost_of_error hended hdepth
      (Server.logged_send hsend)
    rw [hsettle] at herror
    exact absurd herror nofun
  · rw [(loggedDriver server).settle_outermost_of_ok hended hdepth (Server.logged_send hsend)]
      at hsettle
    obtain ⟨rfl, rfl⟩ := Prod.mk.inj hsettle
    -- The session has failed exactly if a failure was left, and the server commits or discards
    -- accordingly.
    refine ⟨by rw [hwork], fun hgood => ?_, fun hspoilt => ?_⟩
    · have hf : x.failed = false := by
        rw [hleads.failed, hgood]
        rfl
      rw [show look _ = _ from hlaws.commit_ok hx hf hsend]
      exact hleads.reflects hf
    · have hf : x.failed = true := by
        rw [hleads.failed, hspoilt]
        rfl
      exact (hdiscards _ _ _ _ hx hf hsend).trans hgrows.start

end Laws

/-! ### A failure that is dropped -/

/-- The server with one connection answers such a commit, and drops the data. -/
theorem SqlSession.server_discardsFailed {D : Type}
    (exec : String → List Argument → D → Except DriverError (Reply × D)) (connection : Nat) :
    (SqlSession.server exec).DiscardsFailed connection Prod.snd SqlSession.seen := by
  intro a b x reply h hf hsend
  rw [SqlSession.server_send connection _ h, SqlSession.answer, if_pos hf] at hsend
  rw [← (Prod.mk.inj hsend).2]
  rfl

/-- A store on the server that keeps entries. -/
def entryStoreIdle : SqlStore ((List String × Option (SqlSession (List String))) × List Command) :=
  (loggedDriver (SqlSession.server keepEntry)).start {} (([], none), [])

/-- What a statement does to the entries. -/
def EntryEffect (text : String) (arguments : List Argument) (entries : List String) (reply : Reply)
    (entries' : List String) : Prop :=
  keepEntry text arguments entries = .ok (reply, entries')

/-- Of two transactions inside another one, the one that fails keeps nothing, and its failure is not
left: the entry of the other one is saved. -/
theorem failingSibling_durable :
    failingSibling.spoils (loggedWithin (SqlSession.server keepEntry) 0) entryStoreBegun = false ∧
      ∃ ended,
        ((Database.ofAdapter (loggedDriver (SqlSession.server keepEntry)).adapter).transaction
          fun tx => failingSibling.run tx) entryStoreIdle = (.ok (), ended) ∧
        Reflects EntryEffect [] [(.sql (writeEntry "INSERT INTO entries (n) VALUES (2)"),
          .ack ⟨1, []⟩)] (SqlSession.seen ended.server.1) := by
  have huses : failingSibling.Uses (IsStatement fun _ => True) :=
    ⟨Work.statements_uses fun _ _ => trivial,
      fun _ => ⟨Work.statements_uses fun _ _ => trivial, fun _ => trivial⟩⟩
  -- What the work keeps and whether it is spoilt is computed on the server of the example.
  have hgood : failingSibling.spoils (loggedWithin (SqlSession.server keepEntry) 0) entryStoreBegun
      = false := by decide +kernel
  have hkept : failingSibling.kept (loggedWithin (SqlSession.server keepEntry) 0) entryStoreBegun
      = [(.sql (writeEntry "INSERT INTO entries (n) VALUES (2)"), .ack ⟨1, []⟩)] := by
    decide +kernel
  have hok : ((Database.ofAdapter (loggedDriver (SqlSession.server keepEntry)).adapter).transaction
      (fun tx => failingSibling.run tx) entryStoreIdle).1.isOk = true := by decide +kernel
  rcases hanswer :
    (Database.ofAdapter (loggedDriver (SqlSession.server keepEntry)).adapter).transaction
      (fun tx => failingSibling.run tx) entryStoreIdle with ⟨e | value, ended⟩
  · rw [hanswer] at hok
    exact absurd hok Bool.false_ne_true
  · -- The rest is the theorem, on the transaction that has begun.
    have hbegin : (loggedDriver (SqlSession.server keepEntry)).adapter.begin .root entryStoreIdle
        = (.ok 0, entryStoreBegun) := rfl
    obtain ⟨-, hsaved, -⟩ := transaction_durable huses hbegin
      (SqlSession.server_savepoints keepEntry _) (SqlSession.server_refusesRelease keepEntry _)
      (SqlSession.server_discardsFailed keepEntry _) rfl hanswer
    have hreflects := hsaved hgood
    rw [hkept] at hreflects
    exact ⟨hgood, ended, rfl, hreflects⟩

/-- **The transaction answers, and nothing was saved.** The server keeps what is assumed of one. The
failure of the second statement was dropped, so the commit is one of a transaction that has
failed. -/
theorem spoiledCommit_not_saved :
    (SqlSession.server keepEntry).Savepoints 0 Prod.snd SqlSession.seen
      (fun _ => True) EntryEffect ∧
      (SqlSession.server keepEntry).RefusesRelease 0 Prod.snd ∧
      (SqlSession.server keepEntry).DiscardsFailed 0 Prod.snd SqlSession.seen ∧
      let result :=
        ((Database.ofAdapter (loggedDriver (SqlSession.server keepEntry)).adapter).transaction
          fun tx => swallowedFailure.run tx) entryStoreIdle
      result.1 = .ok () ∧
        result.2.sent = [.begin, .statement "INSERT INTO entries (n) VALUES (1)" [],
          .statement "INSERT INTO missing (n) VALUES (1)" [], .commit] ∧
        swallowedFailure.kept (loggedWithin (SqlSession.server keepEntry) 0) entryStoreBegun
          = [(.sql (writeEntry "INSERT INTO entries (n) VALUES (1)"), .ack ⟨1, []⟩)] ∧
        SqlSession.seen result.2.server.1 = [] ∧
        ¬ Reflects EntryEffect []
          (swallowedFailure.kept (loggedWithin (SqlSession.server keepEntry) 0) entryStoreBegun)
          (SqlSession.seen result.2.server.1) := by
  refine ⟨SqlSession.server_savepoints keepEntry 0, SqlSession.server_refusesRelease keepEntry 0,
    SqlSession.server_discardsFailed keepEntry 0, rfl, rfl, rfl, rfl, ?_⟩
  intro hreflects
  -- The one statement that was kept leaves an entry.
  have hkept : Reflects EntryEffect [] [(.sql (writeEntry "INSERT INTO entries (n) VALUES (1)"),
      .ack ⟨1, []⟩)] [] := hreflects
  obtain ⟨reply, heffect⟩ := hkept.of_singleton
  have hentries : ["INSERT INTO entries (n) VALUES (1)"] = ([] : List String) :=
    (Prod.mk.inj (Except.ok.inj heffect)).2
  exact absurd hentries (List.cons_ne_nil _ _)

end StoreBridge
