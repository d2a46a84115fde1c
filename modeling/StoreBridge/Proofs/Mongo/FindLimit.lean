import StoreBridge.Proofs.Mongo.Dispatch
import StoreBridge.Proofs.Sql.RowLimit
import StoreBridge.Sqlite.Plan

/-!
# The limit of a find

The last limit of a chain goes to the server as a number of 64 bits with a sign. A greater one is
cut to the greatest of these, which can only make the answer shorter. Nothing is said of zero, and a
server takes it for no limit: it answers with every document that matches. So a find is limited by a
positive limit and unlimited by zero (`find_limit`), while SQL leaves no row of a statement with
`LIMIT 0`.

What the server does is assumed (`DocumentServer.MindsLimits`), what is sent to it is not: a find
answers exactly if its filter can be read and the server answers the command, and its rows are the
documents of the reply (`DocumentServer.runFind_eq_ok_iff`).
-/

namespace StoreBridge

variable {ς : Type}

namespace MongoStore

/-- The session in which the next command on a handle is sent. -/
def session (s : MongoStore ς) : Handle → Session
  | .root => .outside
  | .scope n => .within n (!(s.scope n).started)

/-- Whether calls on a handle are let through: the adapter is open, or the transaction has not
ended. -/
def Accepts (s : MongoStore ς) : Handle → Prop
  | .root => s.lifecycle.closed = false
  | .scope n => (s.scope n).finished = false

end MongoStore

namespace DocumentServer

variable (server : DocumentServer ς) (h : Handle) (s : MongoStore ς)

/-- **What is assumed of a server.** A positive limit of a find is one for the answer. Without a
limit, or with zero for one, the answer has all the documents that match the filter, of which there
are `matching`. -/
structure MindsLimits (matching : ς → Session → String → Document → Nat) : Prop where
  capped {state after : ς} {session : Session} {collection : String} {filter : Document}
    {projection sort : Option Document} {limit : Nat} {reply : DocumentReply} :
    0 < limit →
    server.request session (.find collection filter projection sort (some limit)) state
      = (.ok reply, after) →
    reply.documents.length ≤ limit
  uncapped {state after : ς} {session : Session} {collection : String} {filter : Document}
    {projection sort : Option Document} {limit : Option Nat} {reply : DocumentReply} :
    limit.getD 0 = 0 →
    server.request session (.find collection filter projection sort limit) state
      = (.ok reply, after) →
    reply.documents.length = matching state session collection filter

/-! ### What a find sends and answers -/

/-- The answer to a command is the answer to the request for it in the session of the handle. That
the transaction starts in between is no matter of the answer. -/
theorem sendOn_answer (c : DocumentCommand) :
    (server.sendOn h c s).1 =
      (server.request (s.session h) c s.server).1.mapError MongoStore.failure := by
  cases h with
  | root => rfl
  | scope n =>
    -- In a transaction a server is selected first, and what fails then fails in both.
    rcases hselect : server.select s.server with ⟨e | u, after⟩
    · have hcall : MongoStore.exchange server.select MongoStore.failure s
          = (.error (MongoStore.failure e), { s with server := after }) := by
        rw [MongoStore.exchange, hselect]
        rfl
      rw [sendOn, Call.bind_of_error hcall, request, step_of_error hselect]
      rfl
    · have hcall : MongoStore.exchange server.select MongoStore.failure s
          = (.ok u, { s with server := after }) := by
        rw [MongoStore.exchange, hselect]
        rfl
      rw [sendOn, Call.bind_of_ok hcall, request, step_of_ok hselect]
      rfl

/-- The command that a find sends, with its filter read. -/
def findCommand (r : DocumentRequest) (filter : Document) : DocumentCommand :=
  .find r.collection filter (r.operation.projection.map Document.projection)
    (if r.operation.sort.isEmpty then none else some (Document.sort r.operation.sort))
    (r.operation.limit.map fun n => min n (pow2 63 - 1))

variable {server h s} {r : DocumentRequest} {filter : Members} {out : Output}

/-- **A find answers** exactly if its filter can be read and the server answers, with the documents
of the reply as rows. -/
theorem runFind_eq_ok_iff :
    (server.runFind h r filter s).1 = .ok out ↔
      ∃ document reply, Document.ofMembers filter = .ok document ∧
        (server.request (s.session h) (findCommand r document) s.server).1 = .ok reply ∧
        out = .rows (reply.documents.map Document.toRow) := by
  constructor
  · -- The run is taken apart into the filter that is read and the command that is sent.
    intro hrun
    obtain ⟨document, mid, hfilter, hrest⟩ := Call.bind_eq_ok (Prod.ext hrun rfl)
    obtain ⟨hread, rfl⟩ : Document.ofMembers filter = .ok document ∧ s = mid :=
      Prod.mk.inj hfilter
    obtain ⟨reply, after, hsend, hout⟩ := Call.bind_eq_ok hrest
    have hanswer := sendOn_answer server h s (findCommand r document)
    rw [show server.sendOn h (findCommand r document) s = _ from hsend] at hanswer
    refine ⟨document, reply, hread, ?_, ?_⟩
    · cases hsent : (server.request (s.session h) (findCommand r document) s.server).1 with
      | error e =>
        rw [hsent] at hanswer
        exact absurd hanswer nofun
      | ok reply' =>
        rw [hsent] at hanswer
        rw [Except.ok.inj hanswer]
    · exact (Except.ok.inj (Prod.mk.inj hout).1).symm
  · -- And it is put together again from the two.
    rintro ⟨document, reply, hfilter, hsent, rfl⟩
    have hread : (Call.ofExcept (Document.ofMembers filter) : Call (MongoStore ς) Document) s
        = (.ok document, s) := by
      rw [hfilter]
      rfl
    have hanswer : (server.sendOn h (findCommand r document) s).1 = .ok reply := by
      rw [sendOn_answer, hsent]
      rfl
    rw [runFind, Call.bind_of_ok hread]
    have hsend : server.sendOn h (findCommand r document) s
        = (.ok reply, (server.sendOn h (findCommand r document) s).2) := Prod.ext hanswer rfl
    exact congrArg Prod.fst (Call.bind_of_ok hsend)

/-- A find that is set is the action that runs. -/
theorem runOperation_of_find (hfind : r.operation.find = some filter) :
    server.runOperation h r = server.runFind h r filter := by
  obtain ⟨collection, find, insert, update, delete, aggregate, projection, sort, limit⟩ := r
  obtain rfl : find = some filter := hfind
  rfl

/-- **A request for documents** runs on a handle that lets it through, and fails on any other. -/
theorem execute_eq_ok_iff :
    (server.execute h (.document r) s).1 = .ok out ↔
      s.Accepts h ∧ (server.runOperation h r s).1 = .ok out := by
  cases h with
  | root =>
    -- The root lets a request through as long as the store is open, a transaction as long as it
    -- runs.
    show _ ↔ s.lifecycle.closed = false ∧ _
    cases hclosed : s.lifecycle.closed with
    | true =>
      have hrefused : (MongoStore.ensureOpen : Call (MongoStore ς) Unit) s
          = (.error (DbError.disconnected s.lifecycle.backend), s) := by
        refine (Call.bind_of_ok (Call.get_apply s)).trans ?_
        rw [Lifecycle.ensureOpen, hclosed]
        rfl
      rw [execute, Call.bind_of_error hrefused]
      exact iff_of_false nofun fun ⟨hopen, _⟩ => absurd hopen nofun
    | false =>
      have hpassed : (MongoStore.ensureOpen : Call (MongoStore ς) Unit) s = (.ok (), s) := by
        refine (Call.bind_of_ok (Call.get_apply s)).trans ?_
        rw [Lifecycle.ensureOpen, hclosed]
        rfl
      rw [execute, Call.bind_of_ok hpassed]
      exact (and_iff_right rfl).symm
  | scope n =>
    show _ ↔ (s.scope n).finished = false ∧ _
    have hactive := server.activeScope_eq n s
    -- That the request is one for documents has been looked at before the transaction is.
    show ((server.activeScope n >>= fun _ => server.runOperation (.scope n) r) s).1 = _ ↔ _
    cases hfinished : (s.scope n).finished with
    | true =>
      rw [hfinished] at hactive
      rw [Call.bind_of_error hactive]
      exact iff_of_false nofun fun ⟨hrunning, _⟩ => absurd hrunning nofun
    | false =>
      rw [hfinished] at hactive
      rw [Call.bind_of_ok hactive]
      exact (and_iff_right rfl).symm

end DocumentServer

/-! ### Chains with a limit -/

/-- A limit without an offset leaves as many rows from the front. -/
theorem Sqlite.Relation.rows_cut (result : Sqlite.Relation) (n : Nat) :
    (result.cut (some n) none).rows = result.rows.take n := by
  have hsign : ¬ (n : Int) < 0 := by omega
  simp only [Sqlite.Relation.cut, Option.elim_some, if_neg hsign, Option.getD_none,
    Int.toNat_natCast, Int.toNat_zero, List.drop_zero]

theorem pow2_sub_one_pos : 0 < pow2 63 - 1 := by decide

section Chain

variable {server : DocumentServer ς} {matching : ς → Session → String → Document → Nat}
  {s : Schema} {ops : List Operation} {n : Nat} {r : DocumentRequest}

/-- A chain with a select compiles to a find with the conditions of the chain and its last limit. -/
theorem compile_find_eq_ok (hselect : .find ∈ chainActions ops)
    (hlimit : (ops.filterMap Operation.limit?).getLast? = some n)
    (hr : compile s ops = .ok (.document r)) :
    r.collection = s.name ∧ r.operation.find = some (chainFilter ops) ∧
      r.operation.limit = some n := by
  obtain rfl := compile_eq_ok_document hr
  have hasks := DocumentDraft.reading_asksFor ops
  refine ⟨rfl, ?_, hasks.limit.trans hlimit⟩
  rw [hasks.find, if_pos hselect]

/-- **How many documents a find gets.** A positive limit is one for the reply, also where it is too
great for the server; zero is none. -/
theorem DocumentServer.MindsLimits.length_reply (hserver : server.MindsLimits matching)
    {state after : ς} {session : Session} {filter : Document} {reply : DocumentReply}
    (hlimit : r.operation.limit = some n)
    (hsend : server.request session (findCommand r filter) state = (.ok reply, after)) :
    (0 < n → reply.documents.length ≤ n) ∧
      (n = 0 → reply.documents.length = matching state session r.collection filter) := by
  rw [findCommand, hlimit] at hsend
  constructor
  · -- The limit that is sent is capped by what a server can count, which only lowers it.
    intro hpos
    have hsent : 0 < min n (pow2 63 - 1) := lt_min hpos pow2_sub_one_pos
    exact (hserver.capped hsent hsend).trans (min_le_left _ _)
  · intro hzero
    have hsent : (Option.map (fun n => min n (pow2 63 - 1)) (some n)).getD 0 = 0 := by
      rw [hzero]
      rfl
    exact hserver.uncapped hsent hsend

end Chain

/-- **The limit of a find.** Take a chain with a select whose last limit is `n`.

On a collection, over a server that minds limits, on the adapter or in a transaction: what the run
answers is rows, at most `n` of them if `n` is positive, and one for every matching document if `n`
is zero. The run does answer if the handle lets it through, the conditions can be read and the
server replies.

On a table, without a write, the text ends in `LIMIT n`, and this leaves at most `n` rows of any
result, none if `n` is zero. -/
theorem find_limit {ops : List Operation} {n : Nat} (hselect : .find ∈ chainActions ops)
    (hlimit : (ops.filterMap Operation.limit?).getLast? = some n) :
    (∀ (s : Schema) (r : DocumentRequest), compile s ops = .ok (.document r) →
      ∀ {ς : Type} (server : DocumentServer ς) (matching : ς → Session → String → Document → Nat),
        server.MindsLimits matching → ∀ (h : Handle) (state : MongoStore ς),
        (∀ out, (server.execute h (.document r) state).1 = .ok out →
          ∃ rows filter, out = .rows rows ∧ Document.ofMembers (chainFilter ops) = .ok filter ∧
            (0 < n → rows.length ≤ n) ∧
            (n = 0 → rows.length = matching state.server (state.session h) s.name filter)) ∧
        ∀ filter reply, state.Accepts h → Document.ofMembers (chainFilter ops) = .ok filter →
          (server.request (state.session h) (DocumentServer.findCommand r filter) state.server).1
            = .ok reply →
          (server.execute h (.document r) state).1
            = .ok (.rows (reply.documents.map Document.toRow))) ∧
    ∀ (s : Schema) (q : SqlRequest), compile s ops = .ok (.sql q) →
      ops.filterMap Operation.write? = [] →
      (∃ front, q.text.toList = front ++ " LIMIT ".toList ++ natDigits n) ∧
      ∀ result : Sqlite.Relation, (result.cut (some n) none).rows.length ≤ n := by
  refine ⟨fun s r hr ς server matching hserver h state => ?_, fun s q hq hwrites => ⟨?_, ?_⟩⟩
  · -- On a collection, an answer is a find whose command carries the last limit.
    obtain ⟨hname, hfind, hr⟩ := compile_find_eq_ok hselect hlimit hr
    simp only [DocumentServer.execute_eq_ok_iff, DocumentServer.runOperation_of_find hfind,
      DocumentServer.runFind_eq_ok_iff]
    constructor
    · rintro out ⟨-, filter, reply, hfilter, hsend, rfl⟩
      obtain ⟨hcapped, huncapped⟩ := hserver.length_reply hr (Prod.ext hsend rfl)
      rw [hname] at huncapped
      refine ⟨_, filter, rfl, hfilter, ?_, ?_⟩
      · rwa [List.length_map]
      · rwa [List.length_map]
    · intro filter reply haccepts hfilter hsend
      exact ⟨haccepts, filter, reply, hfilter, hsend, rfl⟩
  · -- On a table, the clause of the limit is the last one of the text.
    obtain ⟨htext, -⟩ := compile_eq_ok_sql hq
    have hstatement := limit?_chainStatement s.name ops
    rw [hwrites] at hstatement
    refine ⟨(chainStatement s.name ops).unlimited.write, ?_⟩
    rw [htext, Statement.write_eq, hstatement, List.append_assoc]
    show _ ++ Clauses.writeLimit (ops.filterMap Operation.limit?).getLast? = _
    rw [hlimit]
    rfl
  · intro result
    rw [Sqlite.Relation.rows_cut]
    exact List.length_take_le n result.rows

/-! ### A shelf of documents -/

/-- A server that keeps one list of documents and answers a find with those that a filter admits, up
to its limit. It answers anything else with nothing. -/
def DocumentServer.shelf (admits : Document → Document → Bool) :
    DocumentServer (List Document) where
  send _ command := match command with
    | .find _ filter _ _ limit => do
      let matching := (← get).filter (admits filter)
      return ⟨if limit.getD 0 = 0 then matching else matching.take (limit.getD 0), 0, 0⟩
    | _ => return ⟨[], 0, 0⟩
  freshId := pure []

/-- A shelf is always found. -/
theorem DocumentServer.shelf_request (admits : Document → Document → Bool) :
    (shelf admits).request = (shelf admits).send := rfl

/-- A shelf of documents minds limits: it cuts its answer to a positive one and takes zero for
none. -/
theorem DocumentServer.shelf_mindsLimits (admits : Document → Document → Bool) :
    (shelf admits).MindsLimits fun documents _ _ filter =>
      (documents.filter (admits filter)).length where
  capped {state after session collection filter projection sort limit reply} hpos hsend := by
    rw [shelf_request] at hsend
    obtain ⟨hreply, -⟩ := Prod.mk.inj hsend
    rw [← Except.ok.inj hreply]
    -- The reply is computed, and a positive limit cuts it.
    show List.length (if limit = 0 then _ else List.take limit _) ≤ limit
    rw [if_neg hpos.ne']
    exact List.length_take_le _ _
  uncapped {state after session collection filter projection sort limit reply} hzero hsend := by
    rw [shelf_request] at hsend
    obtain ⟨hreply, -⟩ := Prod.mk.inj hsend
    rw [← Except.ok.inj hreply]
    show List.length (if limit.getD 0 = 0 then _ else _) = _
    rw [if_pos hzero]

/-- A shelf with three documents, of which a filter without conditions admits all. -/
def threeReaders : MongoStore (List Document) where
  server := [[("name", .string "Ada")], [("name", .string "Bo")], [("name", .string "Cy")]]

/-- All readers, the first limit replaced by another one. -/
def limitedChain (last : Nat) : List Operation :=
  [.limit 7, .select none, .limit last]

/-- Two of the three readers, and the text for the same chain on a table. -/
theorem limitedChain_two :
    (∃ r rows, compile readers (limitedChain 2) = .ok (.document r) ∧
      ((DocumentServer.shelf fun filter _ => filter.isEmpty).execute .root (.document r)
        threeReaders).1 = .ok (.rows rows) ∧ rows.length ≤ 2) ∧
    ∃ q front, compile ⟨"readers", .tabular, []⟩ (limitedChain 2) = .ok (.sql q) ∧
      q.text.toList = front ++ " LIMIT ".toList ++ natDigits 2 := by
  obtain ⟨r, hr⟩ : ∃ r, compile readers (limitedChain 2) = .ok (.document r) := ⟨_, rfl⟩
  obtain ⟨q, hq⟩ : ∃ q, compile ⟨"readers", .tabular, []⟩ (limitedChain 2) = .ok (.sql q) :=
    ⟨_, rfl⟩
  have hselect : Action.find ∈ chainActions (limitedChain 2) := by decide
  obtain ⟨hcollection, htable⟩ := find_limit (n := 2) hselect rfl
  obtain ⟨hbound, hruns⟩ := hcollection readers r hr _ _
    (DocumentServer.shelf_mindsLimits fun filter _ => filter.isEmpty) .root threeReaders
  -- The run answers, so what is said about answers applies.
  have hanswer := hruns [] _ rfl rfl rfl
  obtain ⟨rows, -, hrows, -, hlength, -⟩ := hbound _ hanswer
  obtain ⟨⟨front, hfront⟩, -⟩ := htable _ q hq rfl
  rw [hrows] at hanswer
  exact ⟨⟨r, rows, hr, hanswer, hlength (by decide)⟩, q, front, hq, hfront⟩

/-- With the limit zero all three of them are there. -/
theorem limitedChain_zero :
    ∃ r rows, compile readers (limitedChain 0) = .ok (.document r) ∧
      r.operation.limit = some 0 ∧
      ((DocumentServer.shelf fun filter _ => filter.isEmpty).execute .root (.document r)
        threeReaders).1 = .ok (.rows rows) ∧ rows.length = 3 :=
  ⟨_, _, rfl, rfl, rfl, rfl⟩

end StoreBridge
