import StoreBridge.Sql.Server

/-!
# Transactions on the side of the server

What a server with savepoints does, as far as a caller can rely on it. A `SqlSession` is an open
transaction on a connection: the data it sees, whether a statement in it has failed, its savepoints
with the data at which they were set, and the data at its beginning. A server that is `watched`
writes down what is to be seen of every command, a `Sight`.

`Server.Savepoints` collects what is assumed of a server. A savepoint is found by its name, and the
most recent one of a name counts; a savepoint that was gone back to is still there. So savepoints of
one name may pile up. `SqlSession.Grows` says how far: what a transaction of some depth leaves
behind are savepoints of larger depths only, and `since_of_grows` finds its own savepoint beneath
them.
-/

namespace StoreBridge

/-- Savepoints of different depths have different names. -/
theorem Transaction.savepointOf_injective {k l : Nat}
    (h : Transaction.savepointOf k = Transaction.savepointOf l) : k = l := by
  have hlist := congrArg String.toList h
  simp only [savepointOf, String.toList_append, natText, String.toList_ofList] at hlist
  exact natDigits_injective (List.append_cancel_left hlist)

/-- What is seen in a transaction at some point. -/
structure Moment (D : Type) where
  data : D
  /-- Whether a statement has failed. Only going back helps then. -/
  failed : Bool

/-- An open transaction. -/
structure SqlSession (D : Type) extends Moment D where
  /-- The savepoints with the data at which they were set, the most recent one first. -/
  savepoints : List (String × D)
  /-- The data at the beginning. -/
  start : D

/-- What is to be seen of a command: its answer, if it is a statement, and the data after it. -/
structure Sight (D : Type) where
  answer : Option (Except DriverError Reply)
  data : D

/-- A command that only marks a place in the transaction, seen with the data after it. -/
def Sight.mark {D : Type} (data : D) : Sight D := ⟨none, data⟩

/-- What is to be seen of a command. -/
def Command.sight {D : Type} (answer : Except DriverError Reply) (data : D) : Command → Sight D
  | .statement _ _ => ⟨some answer, data⟩
  | _ => .mark data

/-- The most recent savepoint of a name, and those before it. -/
def since {D : Type} (name : String) (savepoints : List (String × D)) : List (String × D) :=
  savepoints.dropWhile fun p => p.1 != name

namespace Server

variable {ς D : Type}

/-- The same server, which writes down what is to be seen of every command. -/
def watched (s : Server ς) (look : ς → D) : Server (ς × List (Sight D)) where
  dial state :=
    let (answer, after) := s.dial state.1
    (answer, after, state.2)
  send connection c state :=
    let (answer, after) := s.send connection c state.1
    (answer, after, state.2 ++ [c.sight answer (look after)])
  close state :=
    let (answer, after) := s.close state.1
    (answer, after, state.2)

/-- A watched server answers as it does unwatched, and one sight is added. -/
theorem watched_send {s : Server ς} {look : ς → D} {connection : Nat} {c : Command}
    {state : ς × List (Sight D)} {answer : Except DriverError Reply} {after : ς}
    (h : s.send connection c state.1 = (answer, after)) :
    (s.watched look).send connection c state
      = (answer, after, state.2 ++ [c.sight answer (look after)]) := by
  change (let (answer, after) := s.send connection c state.1
    (answer, after, state.2 ++ [c.sight answer (look after)])) = _
  rw [h]

/-- **What is assumed of a server.** `session` is the transaction that is open on the connection,
and `look` the data seen there. Statements whose text satisfies `IsData` are no commands of
transactions; `effect` says which answers they have and what becomes of the data. -/
structure Savepoints (server : Server ς) (connection : Nat) (session : ς → Option (SqlSession D))
    (look : ς → D) (IsData : String → Prop)
    (effect : String → List Argument → D → Reply → D → Prop) : Prop where
  look_eq {a : ς} {x : SqlSession D} (h : session a = some x) : look a = x.data
  /-- A statement that is answered was allowed, and has its effect. -/
  statement_ok {a b : ς} {x : SqlSession D} {text : String} {arguments : List Argument}
    {reply : Reply} (h : session a = some x) (hdata : IsData text)
    (hsend : server.send connection (.statement text arguments) a = (.ok reply, b)) :
    x.failed = false ∧ ∃ data, effect text arguments x.data reply data ∧
      session b = some { x with data := data }
  /-- A statement that fails changes no data, and the transaction has failed. -/
  statement_error {a b : ς} {x : SqlSession D} {text : String} {arguments : List Argument}
    {e : DriverError} (h : session a = some x) (hdata : IsData text)
    (hsend : server.send connection (.statement text arguments) a = (.error e, b)) :
    session b = some { x with failed := true }
  /-- A savepoint is put upon the others. -/
  savepoint {a : ς} {x : SqlSession D} (k : Nat) (h : session a = some x) (hf : x.failed = false) :
    ∃ reply b, server.send connection (.savepoint k) a = (.ok reply, b) ∧
      session b = some { x with
        savepoints := (Transaction.savepointOf k, x.data) :: x.savepoints }
  /-- No savepoint can be set once a statement has failed. -/
  savepoint_failed {a : ς} {x : SqlSession D} (k : Nat) (h : session a = some x)
    (hf : x.failed = true) :
    ∃ e b, server.send connection (.savepoint k) a = (.error e, b) ∧ session b = some x
  /-- Giving up a savepoint drops it and all later ones, and keeps the data. -/
  release {a : ς} {x : SqlSession D} {k : Nat} {p : String × D} {older : List (String × D)}
    (h : session a = some x) (hf : x.failed = false)
    (hsince : since (Transaction.savepointOf k) x.savepoints = p :: older) :
    ∃ reply b, server.send connection (.release k) a = (.ok reply, b) ∧
      session b = some { x with savepoints := older }
  /-- Going back to a savepoint restores its data, keeps it, drops all later ones, and the
  transaction has not failed any more. -/
  rollbackTo {a : ς} {x : SqlSession D} {k : Nat} {p : String × D} {older : List (String × D)}
    (h : session a = some x)
    (hsince : since (Transaction.savepointOf k) x.savepoints = p :: older) :
    ∃ reply b, server.send connection (.rollbackTo k) a = (.ok reply, b) ∧
      session b = some ⟨⟨p.2, false⟩, p :: older, x.start⟩
  /-- A transaction that has not failed keeps its data when it is committed. -/
  commit_ok {a b : ς} {x : SqlSession D} {reply : Reply} (h : session a = some x)
    (hf : x.failed = false) (hsend : server.send connection .commit a = (.ok reply, b)) :
    look b = x.data
  /-- A transaction that is rolled back leaves the data of its beginning. -/
  rollback_ok {a b : ς} {x : SqlSession D} {reply : Reply} (h : session a = some x)
    (hsend : server.send connection .rollback a = (.ok reply, b)) : look b = x.start

namespace Savepoints

variable {server : Server ς} {connection : Nat} {session : ς → Option (SqlSession D)} {look : ς → D}
  {IsData : String → Prop} {effect : String → List Argument → D → Reply → D → Prop} {a b : ς}
  {x : SqlSession D} {k : Nat}

/-- A savepoint that was set lies upon the others, and no statement has failed before it. -/
theorem savepoint_of_ok (hlaws : server.Savepoints connection session look IsData effect)
    (h : session a = some x) {reply : Reply}
    (hsend : server.send connection (.savepoint k) a = (.ok reply, b)) :
    x.failed = false ∧ session b = some { x with
      savepoints := (Transaction.savepointOf k, x.data) :: x.savepoints } := by
  -- After a failure it would have been refused.
  cases hf : x.failed with
  | true =>
    obtain ⟨e, b', hrefused, -⟩ := hlaws.savepoint_failed k h hf
    rw [hsend] at hrefused
    exact absurd (Prod.mk.inj hrefused).1 nofun
  | false =>
    obtain ⟨reply', b', hset, hb⟩ := hlaws.savepoint k h hf
    rw [hsend] at hset
    obtain ⟨-, rfl⟩ := Prod.mk.inj hset
    exact ⟨rfl, hb⟩

/-- A savepoint is refused only after a failure, and nothing changes. -/
theorem savepoint_of_error (hlaws : server.Savepoints connection session look IsData effect)
    (h : session a = some x) {e : DriverError}
    (hsend : server.send connection (.savepoint k) a = (.error e, b)) :
    x.failed = true ∧ session b = some x := by
  -- Without a failure it would have been set.
  cases hf : x.failed with
  | true =>
    obtain ⟨e', b', hrefused, hb⟩ := hlaws.savepoint_failed k h hf
    rw [hsend] at hrefused
    obtain ⟨-, rfl⟩ := Prod.mk.inj hrefused
    exact ⟨rfl, hb⟩
  | false =>
    obtain ⟨reply, b', hset, -⟩ := hlaws.savepoint k h hf
    rw [hsend] at hset
    exact absurd (Prod.mk.inj hset).1 nofun

end Savepoints

end Server

namespace SqlSession

variable {D : Type} {depth : Nat} {x y z : SqlSession D}

/-- **The savepoints of a transaction.** Below everything that was left behind, the savepoints are
those that were there, and what was left behind belongs to larger depths. -/
structure Grows (depth : Nat) (x y : SqlSession D) : Prop where
  savepoints : ∃ stale, y.savepoints = stale ++ x.savepoints ∧
    ∀ p ∈ stale, ∃ k, depth < k ∧ p.1 = Transaction.savepointOf k
  start : y.start = x.start

theorem Grows.of_eq (hs : y.savepoints = x.savepoints) (hstart : y.start = x.start) :
    Grows depth x y :=
  ⟨⟨[], hs, by simp⟩, hstart⟩

/-- Savepoints that are set upon others are set upon what is below them as well. -/
theorem Grows.trans (h : Grows depth x y) (h' : Grows depth y z) : Grows depth x z := by
  obtain ⟨stale, hy, hstale⟩ := h.savepoints
  obtain ⟨stale', hz, hstale'⟩ := h'.savepoints
  refine ⟨⟨stale' ++ stale, by rw [hz, hy, List.append_assoc], fun p hp => ?_⟩,
    h'.start.trans h.start⟩
  rcases List.mem_append.mp hp with hp | hp
  · exact hstale' p hp
  · exact hstale p hp

/-- **The savepoint of a transaction is found** beneath whatever its work has left behind. -/
theorem since_of_grows {data : D} {older : List (String × D)}
    (hx : x.savepoints = (Transaction.savepointOf depth, data) :: older) (h : Grows depth x y) :
    since (Transaction.savepointOf depth) y.savepoints
      = (Transaction.savepointOf depth, data) :: older := by
  obtain ⟨stale, hy, hstale⟩ := h.savepoints
  -- What was left behind belongs to other depths, so it has other names.
  have hpass : ∀ p ∈ stale, (p.1 != Transaction.savepointOf depth) = true := by
    intro p hp
    obtain ⟨k, hk, hname⟩ := hstale p hp
    rw [hname, bne_iff_ne]
    intro heq
    have := Transaction.savepointOf_injective heq
    omega
  rw [hy, hx, since, List.dropWhile_append_of_pos hpass, List.dropWhile_cons_of_neg (by simp)]

end SqlSession

/-! ### A server with savepoints -/

namespace SqlSession

variable {D : Type}

/-- No transaction is open. -/
def notOpen : DriverError :=
  ⟨"error returned from database: there is no transaction in progress", some "25P01"⟩

/-- A statement in the transaction has failed. -/
def aborted : DriverError :=
  ⟨"error returned from database: current transaction is aborted, commands ignored until end of " ++
    "transaction block", some "25P02"⟩

/-- No savepoint has the name. -/
def noSavepoint : DriverError :=
  ⟨"error returned from database: savepoint does not exist", some "3B001"⟩

/-- The answer to a command in an open transaction, with the data that is committed and the
transaction that is open afterwards; `exec` runs a statement on the data. -/
def answer (exec : String → List Argument → D → Except DriverError (Reply × D)) (x : SqlSession D) :
    Command → Except DriverError Reply × D × Option (SqlSession D)
  | .version _ | .begin => (.ok .empty, x.start, some x)
  | .statement text arguments =>
    if x.failed then (.error aborted, x.start, some x)
    else match exec text arguments x.data with
      | .ok (reply, data) => (.ok reply, x.start, some { x with data := data })
      | .error e => (.error e, x.start, some { x with failed := true })
  | .savepoint k =>
    if x.failed then (.error aborted, x.start, some x)
    else (.ok .empty, x.start, some { x with
      savepoints := (Transaction.savepointOf k, x.data) :: x.savepoints })
  -- Savepoints that were set later than the released one go with it.
  | .release k =>
    if x.failed then (.error aborted, x.start, some x)
    else match since (Transaction.savepointOf k) x.savepoints with
      | [] => (.error noSavepoint, x.start, some { x with failed := true })
      | _ :: older => (.ok .empty, x.start, some { x with savepoints := older })
  -- This is how a failed transaction becomes usable again, if it has the savepoint.
  | .rollbackTo k =>
    match since (Transaction.savepointOf k) x.savepoints with
    | [] => (.error noSavepoint, x.start, some { x with failed := true })
    | p :: older => (.ok .empty, x.start, some ⟨⟨p.2, false⟩, p :: older, x.start⟩)
  -- A failed transaction is committed without a complaint, and saves nothing.
  | .commit => (.ok .empty, if x.failed then x.start else x.data, none)
  | .rollback => (.ok .empty, x.start, none)

/-- A server with one connection, on which statements run by `exec`. Its state is the committed data
and the transaction that is open. -/
def server (exec : String → List Argument → D → Except DriverError (Reply × D)) :
    Server (D × Option (SqlSession D)) where
  dial state := (.ok (), state)
  send _ c state :=
    match state.2, c with
    | some x, c => x.answer exec c
    | none, .begin => (.ok .empty, state.1, some ⟨⟨state.1, false⟩, [], state.1⟩)
    | none, .version _ => (.ok .empty, state)
    | none, .statement text arguments =>
      match exec text arguments state.1 with
      | .ok (reply, data) => (.ok reply, data, none)
      | .error e => (.error e, state)
    | none, _ => (.error notOpen, state)

/-- The data that its connection sees. -/
def seen (state : D × Option (SqlSession D)) : D :=
  match state.2 with
  | some x => x.data
  | none => state.1

variable {exec : String → List Argument → D → Except DriverError (Reply × D)}
  {a b : D × Option (SqlSession D)} {x : SqlSession D}

/-- Inside a transaction the server answers as the session does. -/
theorem server_send (connection : Nat) (c : Command) (h : a.2 = some x) :
    (server exec).send connection c a = x.answer exec c := by
  obtain ⟨committed, open?⟩ := a
  obtain rfl : open? = some x := h
  rfl

/-- A statement is answered in a transaction that has not failed, and by `exec`. -/
theorem answer_statement_ok {text : String} {arguments : List Argument} {reply : Reply}
    (h : x.answer exec (.statement text arguments) = (.ok reply, b)) :
    x.failed = false ∧ ∃ data, exec text arguments x.data = .ok (reply, data) ∧
      b.2 = some { x with data := data } := by
  -- Two ways to be refused: the session has failed before, or the statement fails.
  rw [answer] at h
  split at h
  · exact absurd (Prod.mk.inj h).1 (by simp)
  · next hf =>
    split at h
    · next reply' data hexec =>
      obtain ⟨hreply, rfl⟩ := Prod.mk.inj h
      obtain rfl := Except.ok.inj hreply
      exact ⟨by simpa using hf, data, hexec, rfl⟩
    · exact absurd (Prod.mk.inj h).1 (by simp)

/-- A statement that fails leaves nothing but the mark of it. -/
theorem answer_statement_error {text : String} {arguments : List Argument} {e : DriverError}
    (h : x.answer exec (.statement text arguments) = (.error e, b)) :
    b.2 = some { x with failed := true } := by
  -- It had failed before, or it has failed now; the mark is the same.
  rw [answer] at h
  split at h
  · next hf =>
    obtain ⟨-, rfl⟩ := Prod.mk.inj h
    rw [← hf]
  · split at h
    · exact absurd (Prod.mk.inj h).1 (by simp)
    · obtain ⟨-, rfl⟩ := Prod.mk.inj h
      rfl

/-- **It is a server with savepoints**: the stack of kept states obeys each of the laws, whatever
statements do to the data. -/
theorem server_savepoints (exec : String → List Argument → D → Except DriverError (Reply × D))
    (connection : Nat) :
    (server exec).Savepoints connection Prod.snd seen (fun _ => True)
      (fun text arguments data reply data' => exec text arguments data = .ok (reply, data')) where
  look_eq h := by rw [seen, h]
  statement_ok h _ hsend := answer_statement_ok (server_send connection _ h ▸ hsend)
  statement_error h _ hsend := answer_statement_error (server_send connection _ h ▸ hsend)
  -- Savepoints are refused after a failure, going back to one never is.
  savepoint k h hf := by
    rw [server_send connection _ h, answer, if_neg (by simp [hf])]
    exact ⟨_, _, rfl, rfl⟩
  savepoint_failed k h hf := by
    rw [server_send connection _ h, answer, if_pos hf]
    exact ⟨_, _, rfl, rfl⟩
  release h hf hsince := by
    rw [server_send connection _ h, answer, if_neg (by simp [hf]), hsince]
    exact ⟨_, _, rfl, rfl⟩
  rollbackTo h hsince := by
    rw [server_send connection _ h, answer, hsince]
    exact ⟨_, _, rfl, rfl⟩
  commit_ok h hf hsend := by
    rw [server_send connection _ h, answer, if_neg (by simp [hf])] at hsend
    rw [← (Prod.mk.inj hsend).2]
    rfl
  rollback_ok h hsend := by
    rw [server_send connection _ h, answer] at hsend
    rw [← (Prod.mk.inj hsend).2]
    rfl

end SqlSession

end StoreBridge
