import StoreBridge.Proofs.Adapter.History
import StoreBridge.Proofs.Sql.Step

/-!
# The life of a transaction on PostgreSQL

Handles of transactions can be used in any order, also after the transaction has ended, and a
transaction may be ended while others that began inside it are still open. `transaction_life` says
what then becomes of a call, whatever the server answers: it is refused exactly when the transaction
itself has ended or the outermost transaction around it has, and otherwise it is sent.

So the end of an outermost transaction takes all transactions inside it along, as far as calls are
concerned. The end of one in between does not: a transaction that began inside it lives on
(`orphan_lives_on`).

The proof compares the store with the log of its history (`SqlStore.Traced`). What the log says of
each transaction is what the store has of it, and every call keeps it so (`traced_of_ran`).
-/

namespace StoreBridge

variable {ς : Type} {log : List Occurrence} {event : Occurrence} {s s' : SqlStore ς} {n : Nat}
  {t u : SqlScope}

/-- What the store has of a transaction is what the log says of it. -/
structure SqlScope.Traced (log : List Occurrence) (n : Nat) (t : SqlScope) : Prop where
  finished : t.finished = true ↔ Ended log n
  depth : t.info.depth = 0 ↔ t.outermost = n
  root : Occurrence.begun .root (.ok t.outermost) ∈ log
  line : Relation.ReflTransGen (Child log) t.outermost n

/-- What the store has of its transactions is what the log says of them. -/
structure SqlStore.Traced (log : List Occurrence) (s : SqlStore ς) : Prop where
  known (n : Nat) : (Handle.scope n).Known log ↔ n < s.scopes.length
  ended (n : Nat) : Ended log n → n < s.scopes.length
  scopes (n : Nat) (t : SqlScope) : s.scopes[n]? = some t → t.Traced log n

/-! ### A longer log -/

/-- A further event that does not end the transaction. -/
theorem SqlScope.Traced.concat (h : t.Traced log n)
    (hended : Ended (log ++ [event]) n ↔ Ended log n) : t.Traced (log ++ [event]) n where
  finished := h.finished.trans hended.symm
  depth := h.depth
  root := List.mem_append_left _ h.root
  line := line_append h.line _

/-- A further event that ends it. -/
theorem SqlScope.Traced.finish (h : t.Traced log n) (hended : Ended (log ++ [event]) n) :
    SqlScope.Traced (log ++ [event]) n { t with finished := true } where
  finished := iff_of_true rfl hended
  depth := h.depth
  root := List.mem_append_left _ h.root
  line := line_append h.line _

namespace SqlStore.Traced

/-- Whether the transactions agree with the history depends on the transactions only. -/
theorem of_scopes (h : s.Traced log) (hs : s'.scopes = s.scopes) : s'.Traced log where
  known n := by
    rw [hs]
    exact h.known n
  ended n hn := by
    rw [hs]
    exact h.ended n hn
  scopes n t ht := by
    rw [hs] at ht
    exact h.scopes n t ht

/-- An event that begins and ends no transaction. -/
theorem quiet (h : s.Traced log) (hs : s'.scopes = s.scopes)
    (hbegun : ∀ h n, event ≠ .begun h (.ok n))
    (hended : ∀ n, Ended (log ++ [event]) n ↔ Ended log n) : s'.Traced (log ++ [event]) := by
  refine of_scopes (s := s) ⟨fun n => ?_, fun n hn => ?_, fun n t ht => ?_⟩ hs
  · exact (Handle.known_concat_of_ne hbegun n).trans (h.known n)
  · exact h.ended n ((hended n).mp hn)
  · exact (h.scopes n t ht).concat (hended n)

/-- The beginning of a transaction. It is the next one. -/
theorem begun (h : s.Traced log) {handle : Handle} (hs : s'.scopes = s.scopes ++ [t])
    (ht : t.Traced (log ++ [.begun handle (.ok s.scopes.length)]) s.scopes.length) :
    s'.Traced (log ++ [.begun handle (.ok s.scopes.length)]) := by
  have hlength : s'.scopes.length = s.scopes.length + 1 := by
    rw [hs, List.length_append, List.length_singleton]
  have hended := fun n => @ended_concat_begun log handle (.ok s.scopes.length) n
  refine ⟨fun n => ?_, fun n hn => ?_, fun n v hv => ?_⟩
  · rw [Handle.known_concat_iff, h.known, hlength]
    -- The number of the new transaction is the first one that was not handed out.
    constructor
    · rintro (hn | ⟨_, hevent⟩)
      · omega
      · injection hevent with _ hanswer
        have hn : s.scopes.length = n := Except.ok.inj hanswer
        omega
    · intro hn
      by_cases hlt : n < s.scopes.length
      · exact .inl hlt
      · have heq : s.scopes.length = n := by omega
        exact .inr ⟨handle, by rw [heq]⟩
  · have hlt := h.ended n ((hended n).mp hn)
    omega
  · rw [hs] at hv
    rcases Nat.lt_trichotomy n s.scopes.length with hlt | rfl | hgt
    · rw [List.getElem?_append_left hlt] at hv
      exact (h.scopes n v hv).concat (hended n)
    · rw [List.getElem?_concat_length] at hv
      obtain rfl := Option.some.inj hv
      exact ht
    · have hbound := (List.getElem?_eq_some_iff.mp hv).1
      rw [List.length_append, List.length_singleton] at hbound
      omega

/-- The end of a transaction keeps the scopes in step with the history: its own flag falls, and only
it is ended by the event. -/
theorem finished (h : s.Traced log) (hs : s'.scopes = (s.finish n).scopes)
    (hn : (Handle.scope n).Known log) (hbegun : ∀ h n, event ≠ .begun h (.ok n))
    (hended : ∀ m, Ended (log ++ [event]) m ↔ Ended log m ∨ m = n) :
    s'.Traced (log ++ [event]) := by
  have hlength : s'.scopes.length = s.scopes.length := by
    rw [hs, SqlStore.finish, List.length_modify]
  refine ⟨fun m => ?_, fun m hm => ?_, fun m v hv => ?_⟩
  · rw [hlength]
    exact (Handle.known_concat_of_ne hbegun m).trans (h.known m)
  · rw [hlength]
    rcases (hended m).mp hm with hm | rfl
    · exact h.ended m hm
    · exact (h.known m).mp hn
  · rw [hs] at hv
    -- Only the transaction that ends is changed.
    by_cases hm : m = n
    · subst hm
      have hlt := (h.known m).mp hn
      have hsome : s.scopes[m]? = some s.scopes[m] := List.getElem?_eq_getElem hlt
      rw [getElem?_finish_self hsome] at hv
      obtain rfl := Option.some.inj hv
      exact (h.scopes m _ hsome).finish ((hended m).mpr (.inr rfl))
    · rw [getElem?_finish_of_ne hm] at hv
      refine (h.scopes m v hv).concat ?_
      rw [hended]
      exact or_iff_left hm

/-- A number that was not handed out has not been ended. -/
theorem not_ended_length (h : s.Traced log) : ¬ Ended log s.scopes.length :=
  fun hended => Nat.lt_irrefl _ (h.ended _ hended)

/-- The outermost transaction of one that is there is there too. -/
theorem outermost_lt (h : s.Traced log) (ht : t.Traced log n) : t.outermost < s.scopes.length :=
  (h.known t.outermost).mp ⟨.root, ht.root⟩

end SqlStore.Traced

/-! ### Every call keeps it so -/

section Ran

variable (d : SqlDriver ς)

open SqlStore

/-- An outermost transaction is the child of no other one. -/
theorem traced_begin_root {answer : Except DbError Nat} (h : s.Traced log)
    (hcall : d.beginOutermost s = (answer, s')) : s'.Traced (log ++ [.begun .root answer]) := by
  cases answer with
  | error e => exact h.quiet (d.beginOutermost_eq_error hcall) (by simp) (ended_concat_begun _ _)
  | ok m =>
    obtain ⟨rfl, connection, hscopes⟩ := d.beginOutermost_eq_ok hcall
    refine h.begun hscopes ⟨?_, iff_of_true rfl rfl, ?_, .refl⟩
    · rw [ended_concat_begun]
      exact iff_of_false Bool.false_ne_true h.not_ended_length
    · exact List.mem_append_right _ (List.mem_singleton.mpr rfl)

/-- A beginning inside a transaction keeps the store true to the history: the new one is of the line
of the outermost one, and one level further down. -/
theorem traced_begin_within {answer : Except DbError Nat}
    (hn : d.dialect.nestedBegin = .savepoint) (h : s.Traced log)
    (hcall : d.beginWithin n s = (answer, s')) :
    s'.Traced (log ++ [.begun (.scope n) answer]) := by
  cases answer with
  | error e => exact h.quiet (d.beginWithin_eq_error hn hcall) (by simp) (ended_concat_begun _ _)
  | ok m =>
    obtain ⟨rfl, hscopes⟩ := d.beginWithin_eq_ok hn hcall
    -- The new transaction takes its outermost one from the one that it begins inside.
    have hparent := h.scopes n _ (d.active_of_beginWithin hn hcall).here
    have hlt := h.outermost_lt hparent
    refine h.begun hscopes ⟨?_, iff_of_false (Nat.succ_ne_zero _) (Nat.ne_of_lt hlt), ?_, ?_⟩
    · rw [ended_concat_begun]
      exact iff_of_false Bool.false_ne_true h.not_ended_length
    · exact List.mem_append_left _ hparent.root
    · exact (line_append hparent.line _).tail (List.mem_append_right _ (List.mem_singleton.mpr rfl))

/-- An end adds no transaction, and finishes the one that it is about. -/
theorem traced_end {outermost : Command} {nested : Nat → Command} {answer : Except DbError Unit}
    (h : s.Traced log) (hknown : (Handle.scope n).Known log)
    (hcall : d.endScope outermost nested n s = (answer, s'))
    (hbegun : ∀ h n, event ≠ .begun h (.ok n))
    (hended : ∀ m, Ended (log ++ [event]) m ↔ Ended log m ∨ m = n) :
    s'.Traced (log ++ [event]) := by
  have hscopes := d.endScope_scopes outermost nested n s
  rw [hcall] at hscopes
  exact h.finished hscopes hknown hbegun hended

/-- **Every history keeps it so**: by induction on the history, each call adds a transaction, ends
one or does neither, and the lemmas above carry it over all three. -/
theorem traced_of_ran {o : PoolOptions} {init : ς} (hn : d.dialect.nestedBegin = .savepoint)
    (hran : d.adapter.Ran (d.start o init) log s) : s.Traced log := by
  -- On the history: every call adds a transaction, ends one, or does neither.
  induction hran with
  | start => exact ⟨by simp [Handle.Known, SqlDriver.start], by simp [Ended], nofun⟩
  | connect _ ih =>
    exact ih.of_scopes (d.connect_keepsScopes _)
  | disconnect _ ih =>
    exact ih.of_scopes (d.disconnect_keepsScopes _)
  | execute handle r _ _ hcall ih =>
    exact ih.quiet ((d.execute_keepsScopes handle r).eq_of_apply hcall) (by simp)
      (ended_concat_executed _ _ _)
  | begin handle _ _ hcall ih =>
    cases handle with
    | root => exact traced_begin_root d ih hcall
    | scope n => exact traced_begin_within d hn ih hcall
  | commit n _ hknown hcall ih =>
    exact traced_end d ih hknown hcall (by simp) (ended_concat_committed n _)
  | rollback n _ hknown hcall ih =>
    exact traced_end d ih hknown hcall (by simp) (ended_concat_rolledBack n _)

end Ran

/-- **The life of a transaction on PostgreSQL.** In every history of calls, whatever the server
answers, a transaction is active until it is committed or rolled back itself. Every call on it is
refused, and nothing is sent, once it has been ended or the outermost transaction around it has.
Until then every call on it is sent, even if another transaction around it has been ended. -/
theorem transaction_life {server : Server ς} {o : PoolOptions} {init : ς × List Command}
    {s : SqlStore (ς × List Command)}
    (hran : (loggedDriver server).adapter.Ran ((loggedDriver server).start o init) log s)
    (hknown : (Handle.scope n).Known log) :
    ((loggedDriver server).adapter.isActive n s = true ↔ ¬ Ended log n) ∧
      ∃ root, Occurrence.begun .root (.ok root) ∈ log ∧
        Relation.ReflTransGen (Child log) root n ∧
        (Ended log n ∨ Ended log root → (loggedDriver server).Refuses n s) ∧
        (¬ Ended log n → ¬ Ended log root → Sends server n s) := by
  have htraced := traced_of_ran (loggedDriver server) rfl hran
  have hhere : s.scopes[n]? = some (s.scope n) := by
    have hsome := List.getElem?_eq_getElem ((htraced.known n).mp hknown)
    rw [SqlStore.scope_of_getElem? hsome, hsome]
  have ht := htraced.scopes n _ hhere
  -- The outermost transaction around it.
  have hrootHere : s.scopes[(s.scope n).outermost]? = some (s.scope (s.scope n).outermost) := by
    have hsome := List.getElem?_eq_getElem (htraced.outermost_lt ht)
    rw [SqlStore.scope_of_getElem? hsome, hsome]
  have hroot := htraced.scopes _ _ hrootHere
  refine ⟨?_, (s.scope n).outermost, ht.root, ht.line, ?_, ?_⟩
  · change (!(s.scope n).finished) = true ↔ _
    rw [Bool.not_eq_true', ← Bool.not_eq_true, ht.finished]
  · intro hended
    by_cases hn : Ended log n
    · exact SqlDriver.refuses_of_finished _ rfl (ht.finished.mpr hn)
    · -- It has not ended itself, so it is not the outermost one.
      have ho := hended.resolve_left hn
      have hdepth : (s.scope n).info.depth ≠ 0 := fun hzero => hn (ht.depth.mp hzero ▸ ho)
      have hf : (s.scope n).finished = false := by
        rw [← Bool.not_eq_true, ht.finished]
        exact hn
      exact SqlDriver.refuses_of_outermost_finished _ rfl hf (hroot.finished.mpr ho) hdepth
  · intro hn ho
    -- Neither it nor the outermost one has ended, so a call on it gets through to the connection.
    have hactive : s.Active n (s.scope n) := by
      refine ⟨hhere, ?_, ?_⟩
      · rw [← Bool.not_eq_true, ht.finished]
        exact hn
      · rw [← Bool.not_eq_true, hroot.finished]
        exact ho
    exact sends_of_active hactive ht.depth

/-! ### An orphan -/

/-- A server that accepts every command. -/
def Server.accepting : Server Unit where
  dial := pure ()
  send _ _ := pure .empty

/-- A store on that server with transactions one inside the other, one more than `n`. -/
def nestedStore : Nat → SqlStore (Unit × List Command)
  | 0 => ((loggedDriver .accepting).adapter.begin .root
      ((loggedDriver .accepting).start {} ((), []))).2
  | n + 1 => ((loggedDriver .accepting).adapter.begin (.scope n) (nestedStore n)).2

/-- Three transactions, each inside the one before, of which the middle one has been rolled back. -/
def orphanHistory : List Occurrence :=
  [.begun .root (.ok 0), .begun (.scope 0) (.ok 1), .begun (.scope 1) (.ok 2),
    .rolledBack 1 (.ok ())]

/-- The store after that. -/
def orphanStore : SqlStore (Unit × List Command) :=
  ((loggedDriver .accepting).adapter.rollback 1 (nestedStore 2)).2

/-- The history of an orphan is one that the adapter can have, call after call, and leaves it in the
store above. -/
theorem orphanHistory_ran :
    (loggedDriver .accepting).adapter.Ran ((loggedDriver .accepting).start {} ((), []))
      orphanHistory orphanStore := by
  -- Three beginnings, each inside the one before, and the end of the middle one.
  have houter : (loggedDriver .accepting).adapter.Ran ((loggedDriver .accepting).start {} ((), []))
      [.begun .root (.ok 0)] (nestedStore 0) := .begin .root .start trivial rfl
  have hmiddle : (loggedDriver .accepting).adapter.Ran ((loggedDriver .accepting).start {} ((), []))
      [.begun .root (.ok 0), .begun (.scope 0) (.ok 1)] (nestedStore 1) :=
    .begin (.scope 0) houter ⟨.root, by simp⟩ rfl
  have hinner : (loggedDriver .accepting).adapter.Ran ((loggedDriver .accepting).start {} ((), []))
      [.begun .root (.ok 0), .begun (.scope 0) (.ok 1), .begun (.scope 1) (.ok 2)]
        (nestedStore 2) :=
    .begin (.scope 1) hmiddle ⟨.scope 0, by simp⟩ rfl
  exact .rollback 1 hinner ⟨.scope 0, by simp⟩ rfl

/-- The innermost one is active, and calls on it are sent. -/
theorem orphan_life : (Handle.scope 2).Known orphanHistory ∧
    ((loggedDriver .accepting).adapter.isActive 2 orphanStore = true ↔
      ¬ Ended orphanHistory 2) := by
  have hknown : (Handle.scope 2).Known orphanHistory := ⟨.scope 1, by simp [orphanHistory]⟩
  exact ⟨hknown, (transaction_life orphanHistory_ran hknown).1⟩

/-- **An orphan lives on.** The transaction that it began inside has been rolled back, but it is
active, and its statements are sent as statements of the transaction around both. -/
theorem orphan_lives_on :
    (loggedDriver .accepting).adapter.Ran ((loggedDriver .accepting).start {} ((), []))
        orphanHistory orphanStore ∧
      Relation.TransGen (Child orphanHistory) 1 2 ∧ Ended orphanHistory 1 ∧
        ¬ Ended orphanHistory 0 ∧
      (loggedDriver .accepting).adapter.isActive 2 orphanStore = true ∧
      ∀ r, ((loggedDriver .accepting).adapter.execute (.scope 2) (.sql r) orphanStore).2.sent
        = orphanStore.sent ++ [(loggedDriver Server.accepting).statementOf r] := by
  refine ⟨orphanHistory_ran, .single (by simp [Child, orphanHistory]),
    ⟨.ok (), by simp [orphanHistory]⟩, by simp [Ended, orphanHistory], rfl, ?_⟩
  intro r
  rfl

end StoreBridge
