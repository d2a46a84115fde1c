import Mathlib.Logic.Function.Basic
import StoreBridge.Proofs.Adapter.History

/-!
# Ended transactions

A handle stays in the hands of its holders when its transaction has been committed or rolled back.
What calls on it may still do is a matter of the whole history of a store, so it is said of
histories:

* `Adapter.Inert` — on a transaction, every call is an error and the server does not hear of it;
* `Adapter.charging` — a history that keeps an account of each transaction, with what the calls on
  that transaction have sent. The server does not know who a command is from, so this is not to be
  read from what it got;
* `Account` — until a transaction has ended, no finishing command is on its account. After its first
  end the account is closed, and has at most one finishing command. If the server refuses that of an
  outermost transaction, the driver leaves the transaction by commands of its own, and nothing comes
  after them.

`Adapter.Expires` is what a store promises for each single call, and `Adapter.Expires.run` is the
induction that carries it through a history: what the store has of each transaction (`ScopeMark`) is
what the log says of it, and all accounts are as they should be.
-/

namespace StoreBridge

variable {σ τ κ α β : Type}

/-! ### What calls send -/

namespace Call

/-- All that the call adds to what was sent satisfies `P`. -/
def Emits (sent : σ → List κ) (P : κ → Prop) (c : Call σ α) : Prop :=
  ∀ s, ∃ new, sent (c s).2 = sent s ++ new ∧ ∀ command ∈ new, P command

variable {sent : σ → List κ} {P : κ → Prop} {c : Call σ α} {k : α → Call σ β}

/-- A call that sends nothing. -/
theorem Preserves.emits (h : c.Preserves sent) : c.Emits sent P :=
  fun s => ⟨[], by rw [h s, List.append_nil], by simp⟩

/-- What two calls send one after the other is what the first sends and then what the second sends,
as far as it comes to that. -/
theorem Emits.bind (hc : c.Emits sent P) (hk : ∀ a, (k a).Emits sent P) :
    (c >>= k).Emits sent P := by
  intro s
  obtain ⟨first, hfirst, hfirstP⟩ := hc s
  -- After a failure the second call is not made.
  rcases h : c s with ⟨e | a, s₁⟩
  · rw [bind_of_error h]
    rw [h] at hfirst
    exact ⟨first, hfirst, hfirstP⟩
  · obtain ⟨second, hsecond, hsecondP⟩ := hk a s₁
    rw [bind_of_ok h]
    rw [h] at hfirst
    refine ⟨first ++ second, ?_, fun command hmem => ?_⟩
    · rw [hsecond, hfirst, List.append_assoc]
    · exact (List.mem_append.mp hmem).elim (hfirstP command) (hsecondP command)

end Call

/-- **An inert transaction.** Every call on it is an error, and the server is as before. -/
structure Adapter.Inert (a : Adapter σ) (server : σ → τ) (n : Nat) (s : σ) : Prop where
  execute (r : Request) : ∃ e s', a.execute (.scope n) r s = (.error e, s') ∧ server s' = server s
  begin : ∃ e s', a.begin (.scope n) s = (.error e, s') ∧ server s' = server s
  commit : ∃ e s', a.commit n s = (.error e, s') ∧ server s' = server s
  rollback : ∃ e s', a.rollback n s = (.error e, s') ∧ server s' = server s

/-! ### Accounts -/

/-- What is sent by calls on a handle goes on the account of its transaction. -/
def Handle.charge (h : Handle) (new : List κ) (accounts : Nat → List κ) : Nat → List κ :=
  match h with
  | .root => accounts
  | .scope n => Function.update accounts n (accounts n ++ new)

/-- A call on a handle, with what it sends. -/
def Call.charged (sent : σ → List κ) (h : Handle) (c : Call σ α) : Call (σ × (Nat → List κ)) α :=
  fun s =>
    let (answer, after) := c s.1
    (answer, after, h.charge ((sent after).drop (sent s.1).length) s.2)

/-- The same adapter, with an account of each transaction. -/
def Adapter.charging (a : Adapter σ) (sent : σ → List κ) : Adapter (σ × (Nat → List κ)) where
  backend := a.backend
  capabilities := a.capabilities
  connect := a.connect.beside
  disconnect := a.disconnect.beside
  execute h r := (a.execute h r).charged sent h
  begin h := (a.begin h).charged sent h
  commit n := (a.commit n).charged sent (.scope n)
  rollback n := (a.rollback n).charged sent (.scope n)
  info n s := a.info n s.1
  isActive n s := a.isActive n s.1

section Charged

variable {sent : σ → List κ} {h : Handle} {c : Call σ α} {s : σ × (Nat → List κ)}
  {s' : σ × (Nat → List κ)} {answer : Except DbError α}

/-- An account is beside the call, and changes nothing of it. -/
theorem Call.of_charged (hcall : c.charged sent h s = (answer, s')) :
    c s.1 = (answer, s'.1) ∧ s'.2 = h.charge ((sent s'.1).drop (sent s.1).length) s.2 := by
  have hcharged : c.charged sent h s
      = ((c s.1).1, (c s.1).2, h.charge ((sent (c s.1).2).drop (sent s.1).length) s.2) := rfl
  rw [hcharged] at hcall
  obtain ⟨rfl, hrest⟩ := Prod.mk.inj hcall
  obtain rfl : s' = _ := hrest.symm
  exact ⟨rfl, rfl⟩

variable {a : Adapter σ} {start : σ × (Nat → List κ)} {log : List Occurrence}

/-- A history with accounts is a history. -/
theorem Adapter.Ran.of_charging (hran : (a.charging sent).Ran start log s) :
    a.Ran start.1 log s.1 := by
  induction hran with
  | start => exact .start
  | connect _ ih => exact .connect ih
  | disconnect _ ih => exact .disconnect ih
  | execute h r _ hknown hcall ih => exact .execute h r ih hknown (Call.of_charged hcall).1
  | begin h _ hknown hcall ih => exact .begin h ih hknown (Call.of_charged hcall).1
  | commit n _ hknown hcall ih => exact .commit n ih hknown (Call.of_charged hcall).1
  | rollback n _ hknown hcall ih => exact .rollback n ih hknown (Call.of_charged hcall).1

/-- A charged call, read off the call itself: what it has sent is put to the account of its
handle. -/
theorem Call.charged_of_eq {t : σ} (hcall : c s.1 = (answer, t)) :
    c.charged sent h s
      = (answer, t, h.charge ((sent t).drop (sent s.1).length) s.2) := by
  have hcharged : c.charged sent h s
      = ((c s.1).1, (c s.1).2, h.charge ((sent (c s.1).2).drop (sent s.1).length) s.2) := rfl
  rw [hcharged, hcall]

/-- Accounts can be kept of every history. -/
theorem Adapter.Ran.charging {start t : σ} (hran : a.Ran start log t) (sent : σ → List κ)
    (before : Nat → List κ) :
    ∃ accounts, (a.charging sent).Ran (start, before) log (t, accounts) := by
  -- The accounts are written beside the state, so each step of the history is also one with them.
  induction hran with
  | start => exact ⟨_, .start⟩
  | connect _ ih =>
    obtain ⟨accounts, hcharged⟩ := ih
    exact ⟨accounts, .connect hcharged⟩
  | disconnect _ ih =>
    obtain ⟨accounts, hcharged⟩ := ih
    exact ⟨accounts, .disconnect hcharged⟩
  | execute h r _ hknown hcall ih =>
    obtain ⟨accounts, hcharged⟩ := ih
    exact ⟨_, .execute h r hcharged hknown (Call.charged_of_eq hcall)⟩
  | begin h _ hknown hcall ih =>
    obtain ⟨accounts, hcharged⟩ := ih
    exact ⟨_, .begin h hcharged hknown (Call.charged_of_eq hcall)⟩
  | commit n _ hknown hcall ih =>
    obtain ⟨accounts, hcharged⟩ := ih
    exact ⟨_, .commit n hcharged hknown (Call.charged_of_eq hcall)⟩
  | rollback n _ hknown hcall ih =>
    obtain ⟨accounts, hcharged⟩ := ih
    exact ⟨_, .rollback n hcharged hknown (Call.charged_of_eq hcall)⟩

end Charged

/-! ### What an end sends -/

/-- What the end of a transaction may send, by its answer: nothing, or one finishing command. If
that of an outermost transaction is refused, the driver leaves the transaction by the commands
`cleanup`. -/
inductive EndSends (finishes : κ → Bool) (cleanup : List κ) (outermost : Prop) :
    Except DbError Unit → List κ → Prop
  | nothing {answer : Except DbError Unit} : EndSends finishes cleanup outermost answer []
  | once {command : κ} {answer : Except DbError Unit} (hfinishes : finishes command = true) :
      EndSends finishes cleanup outermost answer [command]
  | refused {command : κ} {e : DbError} (hfinishes : finishes command = true)
      (houtermost : outermost) : EndSends finishes cleanup outermost (.error e) (command :: cleanup)

/-- **The account of a transaction** in a history. -/
inductive Account (finishes : κ → Bool) (cleanup : List κ) (log : List Occurrence) (n : Nat) :
    List κ → Prop
  /-- It has not ended, and has sent no finishing command. -/
  | running {commands : List κ} (hrunning : ¬ Ended log n)
      (hquiet : ∀ command ∈ commands, finishes command = false) :
      Account finishes cleanup log n commands
  /-- It has ended, and what its first end has sent is the end of the account. -/
  | closed {commands last : List κ} {answer : Except DbError Unit}
      (hended : .committed n answer ∈ log ∨ .rolledBack n answer ∈ log)
      (hquiet : ∀ command ∈ commands, finishes command = false)
      (hlast : EndSends finishes cleanup (Occurrence.begun .root (.ok n) ∈ log) answer last) :
      Account finishes cleanup log n (commands ++ last)

section Account

variable {finishes : κ → Bool} {cleanup commands new : List κ} {log : List Occurrence}
  {event : Occurrence} {n : Nat} {answer : Except DbError Unit} {P Q : Prop}

/-- A transaction that counts as outermost in more cases may be left by the driver in more cases. -/
theorem EndSends.mono (h : EndSends finishes cleanup P answer commands) (hPQ : P → Q) :
    EndSends finishes cleanup Q answer commands := by
  cases h with
  | nothing => exact .nothing
  | once hfinishes => exact .once hfinishes
  | refused hfinishes houtermost => exact .refused hfinishes (hPQ houtermost)

/-- Something else occurs, and the account stays. -/
theorem Account.concat (h : Account finishes cleanup log n commands)
    (hended : Ended (log ++ [event]) n → Ended log n) :
    Account finishes cleanup (log ++ [event]) n commands := by
  cases h with
  | running hrunning hquiet => exact .running (hrunning ∘ hended) hquiet
  | closed hfirst hquiet hlast =>
    exact .closed (hfirst.imp (List.mem_append_left _) (List.mem_append_left _)) hquiet
      (hlast.mono (List.mem_append_left _))

/-- A call that ends nothing sends commands that finish nothing, and none on an ended
transaction. -/
theorem Account.add (h : Account finishes cleanup log n commands)
    (hended : Ended (log ++ [event]) n → Ended log n)
    (hquiet : ∀ command ∈ new, finishes command = false) (hinert : Ended log n → new = []) :
    Account finishes cleanup (log ++ [event]) n (commands ++ new) := by
  -- An ended transaction sends nothing more; for one that goes on, the new commands are the
  -- harmless ones.
  by_cases hn : Ended log n
  · rw [hinert hn, List.append_nil]
    exact h.concat hended
  · cases h with
    | running _ hbefore =>
      refine .running (hn ∘ hended) fun command hmem => ?_
      exact (List.mem_append.mp hmem).elim (hbefore command) (hquiet command)
    | closed hfirst => exact absurd ⟨_, hfirst⟩ hn

/-- An end closes the account, unless it is closed already. -/
theorem Account.close (h : Account finishes cleanup log n commands)
    (hevent : event = .committed n answer ∨ event = .rolledBack n answer)
    (hlast : EndSends finishes cleanup (Occurrence.begun .root (.ok n) ∈ log) answer new)
    (hinert : Ended log n → new = []) :
    Account finishes cleanup (log ++ [event]) n (commands ++ new) := by
  -- A second end sends nothing, so the account stays the one of the first.
  by_cases hn : Ended log n
  · rw [hinert hn, List.append_nil]
    exact h.concat fun _ => hn
  · cases h with
    | running _ hbefore =>
      -- This is its first end.
      have hfirst :
          .committed n answer ∈ log ++ [event] ∨ .rolledBack n answer ∈ log ++ [event] := by
        rcases hevent with rfl | rfl
        · exact .inl (List.mem_append_right _ List.mem_cons_self)
        · exact .inr (List.mem_append_right _ List.mem_cons_self)
      exact .closed hfirst hbefore (hlast.mono (List.mem_append_left _))
    | closed hfirst => exact absurd ⟨_, hfirst⟩ hn

end Account

/-! ### What a store promises -/

/-- What a store has of a transaction: whether it is an outermost one, and whether it has ended. -/
structure ScopeMark where
  outermost : Bool
  finished : Bool

/-- The transaction has ended. -/
def ScopeMark.finish (m : ScopeMark) : ScopeMark := { m with finished := true }

/-- The transaction is there, and is an outermost one. -/
def Outermost (marks : List ScopeMark) (n : Nat) : Prop :=
  ∃ m, marks[n]? = some m ∧ m.outermost = true

/-- The transaction is there, and has ended. -/
def Finished (marks : List ScopeMark) (n : Nat) : Prop :=
  ∃ m, marks[n]? = some m ∧ m.finished = true

/-- **What a store promises** about the life of its transactions, call by call: `server` is its
server with what was sent to it, and `marks` are its transactions in the order of their
beginning. -/
structure Adapter.Expires (a : Adapter σ) (start : σ) (server : σ → τ × List κ)
    (marks : σ → List ScopeMark) (finishes : κ → Bool) (cleanup : List κ) : Prop where
  fresh : marks start = []
  connect (s : σ) : marks (a.connect s).2 = marks s
  disconnect (s : σ) : marks (a.disconnect s).2 = marks s
  execute (h : Handle) (r : Request) (s : σ) : marks (a.execute h r s).2 = marks s
  begun {h : Handle} {s s' : σ} {n : Nat} (hcall : a.begin h s = (.ok n, s')) :
    n = (marks s).length ∧ marks s' = marks s ++ [⟨decide (h = .root), false⟩]
  refused {h : Handle} {s s' : σ} {e : DbError} (hcall : a.begin h s = (.error e, s')) :
    marks s' = marks s
  commit (n : Nat) (s : σ) : marks (a.commit n s).2 = (marks s).modify n ScopeMark.finish
  rollback (n : Nat) (s : σ) : marks (a.rollback n s).2 = (marks s).modify n ScopeMark.finish
  executeSends (n : Nat) (r : Request) :
    (a.execute (.scope n) r).Emits (fun s => (server s).2) (finishes · = false)
  beginSends (n : Nat) :
    (a.begin (.scope n)).Emits (fun s => (server s).2) (finishes · = false)
  commitSends {n : Nat} {s s' : σ} {answer : Except DbError Unit}
    (hcall : a.commit n s = (answer, s')) : ∃ new, (server s').2 = (server s).2 ++ new ∧
      EndSends finishes cleanup (Outermost (marks s) n) answer new
  rollbackSends {n : Nat} {s s' : σ} {answer : Except DbError Unit}
    (hcall : a.rollback n s = (answer, s')) : ∃ new, (server s').2 = (server s).2 ++ new ∧
      EndSends finishes cleanup (Outermost (marks s) n) answer new
  inert {log : List Occurrence} {s : σ} {n : Nat} (hran : a.Ran start log s)
    (hfinished : Finished (marks s) n) : a.Inert server n s

/-- What a store has of its transactions is what the log says of them. -/
structure Tracked (log : List Occurrence) (marks : List ScopeMark) : Prop where
  known (n : Nat) : (Handle.scope n).Known log ↔ n < marks.length
  once {h h' : Handle} {n : Nat} (hbegun : .begun h (.ok n) ∈ log)
    (hbegun' : .begun h' (.ok n) ∈ log) : h = h'
  outermost (n : Nat) : Outermost marks n ↔ Occurrence.begun .root (.ok n) ∈ log
  finished (n : Nat) : Finished marks n ↔ Ended log n

/-! ### Histories -/

/-- What is read off the items of a list, with a change in one place. -/
theorem map_modify {f : α → β} {g : α → α} {g' : β → β} (h : ∀ a, f (g a) = g' (f a))
    (items : List α)
    (n : Nat) : (items.modify n g).map f = (items.map f).modify n g' := by
  induction items generalizing n with
  | nil => cases n <;> rfl
  | cons a rest ih =>
    cases n with
    | zero => rw [List.modify_zero_cons, List.map_cons, List.map_cons, List.modify_zero_cons, h]
    | succ n => rw [List.modify_succ_cons, List.map_cons, List.map_cons, List.modify_succ_cons, ih]

/-- A change that is not seen. -/
theorem map_modify_of_eq {f : α → β} {g : α → α} (h : ∀ a, f (g a) = f a) (items : List α)
    (n : Nat) :
    (items.modify n g).map f = items.map f := by
  have hsame : ∀ a, f (g a) = id (f a) := h
  rw [map_modify hsame, List.modify_id]

section Marks

variable {marks : List ScopeMark} {m n : Nat} {outermost : Bool}

/-- What is said of a transaction, and how it changes with a further one. -/
theorem exists_concat_iff {P : ScopeMark → Prop} {mark : ScopeMark} :
    (∃ m, (marks ++ [mark])[n]? = some m ∧ P m) ↔
      (∃ m, marks[n]? = some m ∧ P m) ∨ n = marks.length ∧ P mark := by
  rcases Nat.lt_trichotomy n marks.length with hlt | rfl | hgt
  · rw [List.getElem?_append_left hlt]
    exact (or_iff_left fun h => Nat.ne_of_lt hlt h.1).symm
  · rw [List.getElem?_concat_length, List.getElem?_eq_none (Nat.le_refl _)]
    simp
  · rw [List.getElem?_eq_none (by simp; omega), List.getElem?_eq_none (Nat.le_of_lt hgt)]
    simp [Nat.ne_of_gt hgt]

/-- A transaction that begins is outermost or not as it says, and changes nothing about the
others. -/
theorem outermost_concat_iff :
    Outermost (marks ++ [⟨outermost, false⟩]) n ↔
      Outermost marks n ∨ n = marks.length ∧ outermost = true :=
  exists_concat_iff

theorem finished_concat_iff :
    Finished (marks ++ [⟨outermost, false⟩]) n ↔ Finished marks n :=
  exists_concat_iff.trans (or_iff_left fun h => Bool.false_ne_true h.2)

theorem outermost_modify_iff :
    Outermost (marks.modify m ScopeMark.finish) n ↔ Outermost marks n := by
  rw [Outermost, Outermost, List.getElem?_modify]
  by_cases hmn : m = n <;> cases marks[n]? <;> simp [hmn, ScopeMark.finish]

/-- Marking a transaction as finished finishes this one and no other. -/
theorem finished_modify_iff (hm : m < marks.length) :
    Finished (marks.modify m ScopeMark.finish) n ↔ Finished marks n ∨ n = m := by
  rw [Finished, Finished, List.getElem?_modify]
  by_cases hmn : m = n
  · subst hmn
    rw [List.getElem?_eq_getElem hm]
    simp [ScopeMark.finish]
  · cases marks[n]? <;> simp [hmn, Ne.symm hmn]

/-- To end a transaction that has ended changes nothing. -/
theorem modify_finish_of_finished (h : ∀ mark, marks[n]? = some mark → mark.finished = true) :
    marks.modify n ScopeMark.finish = marks := by
  refine List.ext_getElem? fun m => ?_
  rw [List.getElem?_modify]
  by_cases hnm : n = m
  · subst hnm
    cases hmark : marks[n]? with
    | none => rfl
    | some mark => simp [ScopeMark.finish, ← h mark hmark]
  · simp [hnm]

end Marks

namespace Tracked

variable {log : List Occurrence} {event : Occurrence} {marks : List ScopeMark} {n : Nat}

theorem nil : Tracked [] [] where
  known n := by simp [Handle.Known]
  once hbegun := absurd hbegun (by simp)
  outermost n := by simp [Outermost]
  finished n := by simp [Finished, Ended]

/-- An event that begins no transaction and ends none. -/
theorem quiet (h : Tracked log marks) (hbegun : ∀ h n, event ≠ .begun h (.ok n))
    (hended : ∀ n, Ended (log ++ [event]) n ↔ Ended log n) : Tracked (log ++ [event]) marks := by
  have hmem := @begun_concat_of_ne log event hbegun
  refine ⟨fun n => ?_, fun h₁ h₂ => ?_, fun n => ?_, fun n => ?_⟩
  · exact (Handle.known_concat_of_ne hbegun n).trans (h.known n)
  · exact h.once ((hmem _ _).mp h₁) ((hmem _ _).mp h₂)
  · rw [h.outermost, hmem]
  · rw [h.finished, hended]

/-- The beginning of a transaction. It is the next one. -/
theorem begun (h : Tracked log marks) (handle : Handle) :
    Tracked (log ++ [.begun handle (.ok marks.length)])
      (marks ++ [⟨decide (handle = .root), false⟩]) := by
  have hmem : ∀ h n, Occurrence.begun h (.ok n) ∈ log ++ [.begun handle (.ok marks.length)] ↔
      .begun h (.ok n) ∈ log ∨ h = handle ∧ n = marks.length := by
    intro h n
    simp
  -- The number has not been handed out before.
  have hnew : ∀ h, Occurrence.begun h (.ok marks.length) ∉ log := by
    intro handle' hbegun
    exact Nat.lt_irrefl _ ((h.known _).mp ⟨handle', hbegun⟩)
  -- The four clauses: which numbers are known, that each begins once, which are outermost, which
  -- have ended.
  refine ⟨fun n => ?_, fun {h₁ h₂ n} hn₁ hn₂ => ?_, fun n => ?_, fun n => ?_⟩
  · rw [Handle.known_concat_iff, h.known, List.length_append, List.length_singleton]
    simp only [Occurrence.begun.injEq, Except.ok.injEq, exists_eq_left']
    omega
  · rcases (hmem _ _).mp hn₁ with hold₁ | ⟨rfl, rfl⟩ <;>
      rcases (hmem _ _).mp hn₂ with hold₂ | ⟨rfl, hn⟩
    · exact h.once hold₁ hold₂
    · exact absurd (hn ▸ hold₁) (hnew _)
    · exact absurd hold₂ (hnew _)
    · rfl
  · rw [outermost_concat_iff, h.outermost, hmem, decide_eq_true_eq, and_comm, eq_comm (a := handle)]
  · rw [finished_concat_iff, h.finished, ended_concat_begun]

/-- The end of a transaction that was handed out. -/
theorem ended (h : Tracked log marks) (hknown : (Handle.scope n).Known log)
    (hbegun : ∀ h n, event ≠ .begun h (.ok n))
    (hended : ∀ m, Ended (log ++ [event]) m ↔ Ended log m ∨ m = n) :
    Tracked (log ++ [event]) (marks.modify n ScopeMark.finish) := by
  have hmem := @begun_concat_of_ne log event hbegun
  -- An end begins nothing, so only the clause about ended transactions changes.
  refine ⟨fun m => ?_, fun h₁ h₂ => ?_, fun m => ?_, fun m => ?_⟩
  · rw [List.length_modify]
    exact (Handle.known_concat_of_ne hbegun m).trans (h.known m)
  · exact h.once ((hmem _ _).mp h₁) ((hmem _ _).mp h₂)
  · rw [outermost_modify_iff, h.outermost, hmem]
  · rw [finished_modify_iff ((h.known n).mp hknown), h.finished, hended]

/-- **There is one outermost transaction around a transaction.** -/
theorem root_unique (h : Tracked log marks) {root root' : Nat}
    (hroot : Occurrence.begun .root (.ok root) ∈ log)
    (hroot' : Occurrence.begun .root (.ok root') ∈ log)
    (hline : Relation.ReflTransGen (Child log) root n)
    (hline' : Relation.ReflTransGen (Child log) root' n) : root = root' := by
  -- On the line down from the first. An outermost transaction began inside no other one, and any
  -- other one began inside one only.
  induction hline with
  | refl =>
    rcases hline'.cases_tail with heq | ⟨m, -, hchild⟩
    · exact heq
    · exact absurd (h.once hchild hroot) (by simp)
  | tail _ hchild ih =>
    rcases hline'.cases_tail with heq | ⟨m, hline'', hchild'⟩
    · subst heq
      exact absurd (h.once hchild hroot') (by simp)
    · obtain rfl := Handle.scope.inj (h.once hchild hchild')
      exact ih hline''

end Tracked

section Accounts

variable {finishes : κ → Bool} {cleanup : List κ} {log : List Occurrence} {event : Occurrence}

/-- A call that fails without the server has sent nothing. -/
theorem nil_of_inert {c : Call σ α} {answer : Except DbError α} {server : σ → τ × List κ}
    {t t' : σ} {new : List κ} (hcall : c t = (answer, t'))
    (hnew : (server t').2 = (server t).2 ++ new)
    (hinert : ∃ e u, c t = (.error e, u) ∧ server u = server t) : new = [] := by
  obtain ⟨e, u, hfails, hserver⟩ := hinert
  rw [hcall] at hfails
  obtain ⟨-, rfl⟩ := Prod.mk.inj hfails
  rw [hserver] at hnew
  exact List.append_right_eq_self.mp hnew.symm

/-- What a call on a handle adds to the accounts. -/
theorem Account.charge {h : Handle} {new : List κ} {accounts : Nat → List κ}
    (haccounts : ∀ n, Account finishes cleanup log n (accounts n))
    (hothers : ∀ n, h ≠ .scope n → Ended (log ++ [event]) n → Ended log n)
    (hown : ∀ n, h = .scope n → Account finishes cleanup (log ++ [event]) n (accounts n ++ new)) :
    ∀ n, Account finishes cleanup (log ++ [event]) n (h.charge new accounts n) := by
  intro n
  -- A call on the root is charged to nobody.
  cases h with
  | root => exact (haccounts n).concat (hothers n nofun)
  | scope m =>
    by_cases hn : n = m
    · subst hn
      rw [Handle.charge, Function.update_self]
      exact hown n rfl
    · rw [Handle.charge, Function.update_of_ne hn]
      exact (haccounts n).concat (hothers n fun heq => hn (Handle.scope.inj heq).symm)

/-- A call that ends nothing keeps the accounts. -/
theorem Account.quiet_call {server : σ → τ × List κ} {h : Handle} {c : Call σ α}
    {answer : Except DbError α} {s s' : σ × (Nat → List κ)}
    (haccounts : ∀ n, Account finishes cleanup log n (s.2 n))
    (hcall : c.charged (fun s => (server s).2) h s = (answer, s'))
    (hended : ∀ n, Ended (log ++ [event]) n ↔ Ended log n)
    (hsends : ∀ n, h = .scope n → c.Emits (fun s => (server s).2) (finishes · = false))
    (hinert : ∀ n, h = .scope n → Ended log n →
      ∃ e t, c s.1 = (.error e, t) ∧ server t = server s.1) :
    ∀ n, Account finishes cleanup (log ++ [event]) n (s'.2 n) := by
  obtain ⟨hplain, hcharge⟩ := Call.of_charged hcall
  rw [hcharge]
  refine Account.charge haccounts (fun n _ => (hended n).mp) fun n hn => ?_
  -- The account is the one of the transaction that the call is on.
  obtain ⟨new, hnew, hquiet⟩ := hsends n hn s.1
  have hsent : (server s'.1).2 = (server s.1).2 ++ new := by
    rw [← hnew, hplain]
  rw [hsent, List.drop_left]
  exact (haccounts n).add (hended n).mp hquiet fun hfirst =>
    nil_of_inert hplain hsent (hinert n hn hfirst)

/-- A call that ends its transaction closes the account. -/
theorem Account.end_call {server : σ → τ × List κ} {m : Nat} {c : Call σ Unit}
    {answer : Except DbError Unit} {s s' : σ × (Nat → List κ)} {outermost : Prop}
    (haccounts : ∀ n, Account finishes cleanup log n (s.2 n))
    (hcall : c.charged (fun s => (server s).2) (.scope m) s = (answer, s'))
    (hevent : event = .committed m answer ∨ event = .rolledBack m answer)
    (hended : ∀ n, Ended (log ++ [event]) n ↔ Ended log n ∨ n = m)
    (hroot : outermost → Occurrence.begun .root (.ok m) ∈ log)
    (hsends : ∃ new, (server s'.1).2 = (server s.1).2 ++ new ∧
      EndSends finishes cleanup outermost answer new)
    (hinert : Ended log m → ∃ e t, c s.1 = (.error e, t) ∧ server t = server s.1) :
    ∀ n, Account finishes cleanup (log ++ [event]) n (s'.2 n) := by
  obtain ⟨hplain, hcharge⟩ := Call.of_charged hcall
  obtain ⟨new, hnew, hlast⟩ := hsends
  rw [hcharge, hnew, List.drop_left]
  -- Every other transaction that has ended by now had ended before.
  refine Account.charge haccounts (fun n hn hafter => ?_) fun n hn => ?_
  · rcases (hended n).mp hafter with hbefore | rfl
    · exact hbefore
    · exact absurd rfl hn
  · obtain rfl := Handle.scope.inj hn
    exact (haccounts m).close hevent (hlast.mono hroot) fun hfirst =>
      nil_of_inert hplain hnew (hinert hfirst)

end Accounts

section Run

variable {a : Adapter σ} {start : σ} {server : σ → τ × List κ} {marks : σ → List ScopeMark}
  {finishes : κ → Bool} {cleanup : List κ} {log : List Occurrence} {s : σ × (Nat → List κ)}

/-- **The life of the transactions of a store**, through every history. -/
theorem Adapter.Expires.run (ha : a.Expires start server marks finishes cleanup)
    (hran : (a.charging fun s => (server s).2).Ran (start, fun _ => []) log s) :
    Tracked log (marks s.1) ∧ ∀ n, Account finishes cleanup log n (s.2 n) := by
  -- On the history. Whether a transaction has ended is read from the log, so that the promise
  -- about ended ones applies to the call that comes next.
  induction hran with
  | start =>
    rw [ha.fresh]
    exact ⟨.nil, fun n => .running (by simp [Ended]) (by simp)⟩
  | @connect log s _ ih =>
    refine ⟨?_, ih.2⟩
    change Tracked log (marks (a.connect s.1).2)
    rw [ha.connect]
    exact ih.1
  | @disconnect log s _ ih =>
    refine ⟨?_, ih.2⟩
    change Tracked log (marks (a.disconnect s.1).2)
    rw [ha.disconnect]
    exact ih.1
  | @execute log s s' answer h r hran hknown hcall ih =>
    obtain ⟨htracked, haccounts⟩ := ih
    have hcharged : (a.execute h r).charged (fun s => (server s).2) h s = (answer, s') := hcall
    have hplain := (Call.of_charged hcharged).1
    have hended := @ended_concat_executed log h r answer
    have hmarks : marks s'.1 = marks s.1 := by
      rw [← ha.execute h r s.1, hplain]
    refine ⟨?_, Account.quiet_call haccounts hcharged hended ?_ ?_⟩
    · rw [hmarks]
      exact htracked.quiet (by simp) hended
    · rintro n rfl
      exact ha.executeSends n r
    · -- Ended in the log means ended in the marks, and there the adapter promises that nothing is
      -- sent.
      rintro n rfl hfirst
      exact (ha.inert (Ran.of_charging hran) ((htracked.finished n).mpr hfirst)).execute r
  | @begin log s s' answer h hran hknown hcall ih =>
    obtain ⟨htracked, haccounts⟩ := ih
    have hcharged : (a.begin h).charged (fun s => (server s).2) h s = (answer, s') := hcall
    have hplain := (Call.of_charged hcharged).1
    have hended := @ended_concat_begun log h answer
    refine ⟨?_, Account.quiet_call haccounts hcharged hended ?_ ?_⟩
    · -- A refused beginning leaves the marks; any other has the next number.
      cases answer with
      | error e =>
        rw [ha.refused hplain]
        exact htracked.quiet (by simp) hended
      | ok n =>
        obtain ⟨rfl, hmarks⟩ := ha.begun hplain
        rw [hmarks]
        exact htracked.begun h
    · rintro n rfl
      exact ha.beginSends n
    · rintro n rfl hfirst
      exact (ha.inert (Ran.of_charging hran) ((htracked.finished n).mpr hfirst)).begin
  | @commit log s s' answer n hran hknown hcall ih =>
    obtain ⟨htracked, haccounts⟩ := ih
    have hcharged : (a.commit n).charged (fun s => (server s).2) (.scope n) s = (answer, s') :=
      hcall
    have hplain := (Call.of_charged hcharged).1
    have hended := @ended_concat_committed log n answer
    have hmarks : marks s'.1 = (marks s.1).modify n ScopeMark.finish := by
      rw [← ha.commit n s.1, hplain]
    -- A commit ends its transaction also if it fails, hence the marks are the same for each answer.
    refine ⟨?_, Account.end_call haccounts hcharged (.inl rfl) hended (htracked.outermost n).mp
      (ha.commitSends hplain) fun hfirst => ?_⟩
    · rw [hmarks]
      exact htracked.ended hknown (by simp) hended
    · exact (ha.inert (Ran.of_charging hran) ((htracked.finished n).mpr hfirst)).commit
  | @rollback log s s' answer n hran hknown hcall ih =>
    obtain ⟨htracked, haccounts⟩ := ih
    have hcharged : (a.rollback n).charged (fun s => (server s).2) (.scope n) s = (answer, s') :=
      hcall
    have hplain := (Call.of_charged hcharged).1
    have hended := @ended_concat_rolledBack log n answer
    have hmarks : marks s'.1 = (marks s.1).modify n ScopeMark.finish := by
      rw [← ha.rollback n s.1, hplain]
    -- As for a commit: what counts is that the end was tried.
    refine ⟨?_, Account.end_call haccounts hcharged (.inr rfl) hended (htracked.outermost n).mp
      (ha.rollbackSends hplain) fun hfirst => ?_⟩
    · rw [hmarks]
      exact htracked.ended hknown (by simp) hended
    · exact (ha.inert (Ran.of_charging hran) ((htracked.finished n).mpr hfirst)).rollback

/-- What the store has of its transactions is what the log says of them. -/
theorem Adapter.Expires.tracked {t : σ} (ha : a.Expires start server marks finishes cleanup)
    (hran : a.Ran start log t) : Tracked log (marks t) := by
  obtain ⟨accounts, hcharged⟩ := hran.charging (fun s => (server s).2) fun _ => []
  exact (ha.run hcharged).1

/-- **Ended transactions of an adapter**, in every history from a state: they are inert, and every
account has at most one finishing command. -/
structure Adapter.EndsOnce (a : Adapter σ) (start : σ) (server : σ → τ × List κ)
    (finishes : κ → Bool) (cleanup : List κ) : Prop where
  inert {log : List Occurrence} {s : σ} (hran : a.Ran start log s) (n : Nat)
    (hended : Ended log n) : a.Inert server n s
  account {log : List Occurrence} {s : σ × (Nat → List κ)}
    (hran : (a.charging fun s => (server s).2).Ran (start, fun _ => []) log s) (n : Nat) :
    Account finishes cleanup log n (s.2 n)

/-- **An adapter whose transactions expire** ends each of them once. -/
theorem Adapter.Expires.endsOnce (ha : a.Expires start server marks finishes cleanup) :
    a.EndsOnce start server finishes cleanup where
  inert hran n hended := ha.inert hran (((ha.tracked hran).finished n).mpr hended)
  account hran := (ha.run hran).2

end Run

end StoreBridge
