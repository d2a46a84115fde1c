import Mathlib.Logic.Relation
import StoreBridge.Proofs.Adapter.Bracket

/-!
# Histories of calls

Handles outlive the work they were made for, so calls on the transactions of a store may come in any
order. `Adapter.Ran` is every history of such calls from some state: the log of what occurred, and
the state it leads to. Only handles that were handed out can be called on (`Handle.Known`).

A log says all that there is to say of the tree of transactions: which one began in which other one
(`Child`), and which have been committed or rolled back (`Ended`).
-/

namespace StoreBridge

variable {σ : Type}

/-- Whether a handle has been handed out. -/
def Handle.Known (log : List Occurrence) : Handle → Prop
  | .root => True
  | .scope n => ∃ h, Occurrence.begun h (.ok n) ∈ log

/-- The transaction has been committed or rolled back, whatever the answer was. -/
def Ended (log : List Occurrence) (n : Nat) : Prop :=
  ∃ answer, Occurrence.committed n answer ∈ log ∨ Occurrence.rolledBack n answer ∈ log

/-- The transaction `n` began inside `m`. -/
def Child (log : List Occurrence) (m n : Nat) : Prop :=
  Occurrence.begun (.scope m) (.ok n) ∈ log

/-- **The histories of an adapter.** Calls in any order, on any handles that were handed out. -/
inductive Adapter.Ran (a : Adapter σ) (start : σ) : List Occurrence → σ → Prop
  | start : Ran a start [] start
  | connect {log : List Occurrence} {s : σ} (hran : Ran a start log s) :
      Ran a start log (a.connect s).2
  | disconnect {log : List Occurrence} {s : σ} (hran : Ran a start log s) :
      Ran a start log (a.disconnect s).2
  | execute {log : List Occurrence} {s s' : σ} {answer : Except DbError Output} (h : Handle)
      (r : Request) (hran : Ran a start log s) (hknown : h.Known log)
      (hcall : a.execute h r s = (answer, s')) :
      Ran a start (log ++ [.executed h r answer]) s'
  | begin {log : List Occurrence} {s s' : σ} {answer : Except DbError Nat} (h : Handle)
      (hran : Ran a start log s) (hknown : h.Known log) (hcall : a.begin h s = (answer, s')) :
      Ran a start (log ++ [.begun h answer]) s'
  | commit {log : List Occurrence} {s s' : σ} {answer : Except DbError Unit} (n : Nat)
      (hran : Ran a start log s) (hknown : (Handle.scope n).Known log)
      (hcall : a.commit n s = (answer, s')) :
      Ran a start (log ++ [.committed n answer]) s'
  | rollback {log : List Occurrence} {s s' : σ} {answer : Except DbError Unit} (n : Nat)
      (hran : Ran a start log s) (hknown : (Handle.scope n).Known log)
      (hcall : a.rollback n s = (answer, s')) :
      Ran a start (log ++ [.rolledBack n answer]) s'

section Log

variable {log : List Occurrence} {event : Occurrence} {m n : Nat}

/-- A transaction inside another one stays there, whatever happens later. -/
theorem Child.append (h : Child log m n) (more : List Occurrence) : Child (log ++ more) m n :=
  List.mem_append_left more h

/-- A longer log has the same lines of descent, and perhaps more. -/
theorem line_append (h : Relation.ReflTransGen (Child log) m n) (more : List Occurrence) :
    Relation.ReflTransGen (Child (log ++ more)) m n :=
  Relation.ReflTransGen.mono (fun _ _ hchild => Child.append hchild more) _ _ h

/-- A transaction is known by its own beginning only. -/
theorem Handle.known_concat_iff :
    (Handle.scope n).Known (log ++ [event]) ↔
      (Handle.scope n).Known log ∨ ∃ h, event = .begun h (.ok n) := by
  simp only [Handle.Known, List.mem_append, List.mem_singleton, exists_or, eq_comm]

/-- An event that begins no transaction leaves the beginnings as they are. -/
theorem begun_concat_of_ne (hbegun : ∀ h n, event ≠ .begun h (.ok n)) (h : Handle) (n : Nat) :
    Occurrence.begun h (.ok n) ∈ log ++ [event] ↔ Occurrence.begun h (.ok n) ∈ log := by
  rw [List.mem_append, List.mem_singleton]
  exact or_iff_left fun hevent => hbegun h n hevent.symm

/-- A handle becomes known only by a beginning that succeeds. -/
theorem Handle.known_concat_of_ne (hbegun : ∀ h n, event ≠ .begun h (.ok n)) (n : Nat) :
    (Handle.scope n).Known (log ++ [event]) ↔ (Handle.scope n).Known log := by
  simp only [Handle.Known, begun_concat_of_ne hbegun]

/-- A transaction is ended by its own end only. -/
theorem ended_concat_iff :
    Ended (log ++ [event]) n ↔
      Ended log n ∨ ∃ answer, event = .committed n answer ∨ event = .rolledBack n answer := by
  simp only [Ended, List.mem_append, List.mem_singleton, eq_comm, or_or_or_comm, exists_or]

/-- A beginning ends no transaction. -/
theorem ended_concat_begun (h : Handle) (answer : Except DbError Nat) (n : Nat) :
    Ended (log ++ [.begun h answer]) n ↔ Ended log n := by
  simp [ended_concat_iff]

/-- A request ends no transaction. -/
theorem ended_concat_executed (h : Handle) (r : Request) (answer : Except DbError Output)
    (n : Nat) :
    Ended (log ++ [.executed h r answer]) n ↔ Ended log n := by
  simp [ended_concat_iff]

/-- A commit ends its own transaction, also if it is refused. -/
theorem ended_concat_committed (m : Nat) (answer : Except DbError Unit) (n : Nat) :
    Ended (log ++ [.committed m answer]) n ↔ Ended log n ∨ n = m := by
  simp [ended_concat_iff, eq_comm]

/-- A rollback ends its own transaction, also if it is refused. -/
theorem ended_concat_rolledBack (m : Nat) (answer : Except DbError Unit) (n : Nat) :
    Ended (log ++ [.rolledBack m answer]) n ↔ Ended log n ∨ n = m := by
  simp [ended_concat_iff, eq_comm]

end Log

end StoreBridge
