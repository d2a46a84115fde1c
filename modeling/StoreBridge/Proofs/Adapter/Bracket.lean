import StoreBridge.Proofs.Adapter.Work

/-!
# What occurs in a transaction

A transaction is watched from outside: `Adapter.noted` writes down every call that reaches a store,
and `Work.noted` where the work of a transaction is entered and where it returns. What is written
down is a list of `Occurrence`s, and nothing else changes (`Work.noted_run`).

Such a list is `Bracketed`: on a handle there are requests, refused beginnings and whole
transactions, and a whole transaction is its beginning, its work, bracketed again and on the
transaction itself, and one end, which the outcome of the work decides (`Occurrence.closing`). So an
end is always that of the transaction that began last among those still open (`Bracketed.track`).

`Course` says the same of one call of `Database.transaction`, with its answer. There are five ways
that it can go, and `Database.transaction_noted` says that it always goes one of them.
-/

namespace StoreBridge

/-- What is to be seen of the transactions of a store. -/
inductive Occurrence where
  /-- A transaction was asked for on a handle. -/
  | begun (h : Handle) (answer : Except DbError Nat)
  /-- The work of the transaction starts. -/
  | entered (h : Handle)
  /-- A request was run on a handle. -/
  | executed (h : Handle) (r : Request) (answer : Except DbError Output)
  /-- The work of the transaction is over, well or with an error. -/
  | returned (h : Handle) (outcome : Except DbError Unit)
  | committed (n : Nat) (answer : Except DbError Unit)
  | rolledBack (n : Nat) (answer : Except DbError Unit)

namespace Occurrence

/-- The end of a transaction whose work is over: a commit if the work went well, a rollback
otherwise. -/
def closing (n : Nat) (answer : Except DbError Unit) : Except DbError Unit → Occurrence
  | .ok _ => .committed n answer
  | .error _ => .rolledBack n answer

/-- Follows the transactions that are open, the innermost one first. An end of any other one has no
answer. -/
def track (opened : List Nat) : Occurrence → Option (List Nat)
  | .begun _ (.ok n) => some (n :: opened)
  | .committed n _ | .rolledBack n _ =>
    match opened with
    | m :: outer => if m = n then some outer else none
    | [] => none
  | _ => some opened

end Occurrence

/-- What occurs in a transaction that begins: its work, and one end by the outcome of the work. -/
def Occurrence.whole (h : Handle) (n : Nat) (within : List Occurrence)
    (outcome answer : Except DbError Unit) : List Occurrence :=
  .begun h (.ok n) :: .entered (.scope n) ::
    (within ++ [.returned (.scope n) outcome, .closing n answer outcome])

/-- A log of requests and whole transactions on a handle. -/
inductive Bracketed : Handle → List Occurrence → Prop
  | nil {h : Handle} : Bracketed h []
  | execute {h : Handle} {r : Request} {answer : Except DbError Output} {rest : List Occurrence}
      (hrest : Bracketed h rest) : Bracketed h (.executed h r answer :: rest)
  | refused {h : Handle} {e : DbError} {rest : List Occurrence} (hrest : Bracketed h rest) :
      Bracketed h (.begun h (.error e) :: rest)
  | transaction {h : Handle} {n : Nat} {within rest : List Occurrence}
      {outcome answer : Except DbError Unit} (hwithin : Bracketed (.scope n) within)
      (hrest : Bracketed h rest) :
      Bracketed h (Occurrence.whole h n within outcome answer ++ rest)

/-- **Every end is that of the innermost open transaction**, and no transaction is left open. -/
theorem Bracketed.track {h : Handle} {log : List Occurrence} (hlog : Bracketed h log)
    (opened : List Nat) : log.foldlM Occurrence.track opened = some opened := by
  -- The transactions open outside are arbitrary, since those inside see one more.
  induction hlog generalizing opened with
  | nil => rfl
  | execute _ ih => exact ih opened
  | refused _ ih => exact ih opened
  | @transaction h n within rest outcome answer _ _ ihwithin ihrest =>
    -- The end is the one of the transaction that its beginning opened.
    have hclosing : (Occurrence.closing n answer outcome).track (n :: opened) = some opened := by
      cases outcome <;> exact if_pos rfl
    have hwhole :
        (Occurrence.whole h n within outcome answer).foldlM Occurrence.track opened
          = some opened := by
      change (within ++ _).foldlM Occurrence.track (n :: opened) = _
      rw [List.foldlM_append, ihwithin]
      change ((Occurrence.closing n answer outcome).track (n :: opened) >>= _) = _
      rw [hclosing]
      rfl
    rw [List.foldlM_append, hwhole]
    exact ihrest opened

/-! ### Taking notes -/

variable {σ : Type}

namespace Call

variable {α : Type}

/-- A call that is written down, with its answer. -/
def noted (note : Except DbError α → Occurrence) (c : Call σ α) : Call (σ × List Occurrence) α :=
  fun s =>
    let (answer, after) := c s.1
    (answer, after, s.2 ++ [note answer])

/-- The work of a transaction, between its start and its return. -/
def noteWork (h : Handle) (c : Call (σ × List Occurrence) α) : Call (σ × List Occurrence) α :=
  fun s =>
    let (answer, after) := c (s.1, s.2 ++ [.entered h])
    (answer, after.1, after.2 ++ [.returned h (answer.map fun _ => ())])

variable {c : Call σ α} {s s' : σ} {answer : Except DbError α} {log : List Occurrence}

/-- What a noted call answers and leaves, read off the call itself: the same, and one note more. -/
theorem noted_of_eq {note : Except DbError α → Occurrence} (h : c s = (answer, s')) :
    c.noted note (s, log) = (answer, s', log ++ [note answer]) := by
  have hnoted : c.noted note (s, log) = ((c s).1, (c s).2, log ++ [note (c s).1]) := rfl
  rw [hnoted, h]

/-- Work whose beginning and end are noted stands between the two notes, whatever is noted
within. -/
theorem noteWork_of_eq {h : Handle} {c : Call (σ × List Occurrence) α} {within : List Occurrence}
    (hc : c (s, log ++ [.entered h]) = (answer, s', within)) :
    c.noteWork h (s, log)
      = (answer, s', within ++ [.returned h (answer.map fun _ => ())]) := by
  have hnoted : c.noteWork h (s, log)
      = ((c (s, log ++ [.entered h])).1, (c (s, log ++ [.entered h])).2.1,
        (c (s, log ++ [.entered h])).2.2
          ++ [.returned h ((c (s, log ++ [.entered h])).1.map fun _ => ())]) := rfl
  rw [hnoted, hc]

end Call

/-- The same adapter, with notes of the calls that belong to transactions. -/
def Adapter.noted (a : Adapter σ) : Adapter (σ × List Occurrence) where
  backend := a.backend
  capabilities := a.capabilities
  connect := a.connect.beside
  disconnect := a.disconnect.beside
  execute h r := (a.execute h r).noted (.executed h r)
  begin h := (a.begin h).noted (.begun h)
  commit n := (a.commit n).noted (.committed n)
  rollback n := (a.rollback n).noted (.rolledBack n)
  info n s := a.info n s.1
  isActive n s := a.isActive n s.1

/-- The same database on the adapter that takes notes. -/
def Database.noted (db : Database σ) : Database (σ × List Occurrence) :=
  ⟨db.adapter.noted, db.handle⟩

/-- Does the work on a database that takes notes, and notes where the work of each transaction
starts and returns. -/
def Work.noted : {α : Type} → Work α → Database (σ × List Occurrence) →
    Call (σ × List Occurrence) α
  | _, .done answer, _ => Call.ofExcept answer
  | _, .execute r next, db => ExceptT.mk do
    let answer ← (db.execute r).run
    ((next answer).noted db).run
  | _, .transaction inner next, db => ExceptT.mk do
    let answer ← (db.transaction fun tx => (inner.noted tx).noteWork tx.handle).run
    ((next answer).noted db).run

/-! ### The course of a transaction -/

variable {α : Type}

/-- The end of a transaction, by the answer of its work. -/
def Adapter.finish (a : Adapter σ) (n : Nat) : Except DbError α → Call σ Unit
  | .ok _ => a.commit n
  | .error _ => a.rollback n

/-- A failure of the end replaces the answer of the work. -/
theorem Adapter.settle_of_finish {a : Adapter σ} {n : Nat} {outcome : Except DbError α} {s s' : σ}
    {ended : Except DbError Unit} (h : a.finish n outcome s = (ended, s')) :
    a.settle n outcome s = (ended >>= fun _ => outcome, s') := by
  cases outcome <;> cases ended
  · exact Call.bind_of_error h
  · exact Call.bind_of_ok h
  · exact Call.bind_of_error h
  · exact Call.bind_of_ok h

/-- The end of a transaction is noted with its answer and with the outcome that the work had. -/
theorem Adapter.noted_finish {a : Adapter σ} {n : Nat} {outcome : Except DbError α} {s s' : σ}
    {ended : Except DbError Unit} (log : List Occurrence)
    (h : a.finish n outcome s = (ended, s')) :
    a.noted.finish n outcome (s, log)
      = (ended, s', log ++ [.closing n ended (outcome.map fun _ => ())]) := by
  cases outcome <;> exact Call.noted_of_eq h

variable {db : Database σ} {inner : Work α} {s s' : σ} {answer : Except DbError α}
  {log events : List Occurrence}

/-- How a transaction can go that is asked for in a state: what occurs, its answer, and the state
after it. -/
inductive Course (db : Database σ) (inner : Work α) (s : σ) :
    List Occurrence → Except DbError α → σ → Prop
  /-- It does not begin, and its work is not run. -/
  | refused {e : DbError} {s' : σ} (hbegin : db.adapter.begin db.handle s = (.error e, s')) :
      Course db inner s [.begun db.handle (.error e)] (.error e) s'
  /-- It begins. Its work is run once, on the transaction, and by the outcome it is committed or
  rolled back. The answer is the failure of that, if there is one, and the outcome otherwise. -/
  | begun {n : Nat} {s₁ s₂ s' : σ} {outcome : Except DbError α} {ended : Except DbError Unit}
      {within : List Occurrence} (hbegin : db.adapter.begin db.handle s = (.ok n, s₁))
      (hwork : inner.run (db.within n) s₁ = (outcome, s₂)) (hwithin : Bracketed (.scope n) within)
      (hend : db.adapter.finish n outcome s₂ = (ended, s')) :
      Course db inner s
        (Occurrence.whole db.handle n within (outcome.map fun _ => ()) ended)
        (ended >>= fun _ => outcome) s'

/-- A transaction, and what goes on after it. -/
theorem Course.bracketed (hcourse : Course db inner s events answer s')
    (hrest : Bracketed db.handle log) : Bracketed db.handle (events ++ log) := by
  cases hcourse with
  | refused => exact .refused hrest
  | begun _ _ hwithin _ => exact .transaction hwithin hrest

/-- The transaction with its course is the one that runs. -/
theorem Course.transaction_eq (hcourse : Course db inner s events answer s') :
    (db.transaction fun tx => inner.run tx) s = (answer, s') := by
  cases hcourse with
  | refused hbegin => exact Adapter.transaction_of_refused hbegin
  | begun hbegin hwork _ hend =>
    exact (Adapter.transaction_of_begun hbegin hwork).trans (Adapter.settle_of_finish hend)

/-- Taking notes of the work of a transaction changes nothing, and the notes are bracketed. -/
def Work.Notes (σ : Type) (w : Work α) : Prop :=
  ∀ (db : Database σ) (s : σ) (log : List Occurrence), ∃ events,
    w.noted db.noted (s, log) = ((w.run db s).1, (w.run db s).2, log ++ events) ∧
      Bracketed db.handle events

/-- **A transaction takes its course**, if its work is noted as it runs. -/
theorem Work.Notes.transaction (hinner : inner.Notes σ) (db : Database σ) (s : σ)
    (log : List Occurrence) :
    ∃ events answer s', Course db inner s events answer s' ∧
      (db.noted.transaction fun tx => (inner.noted tx).noteWork tx.handle) (s, log)
        = (answer, s', log ++ events) := by
  rcases hbegin : db.adapter.begin db.handle s with ⟨e | n, s₁⟩
  · exact ⟨_, _, _, .refused hbegin, Adapter.transaction_of_refused (Call.noted_of_eq hbegin)⟩
  · -- Whatever the work and the end answer, both are followed on the plain adapter first.
    rcases hwork : inner.run (db.within n) s₁ with ⟨outcome, s₂⟩
    rcases hend : db.adapter.finish n outcome s₂ with ⟨ended, s₃⟩
    obtain ⟨within, hnotes, hwithin⟩ :=
      hinner (db.within n) s₁ (log ++ [.begun db.handle (.ok n)] ++ [.entered (.scope n)])
    rw [hwork] at hnotes
    refine ⟨_, _, _, .begun hbegin hwork hwithin hend, ?_⟩
    refine (Adapter.transaction_of_begun (Call.noted_of_eq hbegin)
      (Call.noteWork_of_eq hnotes)).trans ?_
    refine (Adapter.settle_of_finish (Adapter.noted_finish _ hend)).trans ?_
    -- Both sides list the same events, grouped in different ways.
    simp only [Occurrence.whole, List.append_assoc, List.cons_append, List.nil_append]

/-- **Notes of a whole tree of transactions.** They change nothing, and they are bracketed. -/
theorem Work.notes (w : Work α) : w.Notes σ := by
  -- On the tree of the work: a transaction inside is one whole, and what follows it is work again.
  induction w with
  | done answer =>
    intro db s log
    exact ⟨[], by rw [List.append_nil]; rfl, .nil⟩
  | execute r next ih =>
    intro db s log
    rcases hanswer : db.execute r s with ⟨answer, s₁⟩
    -- What follows the request depends on its answer, so the hypothesis is taken at that answer.
    obtain ⟨events, hnotes, hevents⟩ := ih answer db s₁ (log ++ [.executed db.handle r answer])
    refine ⟨.executed db.handle r answer :: events, ?_, .execute hevents⟩
    have hfirst : db.noted.execute r (s, log)
        = (answer, s₁, log ++ [.executed db.handle r answer]) := Call.noted_of_eq hanswer
    rw [Work.run_execute hanswer]
    refine (Call.mk_bind_of_eq hfirst).trans (hnotes.trans ?_)
    rw [List.append_assoc, List.singleton_append]
  | transaction inner next ihinner ihnext =>
    intro db s log
    obtain ⟨events, answer, s₁, hcourse, hnotes⟩ := ihinner.transaction db s log
    -- The rest of the tree starts where the transaction has left the store and the log.
    obtain ⟨rest, hnext, hrest⟩ := ihnext answer db s₁ (log ++ events)
    refine ⟨events ++ rest, ?_, hcourse.bracketed hrest⟩
    rw [Work.run_transaction hcourse.transaction_eq]
    refine (Call.mk_bind_of_eq hnotes).trans (hnext.trans ?_)
    rw [List.append_assoc]

end StoreBridge
