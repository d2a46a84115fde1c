import StoreBridge.Proofs.Adapter.Bracket

/-!
# All or nothing

`Adapter.Restores` is what a store has to promise for each single call: it keeps its open
transactions one inside the other, each with the data at which it began, and the rollback of the
innermost one goes back to them. Nothing is promised about a commit or rollback that fails, except
that it ends the transaction too.

From that a whole tree of transactions is all or nothing. The work of a transaction leaves the open
transactions as they were (`Work.run_opened`), so that it is the innermost one again when it ends,
and the data that its rollback restores are those of its own beginning.
-/

namespace StoreBridge

variable {σ D α : Type}

/-- The handle of the innermost open transaction. -/
def innermost : List (Nat × D) → Handle
  | [] => .root
  | (n, _) :: _ => .scope n

/-- **What a store promises**, call by call: `look` is the data that is seen, and `opened` are the
open transactions with the data at which they began, the innermost one first. -/
structure Adapter.Restores (a : Adapter σ) (look : σ → D) (opened : σ → List (Nat × D)) : Prop where
  execute {s s' : σ} {r : Request} {answer : Except DbError Output}
    (h : a.execute (innermost (opened s)) r s = (answer, s')) : opened s' = opened s
  refused {s s' : σ} {e : DbError} (h : a.begin (innermost (opened s)) s = (.error e, s')) :
    opened s' = opened s ∧ look s' = look s
  begun {s s' : σ} {n : Nat} (h : a.begin (innermost (opened s)) s = (.ok n, s')) :
    opened s' = (n, look s) :: opened s ∧ look s' = look s
  commit {s s' : σ} {n : Nat} {d : D} {outer : List (Nat × D)} {answer : Except DbError Unit}
    (hopen : opened s = (n, d) :: outer) (h : a.commit n s = (answer, s')) :
    opened s' = outer ∧ (answer = .ok () → look s' = look s)
  rollback {s s' : σ} {n : Nat} {d : D} {outer : List (Nat × D)} {answer : Except DbError Unit}
    (hopen : opened s = (n, d) :: outer) (h : a.rollback n s = (answer, s')) :
    opened s' = outer ∧ (answer = .ok () → look s' = d)

variable {look : σ → D} {opened : σ → List (Nat × D)} {db : Database σ} {inner : Work α} {s s' : σ}
  {answer : Except DbError α} {events : List Occurrence}

/-- The work leaves the open transactions as they were. -/
def Work.Closes (opened : σ → List (Nat × D)) (w : Work α) (a : Adapter σ) : Prop :=
  ∀ s, opened (w.run ⟨a, innermost (opened s)⟩ s).2 = opened s

/-- A transaction is the innermost one while its work runs, and when it is over. -/
theorem Adapter.Restores.opened_work (ha : db.adapter.Restores look opened)
    (hinner : inner.Closes opened db.adapter) (hin : innermost (opened s) = db.handle) {n : Nat}
    {s₁ s₂ : σ} (hbegin : db.adapter.begin db.handle s = (.ok n, s₁))
    (hwork : inner.run (db.within n) s₁ = (answer, s₂)) : opened s₂ = (n, look s) :: opened s := by
  have hbegun : opened s₁ = (n, look s) :: opened s := (ha.begun (hin ▸ hbegin)).1
  -- So the work is done on the innermost transaction, as `hinner` asks for.
  have hclosed := hinner s₁
  rw [hbegun] at hclosed
  change opened (inner.run (db.within n) s₁).2 = _ at hclosed
  rw [hwork] at hclosed
  exact hclosed

/-- The end of the innermost transaction: a commit keeps the data, and a rollback restores those of
the beginning. -/
theorem Adapter.Restores.finish {a : Adapter σ} (ha : a.Restores look opened) {n : Nat} {d : D}
    {outer : List (Nat × D)} {ended : Except DbError Unit} (hopen : opened s = (n, d) :: outer)
    (h : a.finish n answer s = (ended, s')) :
    opened s' = outer ∧
      (ended = .ok () → look s' = match answer with
        | .ok _ => look s
        | .error _ => d) := by
  cases answer with
  | ok value => exact ha.commit hopen h
  | error e => exact ha.rollback hopen h

/-- **The open transactions after a transaction** are those before it. -/
theorem Course.opened_eq (hcourse : Course db inner s events answer s')
    (ha : db.adapter.Restores look opened) (hinner : inner.Closes opened db.adapter)
    (hin : innermost (opened s) = db.handle) : opened s' = opened s := by
  cases hcourse with
  | refused hbegin => exact (ha.refused (hin ▸ hbegin)).1
  | begun hbegin hwork _ hend =>
    exact (ha.finish (ha.opened_work hinner hin hbegin hwork) hend).1

/-- **The open transactions after a tree of transactions** are those before it. -/
theorem Work.run_opened {a : Adapter σ} (ha : a.Restores look opened) (w : Work α) :
    w.Closes opened a := by
  -- On the tree of the work. Each step is on the innermost handle again, as the one before it
  -- closed what it opened.
  induction w with
  | done answer =>
    intro s
    rfl
  | execute r next ih =>
    intro s
    rcases hanswer : a.execute (innermost (opened s)) r s with ⟨answer, s₁⟩
    have hkept : opened s₁ = opened s := ha.execute hanswer
    have hrun : (Work.execute r next).run ⟨a, innermost (opened s)⟩ s
        = (next answer).run ⟨a, innermost (opened s)⟩ s₁ := Work.run_execute hanswer
    rw [hrun, ← hkept]
    exact ih answer s₁
  | transaction inner next ihinner ihnext =>
    intro s
    obtain ⟨events, answer, s₁, hcourse, -⟩ :=
      (Work.notes inner).transaction ⟨a, innermost (opened s)⟩ s []
    have hkept : opened s₁ = opened s := hcourse.opened_eq ha ihinner rfl
    rw [Work.run_transaction hcourse.transaction_eq, ← hkept]
    exact ihnext answer s₁

/-- **The data after a transaction.** If it answers, they are those that its work left; if it was
refused or rolled back, they are those at its beginning. -/
theorem Course.look_eq (hcourse : Course db inner s events answer s')
    (ha : db.adapter.Restores look opened) (hin : innermost (opened s) = db.handle) :
    (∀ value, answer = .ok value → ∃ n s₁ s₂, db.adapter.begin db.handle s = (.ok n, s₁) ∧
      inner.run (db.within n) s₁ = (.ok value, s₂) ∧ look s' = look s₂) ∧
    (∀ e s₁, db.adapter.begin db.handle s = (.error e, s₁) → look s' = look s) ∧
    ∀ n s₁ e s₂, db.adapter.begin db.handle s = (.ok n, s₁) →
      inner.run (db.within n) s₁ = (.error e, s₂) → (db.adapter.rollback n s₂).1 = .ok () →
        look s' = look s := by
  cases hcourse with
  | refused hbegin =>
    have hlook : look s' = look s := (ha.refused (hin ▸ hbegin)).2
    -- A refused beginning has no scope, so only its promise about the data says something.
    exact ⟨nofun, fun _ _ _ => hlook, fun _ _ _ _ _ _ _ => hlook⟩
  | @begun n s₁ s₂ _ outcome ended _ hbegin hwork _ hend =>
    -- The work leaves the transaction the innermost open one, so the promise about ends applies.
    have hopen := ha.opened_work (Work.run_opened ha inner) hin hbegin hwork
    have hlook := (ha.finish hopen hend).2
    refine ⟨?_, ?_, ?_⟩
    · -- An answer needs an end that did not fail, and an outcome that is the answer.
      intro value hvalue
      cases ended with
      | error e => exact absurd hvalue nofun
      | ok u =>
        obtain rfl : outcome = .ok value := hvalue
        exact ⟨n, s₁, s₂, hbegin, hwork, hlook rfl⟩
    · intro e s₀ hrefused
      rw [hbegin] at hrefused
      exact absurd (Prod.mk.inj hrefused).1 nofun
    · -- There is one beginning and one run of the work, so the rollback is the end of this course.
      intro m t₁ e t₂ hbegin' hwork' hrollback
      rw [hbegin] at hbegin'
      obtain ⟨hm, rfl⟩ := Prod.mk.inj hbegin'
      obtain rfl := Except.ok.inj hm
      rw [hwork] at hwork'
      obtain ⟨rfl, rfl⟩ := Prod.mk.inj hwork'
      have hended : ended = .ok () := by
        rw [← hrollback]
        exact (congrArg Prod.fst hend).symm
      exact hlook hended

/-- **Transactions are well bracketed, and all or nothing.** Over every adapter a transaction takes
its course, however deep the transactions inside it: what occurs is bracketed, and every end is that
of the innermost open transaction. Its work runs once if it begins and not otherwise; by the outcome
of the work it is committed or rolled back; and the answer is that of the work unless the beginning
or the end fails. On a store that restores, an answer means that the data are as the work left them,
and a transaction that was refused or rolled back leaves the data of its beginning. -/
theorem transaction_bracketed (db : Database σ) (inner : Work α) (s : σ) :
    ∃ events answer s',
      (db.transaction fun tx => inner.run tx) s = (answer, s') ∧
      (db.noted.transaction fun tx => (inner.noted tx).noteWork tx.handle) (s, [])
        = (answer, s', events) ∧
      Course db inner s events answer s' ∧ Bracketed db.handle events ∧
      events.foldlM Occurrence.track [] = some [] ∧
      ∀ (D : Type) (look : σ → D) (opened : σ → List (Nat × D)),
        db.adapter.Restores look opened → innermost (opened s) = db.handle →
          opened s' = opened s ∧
          (∀ value, answer = .ok value → ∃ n s₁ s₂, db.adapter.begin db.handle s = (.ok n, s₁) ∧
            inner.run (db.within n) s₁ = (.ok value, s₂) ∧ look s' = look s₂) ∧
          (∀ e s₁, db.adapter.begin db.handle s = (.error e, s₁) → look s' = look s) ∧
          ∀ n s₁ e s₂, db.adapter.begin db.handle s = (.ok n, s₁) →
            inner.run (db.within n) s₁ = (.error e, s₂) →
              (db.adapter.rollback n s₂).1 = .ok () → look s' = look s := by
  obtain ⟨events, answer, s', hcourse, hnotes⟩ := (Work.notes inner).transaction db s []
  -- The bracketing of the whole is that of the course in front of nothing.
  have hbracketed : Bracketed db.handle events := by
    have h := hcourse.bracketed .nil
    rwa [List.append_nil] at h
  refine ⟨events, answer, s', hcourse.transaction_eq, hnotes, hcourse, hbracketed,
    hbracketed.track [], ?_⟩
  -- What is said about the data needs the promise, all above holds of any adapter.
  intro D look opened ha hin
  exact ⟨hcourse.opened_eq ha (Work.run_opened ha inner) hin, hcourse.look_eq ha hin⟩

/-! ### A store that restores -/

/-- A store that keeps what was run on it: the requests, and the open transactions with the requests
before them. -/
structure Journal where
  entries : List Request
  opened : List (Nat × List Request)

/-- The adapter of a journal. A transaction is numbered by its depth. -/
def Journal.adapter : Adapter Journal where
  backend := .sqlite
  capabilities := ⟨true, false, false⟩
  connect := pure ()
  disconnect := pure ()
  execute _ r := fun s => (.ok (.ack (WriteAck.ofCount 1)), { s with entries := s.entries ++ [r] })
  begin _ := fun s =>
    (.ok s.opened.length, { s with opened := (s.opened.length, s.entries) :: s.opened })
  commit _ := fun s => (.ok (), { s with opened := s.opened.tail })
  rollback _ := fun s => (.ok (),
    { entries := (s.opened.head?.map Prod.snd).getD s.entries, opened := s.opened.tail })
  info n _ := ⟨Transaction.idOfSerial n, .sqlite, n⟩
  isActive n s := s.opened.any fun p => p.1 = n

/-- **A journal keeps its promise**: only requests change the entries, a commit keeps them and a
rollback brings back those of the beginning. -/
theorem Journal.restores : Journal.adapter.Restores Journal.entries Journal.opened where
  execute h := by
    rw [← (Prod.mk.inj h).2]
  refused h := nomatch (Prod.mk.inj h).1
  begun {s s' n} h := by
    obtain ⟨hn, rfl⟩ := Prod.mk.inj h
    obtain rfl : s.opened.length = n := Except.ok.inj hn
    exact ⟨rfl, rfl⟩
  commit {s s' n d outer answer} hopen h := by
    obtain ⟨-, rfl⟩ := Prod.mk.inj h
    exact ⟨congrArg List.tail hopen, fun _ => rfl⟩
  rollback {s s' n d outer answer} hopen h := by
    obtain ⟨-, rfl⟩ := Prod.mk.inj h
    refine ⟨congrArg List.tail hopen, fun _ => ?_⟩
    -- The head of the stack holds the entries of the beginning, which is what a rollback goes back
    -- to.
    change (s.opened.head?.map Prod.snd).getD s.entries = d
    rw [hopen]
    rfl

/-- Runs a statement and fails. -/
def failing : Work Unit :=
  .execute (.sql ⟨"DELETE FROM b", [], []⟩) fun _ => .done (.error (.emptyQuery "b"))

/-- Runs a statement, and fails in a transaction inside; the failure is dropped. -/
def attempt : Work Unit :=
  .execute (.sql ⟨"DELETE FROM a", [], []⟩) fun _ => .transaction failing fun _ => .done (.ok ())

/-- The attempt is committed with its own statement only. -/
theorem attempt_bracketed :
    Journal.adapter.Restores Journal.entries Journal.opened ∧
      innermost (Journal.opened ⟨[], []⟩) = Handle.root ∧
      ∃ n s₁ s₂, Journal.adapter.begin .root ⟨[], []⟩ = (.ok n, s₁) ∧
        attempt.run ⟨Journal.adapter, .scope n⟩ s₁ = (.ok (), s₂) ∧
        s₂.entries = [.sql ⟨"DELETE FROM a", [], []⟩] := by
  -- The run is computed. What is behind its end comes from the theorem.
  have hrun : ((Database.ofAdapter Journal.adapter).transaction fun tx => attempt.run tx) ⟨[], []⟩
      = (.ok (), ⟨[.sql ⟨"DELETE FROM a", [], []⟩], []⟩) := rfl
  obtain ⟨events, answer, s', htransaction, -, -, -, -, hdata⟩ :=
    transaction_bracketed (Database.ofAdapter Journal.adapter) attempt ⟨[], []⟩
  rw [hrun] at htransaction
  obtain ⟨rfl, rfl⟩ := Prod.mk.inj htransaction
  obtain ⟨-, hcommitted, -⟩ := hdata _ Journal.entries Journal.opened Journal.restores rfl
  obtain ⟨n, s₁, s₂, hbegin, hwork, hlook⟩ := hcommitted () rfl
  exact ⟨Journal.restores, rfl, n, s₁, s₂, hbegin, hwork, hlook.symm⟩

end StoreBridge
