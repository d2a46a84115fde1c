import Mathlib.Data.List.Forall2
import StoreBridge.Proofs.Adapter.Atomic

/-!
# Batches of items

`Database.insertMany` inserts items in one transaction. Its work goes through the items from the
first to the last, and it has no state of its own, so what has happened is to be read from what was
sent.

`ItemCourse` says how the insertion of one item can go: it does not compile and nothing is sent, or
one request is sent. `ItemsCourse` says it of all items: every one of them was inserted, or there is
a first one that failed, those before it were inserted, and those after it were not looked at. It is
kept by an item in front that was inserted (`ItemsCourse.cons`), which is the induction of
`Database.insert_items`.

`BatchCourse` is the whole batch: one transaction, with such a run as its work.
-/

namespace StoreBridge

variable {σ D : Type}

/-- Requests that were run on a handle and answered. -/
def Occurrence.answered (h : Handle) (requests : List Request) (outputs : List Output) :
    List Occurrence :=
  List.zipWith (fun r output => .executed h r (.ok output)) requests outputs

/-- How the insertion of an item can go on a handle: what is sent, and its answer. -/
inductive ItemCourse (schema : Schema) (h : Handle) (item : Json) :
    List Occurrence → Except DbError Output → Prop
  /-- It does not compile, and nothing is sent. -/
  | rejected {e : DbError} (hcompile : compile schema [.insert item] = .error e) :
      ItemCourse schema h item [] (.error e)
  /-- It is sent, and the store answers. -/
  | sent {r : Request} {answer : Except DbError Output}
      (hcompile : compile schema [.insert item] = .ok r) :
      ItemCourse schema h item [.executed h r answer] answer

/-- The requests are those of the items, in the same order. -/
def InsertRequests (schema : Schema) (items : List Json) (requests : List Request) : Prop :=
  List.Forall₂ (fun item r => compile schema [.insert item] = .ok r) items requests

/-- How the insertion of items can go on a handle: what is sent, and its answer. -/
inductive ItemsCourse (schema : Schema) (h : Handle) (items : List Json) :
    List Occurrence → Except DbError (List Output) → Prop
  /-- Every item is inserted, by a request of its own, and there is an output for each. -/
  | all {requests : List Request} {outputs : List Output}
      (hrequests : InsertRequests schema items requests)
      (hlength : outputs.length = items.length) :
      ItemsCourse schema h items (Occurrence.answered h requests outputs) (.ok outputs)
  /-- The items before one that fails are inserted. The answer is the failure of that one, and
  nothing is sent for those after it. -/
  | stopped {before after : List Json} {item : Json} {requests : List Request}
      {outputs : List Output} {last : List Occurrence} {e : DbError}
      (hitems : items = before ++ item :: after)
      (hrequests : InsertRequests schema before requests)
      (hlength : outputs.length = before.length)
      (hfailed : ItemCourse schema h item last (.error e)) :
      ItemsCourse schema h items (Occurrence.answered h requests outputs ++ last) (.error e)

/-- **One more item in front** that was inserted. -/
theorem ItemsCourse.cons {schema : Schema} {h : Handle} {item : Json} {items : List Json}
    {r : Request} {output : Output} {events : List Occurrence}
    {outcome : Except DbError (List Output)} (hcompile : compile schema [.insert item] = .ok r)
    (hitems : ItemsCourse schema h items events outcome) :
    ItemsCourse schema h (item :: items) (.executed h r (.ok output) :: events)
      (outcome.map (output :: ·)) := by
  -- The item stands in front of all the others, or of those before the one that failed.
  cases hitems with
  | @all requests outputs hrequests hlength =>
    have hlonger : (output :: outputs).length = (item :: items).length := congrArg (· + 1) hlength
    exact .all (List.Forall₂.cons hcompile hrequests) hlonger
  | @stopped before after failed requests outputs last e hsplit hrequests hlength hfailed =>
    have hsplit' : item :: items = (item :: before) ++ failed :: after :=
      congrArg (item :: ·) hsplit
    have hlonger : (output :: outputs).length = (item :: before).length := congrArg (· + 1) hlength
    exact .stopped hsplit' (List.Forall₂.cons hcompile hrequests) hlonger hfailed

/-- What no request on the database can change. -/
def Database.Keeps (db : Database σ) (P : σ → Prop) : Prop :=
  ∀ s r, P s → P (db.execute r s).2

namespace Database

variable {db : Database σ} {schema : Schema} {operations : List Operation} {s s' : σ} {e : DbError}
  {r : Request}

/-- A query that does not compile is not run. -/
theorem run_of_error (h : compile schema operations = .error e) (s : σ) :
    db.run schema operations s = (.error e, s) := by
  have hcompile :
      (Call.ofExcept (compile schema operations) : Call σ Request) s = (.error e, s) := by
    rw [h]
    rfl
  exact Call.bind_of_error hcompile

/-- A query that compiles is run as one request. -/
theorem run_of_ok (h : compile schema operations = .ok r) (s : σ) :
    db.run schema operations s = db.execute r s := by
  have hcompile : (Call.ofExcept (compile schema operations) : Call σ Request) s = (.ok r, s) := by
    rw [h]
    rfl
  exact Call.bind_of_ok hcompile

/-- **One item of a batch**: both runs end alike, the noted one appends the item's own events, and
what every call keeps is kept. -/
theorem insert_item (db : Database σ) (schema : Schema) (item : Json) (s : σ)
    (log : List Occurrence) :
    ∃ events answer s', db.run schema [.insert item] s = (answer, s') ∧
      db.noted.run schema [.insert item] (s, log) = (answer, s', log ++ events) ∧
      ItemCourse schema db.handle item events answer ∧
      ∀ P : σ → Prop, db.Keeps P → P s → P s' := by
  -- An item that does not compile is never sent, and nothing changes.
  rcases hcompile : compile schema [.insert item] with e | r
  · refine ⟨[], .error e, s, run_of_error hcompile s, ?_, .rejected hcompile, fun _ _ hP => hP⟩
    rw [run_of_error hcompile, List.append_nil]
  · rcases hanswer : db.execute r s with ⟨answer, s'⟩
    refine ⟨[.executed db.handle r answer], answer, s', ?_, ?_, .sent hcompile, ?_⟩
    · rw [run_of_ok hcompile, hanswer]
    · rw [run_of_ok hcompile]
      exact Call.noted_of_eq hanswer
    · -- What requests keep is kept, since nothing but this request was sent.
      intro P hkeeps hP
      have hkept := hkeeps s r hP
      rwa [hanswer] at hkept

/-- **The items of a batch**, one after the other. -/
theorem insert_items (db : Database σ) (schema : Schema) (items : List Json) (s : σ)
    (log : List Occurrence) :
    ∃ events outcome s',
      (items.mapM fun item => db.run schema [.insert item]) s = (outcome, s') ∧
      (items.mapM fun item => db.noted.run schema [.insert item]) (s, log)
        = (outcome, s', log ++ events) ∧
      ItemsCourse schema db.handle items events outcome ∧
      ∀ P : σ → Prop, db.Keeps P → P s → P s' := by
  -- On the items. The state and the log are those that the items in front have left.
  induction items generalizing s log with
  | nil =>
    refine ⟨[], .ok [], s, rfl, ?_, .all List.Forall₂.nil rfl, fun _ _ hP => hP⟩
    rw [List.append_nil]
    rfl
  | cons item items ih =>
    rw [List.mapM_cons, List.mapM_cons]
    obtain ⟨sent, answer, s₁, hitem, hnoted, hcourse, hkept⟩ := db.insert_item schema item s log
    cases answer with
    | error e =>
      -- The first item that fails: the sequence ends with its failure.
      refine ⟨sent, .error e, s₁, Call.bind_of_error hitem, Call.bind_of_error hnoted, ?_, hkept⟩
      have hnone : InsertRequests schema [] [] := .nil
      exact .stopped (List.nil_append _).symm hnone List.length_nil hcourse
    | ok output =>
      cases hcourse with
      | @sent r _ hcompile =>
        obtain ⟨events, outcome, s', hrest, hnotes, hitems, hkeeps⟩ :=
          ih s₁ (log ++ [.executed db.handle r (.ok output)])
        -- The item comes in front of the outputs of the rest, if the rest has any.
        refine ⟨.executed db.handle r (.ok output) :: events, outcome.map (output :: ·), s', ?_, ?_,
          hitems.cons hcompile, fun P hP hs => hkeeps P hP (hkept P hP hs)⟩
        · rw [Call.bind_of_ok hitem]
          cases outcome with
          | error e => exact Call.bind_of_error hrest
          | ok outputs => exact Call.bind_of_ok hrest
        · rw [Call.bind_of_ok hnoted]
          rw [List.append_assoc, List.singleton_append] at hnotes
          cases outcome with
          | error e => exact Call.bind_of_error hnotes
          | ok outputs => exact Call.bind_of_ok hnotes

end Database

/-! ### The whole batch -/

/-- How a batch can go that is asked for in a state: what is called, its answer, and the state after
it. -/
inductive BatchCourse (db : Database σ) (schema : Schema) (items : List Json) (s : σ) :
    List Occurrence → Except DbError (List Output) → σ → Prop
  /-- Its transaction does not begin, and no item is sent. -/
  | refused {e : DbError} {s' : σ} (hbegin : db.adapter.begin db.handle s = (.error e, s')) :
      BatchCourse db schema items s [.begun db.handle (.error e)] (.error e) s'
  /-- Its transaction begins. The items are inserted on it, and it is committed if that went well
  and rolled back otherwise. The answer is the failure of this end, if there is one. -/
  | begun {n : Nat} {s₁ s₂ s' : σ} {sent : List Occurrence} {outcome : Except DbError (List Output)}
      {ended : Except DbError Unit} (hbegin : db.adapter.begin db.handle s = (.ok n, s₁))
      (hwork : (items.mapM fun item => (db.within n).run schema [.insert item]) s₁ = (outcome, s₂))
      (hitems : ItemsCourse schema (.scope n) items sent outcome)
      (hend : db.adapter.finish n outcome s₂ = (ended, s')) :
      BatchCourse db schema items s
        (.begun db.handle (.ok n) :: (sent ++ [.closing n ended (outcome.map fun _ => ())]))
        (ended >>= fun _ => outcome) s'

/-- A commit that fails has dropped the data of its transaction. -/
def Adapter.DropsFailed (a : Adapter σ) (look : σ → D) (opened : σ → List (Nat × D)) : Prop :=
  ∀ ⦃s s' : σ⦄ ⦃n : Nat⦄ ⦃d : D⦄ ⦃outer : List (Nat × D)⦄ ⦃e : DbError⦄,
    opened s = (n, d) :: outer → a.commit n s = (.error e, s') → look s' = d

namespace BatchCourse

variable {db : Database σ} {schema : Schema} {items : List Json} {s s' : σ}
  {events : List Occurrence} {answer : Except DbError (List Output)} {look : σ → D}
  {opened : σ → List (Nat × D)}

/-- The transaction of a batch is the innermost one until it ends. -/
theorem opened_work (ha : db.adapter.Restores look opened) (hin : innermost (opened s) = db.handle)
    {n : Nat} {s₁ s₂ : σ} {outcome : Except DbError (List Output)}
    (hbegin : db.adapter.begin db.handle s = (.ok n, s₁))
    (hwork : (items.mapM fun item => (db.within n).run schema [.insert item]) s₁ = (outcome, s₂)) :
    opened s₂ = (n, look s) :: opened s := by
  have hbegun : opened s₁ = (n, look s) :: opened s := (ha.begun (hin ▸ hbegin)).1
  -- The request goes to the innermost open transaction, and such a request opens and closes none.
  have hkeeps : (db.within n).Keeps fun t => opened t = (n, look s) :: opened s := by
    intro t r ht
    rcases hanswer : (db.within n).execute r t with ⟨output, t'⟩
    have hinnermost : innermost (opened t) = .scope n := by
      rw [ht]
      rfl
    have hon : db.adapter.execute (innermost (opened t)) r t = (output, t') := by
      rw [hinnermost]
      exact hanswer
    exact (ha.execute hon).trans ht
  -- What every request keeps, the items keep one after the other.
  obtain ⟨_, _, t, hrun, -, -, hkept⟩ := (db.within n).insert_items schema items s₁ []
  rw [hwork] at hrun
  obtain ⟨-, rfl⟩ := Prod.mk.inj hrun
  exact hkept _ hkeeps hbegun

/-- **All or nothing.** On a store that restores, a batch that answers has left what its items made
of the data, and one that fails has left the data of its beginning, unless its rollback failed, or
its commit on a store that keeps the data all the same. -/
theorem look_eq (hcourse : BatchCourse db schema items s events answer s')
    (ha : db.adapter.Restores look opened) (hin : innermost (opened s) = db.handle) :
    opened s' = opened s ∧
    (∀ outputs, answer = .ok outputs → ∃ n s₁ s₂, db.adapter.begin db.handle s = (.ok n, s₁) ∧
      (items.mapM fun item => (db.within n).run schema [.insert item]) s₁ = (.ok outputs, s₂) ∧
      look s' = look s₂) ∧
    ∀ e, answer = .error e → (∀ n e', .rolledBack n (.error e') ∉ events) →
      ((∃ n e', .committed n (.error e') ∈ events) → db.adapter.DropsFailed look opened) →
      look s' = look s := by
  cases hcourse with
  | refused hbegin =>
    obtain ⟨hopened, hlook⟩ := ha.refused (hin ▸ hbegin)
    exact ⟨hopened, nofun, fun _ _ _ _ => hlook⟩
  | @begun n s₁ s₂ _ sent outcome ended hbegin hwork hitems hend =>
    -- The end is the one of the innermost transaction, whose beginning had the data `look s`.
    have hopen := opened_work ha hin hbegin hwork
    obtain ⟨hopened, hlook⟩ := ha.finish hopen hend
    refine ⟨hopened, ?_, ?_⟩
    · -- An answer means that the end went well, and then the outcome of the items is the answer.
      intro outputs hanswer
      cases ended with
      | error e => exact absurd hanswer nofun
      | ok u =>
        obtain rfl : outcome = .ok outputs := hanswer
        exact ⟨n, s₁, s₂, hbegin, hwork, hlook rfl⟩
    · intro e hanswer hrolledBack hdrops
      have hlast : Occurrence.closing n ended (outcome.map fun _ => ())
          ∈ Occurrence.begun db.handle (.ok n)
            :: (sent ++ [.closing n ended (outcome.map fun _ => ())]) := by
        simp
      -- What failed is an item, with a rollback that went well, or else the end itself.
      cases ended with
      | ok u =>
        obtain rfl : outcome = .error e := hanswer
        exact hlook rfl
      | error e' =>
        cases outcome with
        | error _ => exact absurd hlast (hrolledBack n e')
        | ok outputs => exact hdrops ⟨n, e', hlast⟩ hopen hend

end BatchCourse

/-- The transaction of a batch takes its course. -/
theorem Database.batch_course (db : Database σ) (schema : Schema) (items : List Json) (s : σ) :
    ∃ events answer s',
      (db.transaction fun tx => items.mapM fun item => tx.run schema [.insert item]) s
        = (answer, s') ∧
      (db.noted.transaction fun tx => items.mapM fun item => tx.run schema [.insert item]) (s, [])
        = (answer, s', events) ∧
      BatchCourse db schema items s events answer s' := by
  rcases hbegin : db.adapter.begin db.handle s with ⟨e | n, s₁⟩
  · -- Nothing is inserted if the beginning is refused.
    exact ⟨_, _, _, Adapter.transaction_of_refused hbegin,
      Adapter.transaction_of_refused (Call.noted_of_eq hbegin), .refused hbegin⟩
  · -- The items and the end are followed on the plain adapter, and the notes come along.
    obtain ⟨sent, outcome, s₂, hwork, hnotes, hitems, -⟩ :=
      (db.within n).insert_items schema items s₁ [.begun db.handle (.ok n)]
    rcases hend : db.adapter.finish n outcome s₂ with ⟨ended, s'⟩
    refine ⟨_, _, s', ?_, ?_, .begun hbegin hwork hitems hend⟩
    · -- Once without notes, and once with them; both settle by the outcome of the items.
      calc (db.transaction fun tx => items.mapM fun item => tx.run schema [.insert item]) s
          = db.adapter.settle n outcome s₂ := Adapter.transaction_of_begun hbegin hwork
        _ = (ended >>= fun _ => outcome, s') := Adapter.settle_of_finish hend
    · calc (db.noted.transaction fun tx =>
            items.mapM fun item => tx.run schema [.insert item]) (s, [])
          = db.noted.adapter.settle n outcome
              (s₂, [Occurrence.begun db.handle (.ok n)] ++ sent) :=
            Adapter.transaction_of_begun (Call.noted_of_eq hbegin) hnotes
        _ = (ended >>= fun _ => outcome, s', [Occurrence.begun db.handle (.ok n)] ++ sent
              ++ [Occurrence.closing n ended (outcome.map fun _ => ())]) :=
            Adapter.settle_of_finish (Adapter.noted_finish _ hend)

/-- **A batch is ordered, and all or nothing.** No items, no call. Otherwise one transaction begins
and the items are inserted on it in their order, each by the request that it compiles to, up to the
first that fails; the transaction is committed if none did, and rolled back once if one did. The
answer is one output for each item, or the first failure. On a store that restores, a batch that
failed has left the data of its beginning. -/
theorem insertMany_batch (db : Database σ) (schema : Schema) (items : List Json) (s : σ) :
    (items = [] → db.insertMany schema items s = (.ok [], s) ∧
      db.noted.insertMany schema items (s, []) = (.ok [], s, [])) ∧
    (items ≠ [] → ∃ events answer s', db.insertMany schema items s = (answer, s') ∧
      db.noted.insertMany schema items (s, []) = (answer, s', events) ∧
      BatchCourse db schema items s events answer s' ∧
      ∀ (D : Type) (look : σ → D) (opened : σ → List (Nat × D)),
        db.adapter.Restores look opened → innermost (opened s) = db.handle →
          opened s' = opened s ∧
          (∀ outputs, answer = .ok outputs → ∃ n s₁ s₂,
            db.adapter.begin db.handle s = (.ok n, s₁) ∧
            (items.mapM fun item => (db.within n).run schema [.insert item]) s₁
              = (.ok outputs, s₂) ∧
            look s' = look s₂) ∧
          ∀ e, answer = .error e → (∀ n e', .rolledBack n (.error e') ∉ events) →
            ((∃ n e', .committed n (.error e') ∈ events) →
              db.adapter.DropsFailed look opened) →
            look s' = look s) := by
  refine ⟨?_, ?_⟩
  · rintro rfl
    exact ⟨rfl, rfl⟩
  · intro hitems
    -- With an item in it, the batch is the transaction of the insertions.
    have hbatch : ∀ {τ : Type} (db : Database τ), db.insertMany schema items
        = db.transaction fun tx => items.mapM fun item => tx.run schema [.insert item] := by
      intro τ db
      have hnotEmpty : ¬ items.isEmpty = true := by simpa using hitems
      exact if_neg hnotEmpty
    obtain ⟨events, answer, s', hrun, hnoted, hcourse⟩ := db.batch_course schema items s
    rw [← hbatch db] at hrun
    rw [← hbatch db.noted] at hnoted
    refine ⟨events, answer, s', hrun, hnoted, hcourse, ?_⟩
    -- Only what is said about the data needs a store that restores.
    intro D look opened ha hin
    exact hcourse.look_eq ha hin

/-- Three items for a table, of which the second is no row. -/
def mixedItems : List Json :=
  [.object [("id", .int 1)], .string "id", .object [("id", .int 3)]]

/-- What is called for them: one insert, and the rollback. -/
def mixedItemsCalls : List Occurrence :=
  [.begun .root (.ok 0),
    .executed (.scope 0) (.sql ⟨"INSERT INTO t (id) VALUES (?)", [.int 1], [none]⟩)
      (.ok (.ack (WriteAck.ofCount 1))),
    .rolledBack 0 (.ok ())]

/-- The first item is taken back, and the third is not sent. -/
theorem mixedItems_batch :
    mixedItems ≠ [] ∧ Journal.adapter.Restores Journal.entries Journal.opened ∧
      innermost (Journal.opened ⟨[], []⟩) = Handle.root ∧
      ∃ e s', (Database.ofAdapter Journal.adapter).insertMany ⟨"t", .tabular, []⟩ mixedItems
        ⟨[], []⟩
        = (.error e, s') ∧ s'.entries = [] := by
  have hitems : mixedItems ≠ [] := nofun
  -- The calls are computed. That the first item is taken back comes from the theorem.
  have hnoted : ∃ e s', (Database.ofAdapter Journal.adapter).noted.insertMany ⟨"t", .tabular, []⟩
      mixedItems (⟨[], []⟩, []) = (.error e, s', mixedItemsCalls) := ⟨_, _, rfl⟩
  obtain ⟨events, answer, s', hrun, hcalls, -, hdata⟩ :=
    (insertMany_batch (Database.ofAdapter Journal.adapter) ⟨"t", .tabular, []⟩ mixedItems
      ⟨[], []⟩).2 hitems
  obtain ⟨e, t, hnoted⟩ := hnoted
  rw [hnoted] at hcalls
  obtain ⟨rfl, hrest⟩ := Prod.mk.inj hcalls
  obtain ⟨-, rfl⟩ := Prod.mk.inj hrest
  obtain ⟨-, -, hrestored⟩ := hdata _ Journal.entries Journal.opened Journal.restores rfl
  -- Its rollback went well, and nothing was committed.
  have hrolledBack : ∀ n e', Occurrence.rolledBack n (.error e') ∉ mixedItemsCalls := by
    simp [mixedItemsCalls]
  have hcommitted : ¬ ∃ n e', Occurrence.committed n (.error e') ∈ mixedItemsCalls := by
    simp [mixedItemsCalls]
  exact ⟨hitems, Journal.restores, rfl, e, s', hrun,
    hrestored e rfl hrolledBack fun h => absurd h hcommitted⟩

end StoreBridge
