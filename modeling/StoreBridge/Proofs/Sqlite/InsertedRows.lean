import StoreBridge.Proofs.Checked
import StoreBridge.Proofs.Steps
import StoreBridge.Sqlite.Engine

/-!
# The rows that a statement inserts

The engine keeps the number of the row that was inserted last. `Engine.inserted` is what a statement
inserts, in order, and `Engine.run_inserted` says that this number is the one of the last of these
rows after the statement ran, and the old one if there are none.

Only one place writes the number: the insertion of a row that met no other row
(`insertRow_inserting`). Everything else that a change does is `Change.Quiet`. In particular the
update of the other row that an insert may be told to do instead is quiet, and so is an update or a
delete.

A row counts as inserted even if the statement fails later on, since the counters are not put back.
-/

namespace StoreBridge

namespace Sqlite

/-! ### Steps of a change that insert nothing -/

namespace Change

variable {α β : Type}

/-- The step leaves the number of the row that was inserted last, it does not count backwards, and
an answer of it satisfies `post`. -/
structure Quiet (c : Change α) (post : α → Prop) : Prop where
  lastNumber : ∀ p, (c p).2.lastNumber = p.lastNumber
  touched : ∀ p, p.touched ≤ (c p).2.touched
  answer : ∀ {p p' a}, c p = (.ok a, p') → post a

variable {c : Change α} {k : α → Change β} {post : α → Prop} {post' : β → Prop}

namespace Quiet

/-- Nothing is done. -/
theorem pure {a : α} (h : post a) : Quiet (pure a) post where
  lastNumber _ := rfl
  touched _ := Nat.le_refl _
  answer hrun := by
    obtain rfl := Except.ok.inj (Prod.mk.inj hrun).1
    exact h

/-- Nothing is done but to fail. -/
theorem throw (s : Setback) : Quiet (throw s : Change α) post where
  lastNumber _ := rfl
  touched _ := Nat.le_refl _
  answer hrun := by
    have hanswer : (.error s : Except Setback α) = .ok _ := (Prod.mk.inj hrun).1
    exact absurd hanswer nofun

/-- A quiet step and quiet steps after each of its answers are quiet together. -/
theorem bind (hc : c.Quiet post) (hk : ∀ a, post a → (k a).Quiet post') :
    Quiet (c >>= k) post' where
  lastNumber p := by
    -- Nothing runs after a failure; after an answer the second step starts from what the first has
    -- left.
    rcases hrun : c p with ⟨s | a, mid⟩
    · rw [step_of_error hrun, ← hc.lastNumber p, hrun]
    · rw [step_of_ok hrun, (hk a (hc.answer hrun)).lastNumber, ← hc.lastNumber p, hrun]
  touched p := by
    have hfirst := hc.touched p
    rcases hrun : c p with ⟨s | a, mid⟩
    · rw [step_of_error hrun]
      rwa [hrun] at hfirst
    · rw [step_of_ok hrun]
      rw [hrun] at hfirst
      exact Nat.le_trans hfirst ((hk a (hc.answer hrun)).touched mid)
  answer {p p' b} h := by
    rcases hrun : c p with ⟨s | a, mid⟩
    · rw [step_of_error hrun] at h
      exact absurd (Prod.mk.inj h).1 nofun
    · rw [step_of_ok hrun] at h
      exact (hk a (hc.answer hrun)).answer h

/-- A step whose answer does not matter. -/
theorem andThen {d : Change β} (hc : c.Quiet post) (hd : d.Quiet post') :
    Quiet (c >>= fun _ => d) post' :=
  hc.bind fun _ _ => hd

/-- A failure that was found beforehand. -/
theorem ofExcept (undoes : Extent) (r : Except Fault α) :
    Quiet (Change.ofExcept undoes r) fun a => r = .ok a := by
  cases r with
  | ok a => exact pure rfl
  | error f => exact throw _

/-- The table is looked at. -/
theorem table : Quiet Change.table fun _ => True where
  lastNumber _ := rfl
  touched _ := Nat.le_refl _
  answer _ := trivial

/-- The table is changed, but for the number of the last row. -/
theorem alter (f : Table → Table) : Quiet (Change.alter f) fun _ => True where
  lastNumber _ := rfl
  touched _ := Nat.le_refl _
  answer _ := trivial

/-- A row is counted. -/
theorem touch : Quiet Change.touch fun _ => True where
  lastNumber _ := rfl
  touched p := Nat.le_succ p.touched
  answer _ := trivial

/-- A loop is quiet if its steps are. What they keep of the value that they pass on holds at the
end, also when the loop is left early. -/
theorem forIn {γ σ : Type} (keeps : σ → Prop) {f : γ → σ → Change (ForInStep σ)}
    (hf : ∀ x b, keeps b → Quiet (f x b) fun step => keeps step.value) (xs : List γ) {b : σ}
    (hb : keeps b) : Quiet (forIn xs b f) keeps := by
  induction xs generalizing b with
  | nil => exact pure hb
  | cons x xs ih =>
    rw [List.forIn_cons]
    refine (hf x b hb).bind fun step hstep => ?_
    -- The loop is left with the value of this step, or goes on from it.
    cases step with
    | done b' => exact pure hstep
    | yield b' => exact ih hstep

end Quiet

end Change

open Change

/-! ### What is quiet -/

namespace Discipline

variable (d : Discipline)

/-- A broken rule fails, and how much is undone depends on the rule. -/
theorem broken_quiet (fault : Fault) : (d.broken fault).Quiet fun _ => True := by
  unfold broken
  split
  · exact .pure trivial
  · exact .throw _

/-- What the loop over the conditions on values passes on: nothing, or that the row is left out. -/
def LeavesOut (b : Option (Option StoredRow) × Unit) : Prop :=
  ∀ answer ∈ b.1, answer = none

/-- A row that passes the conditions on its values keeps its number. -/
theorem checkValues_quiet (row : StoredRow) :
    (d.checkValues row).Quiet fun checked => ∀ row' ∈ checked, row'.number = row.number := by
  unfold checkValues
  refine Quiet.table.bind fun t _ => ?_
  extract_lets cells filled checks
  have hnone : ∀ row' ∈ (none : Option StoredRow), row'.number = row.number := nofun
  -- The loop over the conditions is left early with no row, or passes nothing on.
  have hchecks : (checks ()).Quiet fun checked => ∀ row' ∈ checked, row'.number = row.number := by
    have hstart : LeavesOut (none, ()) := nofun
    unfold checks
    refine (Quiet.forIn LeavesOut (fun condition b _ => ?_) d.checks hstart).bind fun b hb => ?_
    · -- A condition that fails leaves the row out, if the statement goes on at all.
      refine (Quiet.ofExcept _ _).bind fun value _ => ?_
      split
      · refine (d.broken_quiet _).bind fun goesOn _ => ?_
        split
        · exact .pure fun r hr => (Option.some.inj hr).symm
        · exact .pure hstart
      · exact .pure hstart
    · dsimp only
      split
      · next left hleft =>
        obtain rfl := hb left hleft
        exact .pure hnone
      · exact .pure fun row' hrow => by rw [← Option.mem_some.mp hrow]
  split
  · refine (d.broken_quiet _).bind fun goesOn _ => ?_
    split
    · exact .pure hnone
    · exact hchecks
  · exact hchecks

/-- Handling clashes is quiet: it removes rows, and rows are not inserted by it. -/
theorem meet_quiet (clashes : List (List Nat × Option StoredRow × Fault)) :
    (d.meet clashes).Quiet fun _ => True := by
  -- On the clashes, one after the other, up to the first that ends it.
  induction clashes with
  | nil => exact .pure trivial
  | cons clash rest ih =>
    obtain ⟨columns, other, fault⟩ := clash
    cases other with
    | none => exact ih
    | some old =>
      unfold meet
      split
      · exact .pure trivial
      · exact .pure trivial
      · split
        · exact .pure trivial
        · exact (Quiet.alter _).andThen ih
        · exact .throw _

end Discipline

/-- Updating a row is quiet: its values are checked, its clashes handled, and then it is
replaced. -/
theorem updateRow_quiet (d : Discipline) (changes : List (Place × Term)) (cells : List Datum)
    (old : StoredRow) : (updateRow d changes cells old).Quiet fun _ => True := by
  unfold updateRow
  refine Quiet.table.bind fun t _ => (Quiet.ofExcept _ _).bind fun new _ =>
    (d.checkValues_quiet new).bind fun checked _ => ?_
  cases checked with
  | none => exact .pure trivial
  | some row =>
    refine (d.meet_quiet _).bind fun answer _ => ?_
    cases answer with
    | goOn => exact (Quiet.alter _).andThen Quiet.touch
    | leaveOut => exact .pure trivial
    | change old changes filter => exact .pure trivial

/-- Updating rows inserts none. -/
theorem updateRows_quiet (d : Discipline) (changes : List (Place × Term)) (numbers : List Int) :
    (updateRows d changes numbers).Quiet fun _ => True := by
  unfold updateRows
  refine (Quiet.forIn (fun _ => True) (fun number _ _ => ?_) numbers trivial).andThen
    (.pure trivial)
  refine Quiet.table.bind fun t _ => ?_
  split
  · exact (updateRow_quiet d changes _ _).andThen (.pure trivial)
  · exact .pure trivial

/-- Deleting rows inserts none. -/
theorem deleteRows_quiet (rows : List StoredRow) : (deleteRows rows).Quiet fun _ => True := by
  unfold deleteRows
  refine (Quiet.forIn (fun _ => True) (fun old _ _ => ?_) rows trivial).andThen
    (.pure trivial)
  exact (Quiet.alter _).andThen (Quiet.touch.andThen (.pure trivial))

/-! ### What an insert does -/

/-- A step that inserts one row, which it answers, or none. -/
structure Change.Inserting (c : Change (Option StoredRow)) : Prop where
  inserted : ∀ {p p' row}, c p = (.ok (some row), p') →
    p'.lastNumber = row.number ∧ p.touched < p'.touched ∧ row ∈ p'.table.rows
  otherwise : ∀ {p p' answer}, c p = (answer, p') → (∀ row, answer ≠ .ok (some row)) →
    p'.lastNumber = p.lastNumber ∧ p.touched ≤ p'.touched

/-- What is quiet and has no row to show inserts none. -/
theorem Change.Quiet.inserting {c : Change (Option StoredRow)} (hc : c.Quiet (· = none)) :
    c.Inserting where
  inserted h := absurd (hc.answer h) nofun
  otherwise {p p' answer} h _ := by
    have hnumber := hc.lastNumber p
    have htouched := hc.touched p
    rw [h] at hnumber htouched
    exact ⟨hnumber, htouched⟩

/-- What is quiet may come before an insertion. -/
theorem Change.Quiet.bind_inserting {α : Type} {c : Change α} {k : α → Change (Option StoredRow)}
    {post : α → Prop} (hc : c.Quiet post) (hk : ∀ a, post a → (k a).Inserting) :
    (c >>= k).Inserting where
  inserted {p p' row} h := by
    have htouched := hc.touched p
    rcases hrun : c p with ⟨s | a, mid⟩
    · rw [step_of_error hrun] at h
      exact absurd (Prod.mk.inj h).1 nofun
    · rw [step_of_ok hrun] at h
      rw [hrun] at htouched
      obtain ⟨hnumber, hmore, hrow⟩ := (hk a (hc.answer hrun)).inserted h
      exact ⟨hnumber, Nat.lt_of_le_of_lt htouched hmore, hrow⟩
  -- Without an insertion both parts leave the number.
  otherwise {p p' answer} h hnone := by
    have hnumber := hc.lastNumber p
    have htouched := hc.touched p
    rcases hrun : c p with ⟨s | a, mid⟩
    · rw [step_of_error hrun] at h
      rw [hrun] at hnumber htouched
      obtain ⟨-, rfl⟩ := Prod.mk.inj h
      exact ⟨hnumber, htouched⟩
    · rw [step_of_ok hrun] at h
      rw [hrun] at hnumber htouched
      obtain ⟨hrest, hmore⟩ := (hk a (hc.answer hrun)).otherwise h hnone
      exact ⟨hrest.trans hnumber, Nat.le_trans htouched hmore⟩

/-- A row that is placed among others is there. -/
theorem Table.mem_placeRow (row : StoredRow) (rows : List StoredRow) :
    row ∈ Table.placeRow row rows := by
  induction rows with
  | nil => exact List.mem_singleton_self row
  | cons r rest ih =>
    unfold placeRow
    split
    · exact List.mem_cons_self
    · exact List.mem_cons_of_mem r ih

/-- **The insertion of a row.** The number of the row is the one that was inserted last if the row
was inserted; where another row is updated instead, or the row is left out, or the insertion fails,
that number stays. -/
theorem insertRow_inserting (d : Discipline) (cells : List Datum) (wanted : Datum) :
    (insertRow d cells wanted).Inserting := by
  unfold insertRow
  refine Quiet.table.bind_inserting fun t _ => (Quiet.ofExcept _ _).bind_inserting fun number _ =>
    (d.checkValues_quiet _).bind_inserting fun checked hchecked => ?_
  cases checked with
  | none => exact Quiet.inserting (.pure rfl)
  | some row =>
    have hnumber : row.number = number := hchecked row rfl
    refine (d.meet_quiet _).bind_inserting fun answer _ => ?_
    cases answer with
    | leaveOut => exact Quiet.inserting (.pure rfl)
    | goOn =>
      -- This is the one place where the number is written.
      constructor
      · intro p p' row' h
        obtain ⟨hrow, rfl⟩ := Prod.mk.inj h
        obtain rfl : row = row' := Option.some.inj (Except.ok.inj hrow)
        exact ⟨hnumber.symm, Nat.lt_succ_self p.touched, Table.mem_placeRow row p.table.rows⟩
      · intro p p' answer h hnone
        obtain ⟨rfl, -⟩ := Prod.mk.inj h
        exact absurd rfl (hnone row)
    | change old changes filter =>
      -- The other row is updated instead, which is quiet.
      refine (Quiet.ofExcept _ _).bind_inserting fun wanted _ => Quiet.inserting ?_
      dsimp only
      split
      · exact (updateRow_quiet _ changes _ old).andThen (.pure rfl)
      · exact .pure rfl

/-- The number of the last one of some rows, or an earlier number if there are none. -/
def lastOf (rows : List StoredRow) (before : Int) : Int :=
  (rows.getLast?.map StoredRow.number).getD before

@[simp] theorem lastOf_nil (before : Int) : lastOf [] before = before := rfl

/-- The last number of rows behind others counts from the last number of those. -/
theorem lastOf_append (rows more : List StoredRow) (before : Int) :
    lastOf (rows ++ more) before = lastOf more (lastOf rows before) := by
  unfold lastOf
  rw [List.getLast?_append]
  cases more.getLast? <;> rfl

/-- The rows of an insert that are inserted, up to the first that fails. -/
def insertedFrom (d : Discipline) : List (List Datum × Datum) → Progress → List StoredRow
  | [], _ => []
  | (cells, wanted) :: rest, p =>
    match insertRow d cells wanted p with
    | (.ok row?, p') => row?.toList ++ insertedFrom d rest p'
    | (.error _, _) => []

/-- What `Insertion.run` inserts. -/
def Insertion.inserted (i : Insertion) (p : Progress) : List StoredRow :=
  insertedFrom i.discipline i.rows p

/-- **The rows of an insert.** The last of them that is inserted leaves its number, and each of them
counts. -/
theorem Insertion.run_inserted (i : Insertion) {p p' : Progress} {answer : Except Setback Unit}
    (h : i.run p = (answer, p')) :
    p'.lastNumber = lastOf (i.inserted p) p.lastNumber ∧
      p.touched + (i.inserted p).length ≤ p'.touched := by
  obtain ⟨t, d, rows⟩ := i
  change (rows.forM fun row => discard (insertRow d row.1 row.2)) p = (answer, p') at h
  change p'.lastNumber = lastOf (insertedFrom d rows p) p.lastNumber ∧
    p.touched + (insertedFrom d rows p).length ≤ p'.touched
  -- On the rows that are left; the state is the one that the rows before have left.
  induction rows generalizing p with
  | nil =>
    obtain ⟨-, rfl⟩ := Prod.mk.inj h
    exact ⟨rfl, Nat.le_refl _⟩
  | cons row rest ih =>
    obtain ⟨cells, wanted⟩ := row
    change (discard (insertRow d cells wanted) >>= fun _ =>
      rest.forM fun row => discard (insertRow d row.1 row.2)) p = (answer, p') at h
    have hrow := insertRow_inserting d cells wanted
    unfold insertedFrom
    rcases hrun : insertRow d cells wanted p with ⟨s | inserted, mid⟩
    · -- The insert ends with the row that fails.
      have hfails : (discard (insertRow d cells wanted) : Change Unit) p = (.error s, mid) :=
        step_of_error hrun
      rw [step_of_error hfails] at h
      obtain ⟨-, rfl⟩ := Prod.mk.inj h
      exact hrow.otherwise hrun nofun
    · have hgoesOn : (discard (insertRow d cells wanted) : Change Unit) p = (.ok (), mid) :=
        step_of_ok hrun
      rw [step_of_ok hgoesOn] at h
      obtain ⟨hnumber, hcount⟩ := ih h
      dsimp only
      rw [lastOf_append, List.length_append]
      -- A row that is left out leaves the number for the next one to start from.
      cases inserted with
      | none =>
        obtain ⟨hsame, htouched⟩ := hrow.otherwise hrun nofun
        rw [← hsame]
        exact ⟨hnumber, by simp only [Option.toList_none, List.length_nil]; omega⟩
      | some row =>
        obtain ⟨hlast, htouched, -⟩ := hrow.inserted hrun
        refine ⟨?_, by simp only [Option.toList_some, List.length_singleton]; omega⟩
        rw [hnumber, hlast]
        rfl

/-! ### What a statement does -/

namespace Engine

/-- The insertion that an insert with some arguments is prepared to. -/
def insertion (e : Engine) (arguments : List Datum) (named : List (String × List String × Select))
    (conflict : Conflict) (table : String) (columns : List String) (rows : InsertRows)
    (upsert : Option Upsert) (returning : List ResultColumn) : Except Fault Insertion := do
  prepareInsertion (← (e.context arguments).withNamed named) conflict table columns rows upsert
    returning

/-- The rows that a statement inserts, in order, also if it fails later on. -/
def inserted (e : Engine) (s : Statement) (arguments : List Datum) : List StoredRow :=
  match s with
  | .insert named conflict table columns rows upsert returning =>
    match e.insertion arguments named conflict table columns rows upsert returning with
    | .ok i => i.inserted { table := i.table, lastNumber := e.counters.lastNumber }
    | .error _ => []
  | _ => []

/-- A change leaves the last number that it came to, whether it succeeds or is undone. -/
theorem afterChange_lastNumber (e : Engine) (result : Except Setback Unit) (p : Progress) :
    (e.afterChange result p).counters.lastNumber = p.lastNumber := by
  unfold afterChange
  cases result with
  | ok => rfl
  | error setback =>
    obtain ⟨fault, undoes⟩ := setback
    cases undoes <;> rfl

/-- A change runs, and then it is settled what it undoes. -/
theorem change_of_run {c : PreparedChange} {e : Engine} {answer : Except Setback Unit}
    {p : Progress}
    (h : c.run { table := c.table, lastNumber := e.counters.lastNumber } = (answer, p)) :
    change (.ok c) e = (answer.mapError Setback.fault, e.afterChange answer p) := by
  have hrun : c.run.run { table := c.table, lastNumber := e.counters.lastNumber } = (answer, p) := h
  unfold change
  dsimp only
  rw [step_of_ok (show (get : Work Engine) e = (.ok e, e) from rfl), hrun]
  cases answer <;> rfl

/-- The work leaves `n` as the number of the row that was inserted last. -/
abbrev KeepsNumber (n : Int) {α : Type} (w : Work α) : Prop :=
  StepMaintains (fun e => e.counters.lastNumber = n) w

section KeepsNumber

variable {n : Int}

theorem modify_keepsNumber {g : Engine → Engine} (h : ∀ e, (g e).counters = e.counters) :
    KeepsNumber n (modify g : Work PUnit) :=
  .modify fun e he => (congrArg Counters.lastNumber (h e)).trans he

/-- A command that is refused in some states. -/
theorem guarded_keepsNumber {refuses : Engine → Bool} {g : Engine → Engine} (f : Fault)
    (h : ∀ e, (g e).counters = e.counters) :
    KeepsNumber n (do
      let e ← get
      if refuses e then throw f
      set (g e) : Work Unit) := by
  intro e he
  rw [step_of_ok (show (get : Work Engine) e = (.ok e, e) from rfl)]
  -- Refused, nothing is set; otherwise what is set has the same counters.
  cases refuses e with
  | true => exact he
  | false => exact (congrArg Counters.lastNumber (h e)).trans he

/-- A change to the catalog numbers no row. -/
theorem define_keepsNumber (r : Except Fault Catalog) : KeepsNumber n (define r) := by
  cases r with
  | ok catalog => exact modify_keepsNumber fun _ => rfl
  | error f => exact .throw f

theorem begin_keepsNumber : KeepsNumber n begin := guarded_keepsNumber _ fun _ => rfl

theorem commit_keepsNumber : KeepsNumber n commit := guarded_keepsNumber _ fun _ => rfl

theorem rollback_keepsNumber : KeepsNumber n rollback := guarded_keepsNumber _ fun _ => rfl

theorem savepoint_keepsNumber (name : String) : KeepsNumber n (savepoint name) :=
  modify_keepsNumber fun _ => rfl

/-- Looking for a savepoint numbers no row. -/
theorem findSavepoint_keepsNumber (name : String) : KeepsNumber n (findSavepoint name) := by
  refine StepMaintains.get.bind fun e => ?_
  split
  · exact .pure _
  · exact .throw _

theorem release_keepsNumber (name : String) : KeepsNumber n (release name) := by
  refine (findSavepoint_keepsNumber name).bind fun found => modify_keepsNumber fun e => ?_
  cases found.1.isOutermost <;> rfl

theorem rollbackTo_keepsNumber (name : String) : KeepsNumber n (rollbackTo name) :=
  (findSavepoint_keepsNumber name).bind fun _ => modify_keepsNumber fun _ => rfl

/-- So does a change that inserts nothing. -/
theorem change_keepsNumber {prepared : Except Fault PreparedChange}
    (hquiet : ∀ c, prepared = .ok c → c.run.Quiet fun _ => True) :
    KeepsNumber n (change prepared) := by
  intro e he
  cases prepared with
  | error f => exact he
  | ok c =>
    -- The change starts from the number of the engine, keeps it, and hands it back.
    rcases hrun : c.run { table := c.table, lastNumber := e.counters.lastNumber } with ⟨answer, p⟩
    rw [change_of_run hrun]
    have hnumber := (hquiet c rfl).lastNumber
      { table := c.table, lastNumber := e.counters.lastNumber }
    rw [hrun] at hnumber
    exact (e.afterChange_lastNumber answer p).trans (hnumber.trans he)

/-- What an update was prepared to do inserts no row. -/
theorem prepareUpdate_quiet {ctx : Context} {conflict : Conflict} {table : String}
    {changes : List (String × Expr)} {filter : Option Expr} {returning : List ResultColumn}
    {c : PreparedChange} (h : prepareUpdate ctx conflict table changes filter returning = .ok c) :
    c.run.Quiet fun _ => True := by
  simp only [prepareUpdate, bind_eq_ok, pure_eq_ok] at h
  obtain ⟨t, -, changes', -, filter', -, -, -, d, -, rfl⟩ := h
  exact (Quiet.ofExcept _ _).bind fun rows _ => updateRows_quiet d changes' _

/-- What a delete was prepared to do inserts no row. -/
theorem prepareDelete_quiet {ctx : Context} {table : String} {filter : Option Expr}
    {returning : List ResultColumn} {c : PreparedChange}
    (h : prepareDelete ctx table filter returning = .ok c) : c.run.Quiet fun _ => True := by
  simp only [prepareDelete, bind_eq_ok, pure_eq_ok] at h
  obtain ⟨t, -, filter', -, -, -, rfl⟩ := h
  exact (Quiet.ofExcept _ _).bind fun rows _ => deleteRows_quiet rows

/-- A statement that is no insert leaves the number of the row that was inserted last. -/
theorem run_keepsNumber {s : Statement} (arguments : List Datum)
    (hinsert : ∀ named conflict table columns rows upsert returning,
      s ≠ .insert named conflict table columns rows upsert returning) :
    KeepsNumber n (run s arguments) := by
  have hdone {w : Work Unit} (hw : KeepsNumber n w) :
      KeepsNumber n (w >>= fun _ => return (⟨[], []⟩ : Relation)) := hw.bind fun _ => .pure _
  refine StepMaintains.get.bind fun e => ?_
  -- Statement by statement: reads and definitions touch no rows, and the two changes are quiet.
  cases s with
  | select q =>
    dsimp only
    split
    · exact .pure _
    · exact (StepMaintains.throw _).bind fun _ => .pure _
  | insert => exact absurd rfl (hinsert _ _ _ _ _ _ _)
  | update named conflict table changes filter returning =>
    refine hdone (change_keepsNumber fun c hc => ?_)
    obtain ⟨ctx, -, hc⟩ := bind_eq_ok.mp hc
    exact prepareUpdate_quiet hc
  | delete named table filter returning =>
    refine hdone (change_keepsNumber fun c hc => ?_)
    obtain ⟨ctx, -, hc⟩ := bind_eq_ok.mp hc
    exact prepareDelete_quiet hc
  | createTable => exact hdone (define_keepsNumber _)
  | createTableAs => exact hdone (define_keepsNumber _)
  | createIndex => exact hdone (define_keepsNumber _)
  | dropTable => exact hdone (define_keepsNumber _)
  | dropIndex => exact hdone (define_keepsNumber _)
  | alterTable => exact hdone (define_keepsNumber _)
  | begin => exact hdone begin_keepsNumber
  | commit => exact hdone commit_keepsNumber
  | rollback => exact hdone rollback_keepsNumber
  | savepoint name => exact hdone (savepoint_keepsNumber name)
  | release name => exact hdone (release_keepsNumber name)
  | rollbackTo name => exact hdone (rollbackTo_keepsNumber name)
  | noEffect => exact hdone (.pure ())

end KeepsNumber

/-- An insert runs the insertion that it is prepared to. -/
theorem run_insert (named : List (String × List String × Select)) (conflict : Conflict)
    (table : String) (columns : List String) (rows : InsertRows) (upsert : Option Upsert)
    (returning : List ResultColumn) (arguments : List Datum) (e : Engine) :
    run (.insert named conflict table columns rows upsert returning) arguments e =
      (change ((e.insertion arguments named conflict table columns rows upsert returning).map
        fun i => ⟨i.table, i.run⟩) >>= fun _ => return (⟨[], []⟩ : Relation)) e := by
  -- Preparing an insert fails as preparing its insertion does.
  have hprepare : ((e.context arguments).withNamed named >>= fun ctx =>
        prepareInsert ctx conflict table columns rows upsert returning)
      = (e.insertion arguments named conflict table columns rows upsert returning).map
        fun i => ⟨i.table, i.run⟩ := by
    unfold insertion
    cases (e.context arguments).withNamed named with
    | error f => rfl
    | ok ctx => cases h : prepareInsertion ctx conflict table columns rows upsert returning <;>
        simp only [prepareInsert, h, bind, Except.bind] <;> rfl
  rw [← hprepare]
  rfl

/-- **What an insertion leaves behind**: the number of the last row it put in, or the one from
before. If the insertion succeeds, each of its rows counts as changed. -/
theorem change_insertion (i : Insertion) {e e' : Engine} {answer : Except Fault Unit}
    (h : change (.ok ⟨i.table, i.run⟩) e = (answer, e')) :
    e'.counters.lastNumber
        = lastOf (i.inserted { table := i.table, lastNumber := e.counters.lastNumber })
          e.counters.lastNumber ∧
      (answer = .ok () →
        (i.inserted { table := i.table, lastNumber := e.counters.lastNumber }).length
          ≤ e'.counters.changes) := by
  rcases hrun : i.run { table := i.table, lastNumber := e.counters.lastNumber } with ⟨result, p⟩
  obtain ⟨hnumber, hcount⟩ := i.run_inserted hrun
  have hchange : change (.ok ⟨i.table, i.run⟩) e
      = (result.mapError Setback.fault, e.afterChange result p) := change_of_run hrun
  obtain ⟨rfl, rfl⟩ := Prod.mk.inj (hchange.symm.trans h)
  refine ⟨(e.afterChange_lastNumber result p).trans hnumber, fun hok => ?_⟩
  -- A failed insert does not report its changes.
  cases result with
  | error s => exact absurd hok nofun
  | ok => exact Nat.le_trans (Nat.le_add_left _ 0) hcount

/-- **What a statement inserts.** The number of the last row that it inserts is the one that was
inserted last; without such a row the number stays. If the statement succeeds, each of these rows
counts as changed. -/
theorem run_inserted (s : Statement) (arguments : List Datum) {e e' : Engine}
    {answer : Except Fault Relation} (h : run s arguments e = (answer, e')) :
    e'.counters.lastNumber = lastOf (e.inserted s arguments) e.counters.lastNumber ∧
      ∀ r, answer = .ok r → (e.inserted s arguments).length ≤ e'.counters.changes := by
  by_cases hinsert : ∀ named conflict table columns rows upsert returning,
      s ≠ .insert named conflict table columns rows upsert returning
  · -- Any other statement inserts nothing and keeps the number.
    have hnone : e.inserted s arguments = [] := by
      unfold inserted
      split
      · exact absurd rfl (hinsert _ _ _ _ _ _ _)
      · rfl
    have hkeeps := run_keepsNumber arguments hinsert e rfl
    rw [h] at hkeeps
    rw [hnone]
    exact ⟨hkeeps, fun _ _ => Nat.zero_le _⟩
  · push Not at hinsert
    obtain ⟨named, conflict, table, columns, rows, upsert, returning, rfl⟩ := hinsert
    rw [run_insert] at h
    rcases hi : e.insertion arguments named conflict table columns rows upsert returning with f | i
    · have hnone : e.inserted (.insert named conflict table columns rows upsert returning) arguments
          = [] := by
        simp only [inserted, hi]
      rw [hi] at h
      obtain ⟨rfl, rfl⟩ := Prod.mk.inj h
      rw [hnone]
      exact ⟨rfl, nofun⟩
    · have hrows : e.inserted (.insert named conflict table columns rows upsert returning) arguments
          = i.inserted { table := i.table, lastNumber := e.counters.lastNumber } := by
        simp only [inserted, hi]
      rw [hi] at h
      rw [hrows]
      -- The number is left also by an insert that fails after some of its rows.
      rcases hchange : change (.ok ⟨i.table, i.run⟩) e with ⟨f | u, after⟩
      · obtain ⟨rfl, rfl⟩ := Prod.mk.inj ((step_of_error hchange).symm.trans h)
        exact ⟨(change_insertion i hchange).1, nofun⟩
      · obtain ⟨-, rfl⟩ := Prod.mk.inj ((step_of_ok hchange).symm.trans h)
        obtain ⟨hnumber, hcount⟩ := change_insertion i hchange
        exact ⟨hnumber, fun _ _ => hcount rfl⟩

end Engine

end Sqlite

end StoreBridge
