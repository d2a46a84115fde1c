import StoreBridge.Query.Compile
import StoreBridge.Proofs.Checked

/-!
# What a chain on a table asks for

A chain is compiled step by step into a draft. `Draft.reading` says the same of the chain as a
whole: the first select, the last insert, update or delete, all conditions and all terms of the
order from left to right, and the last limit. `Draft.ofChain_eq_ok` is the connection, and it
records that the fields of the order have been checked on the way.

From the reading come the two things that a compiled chain stands for:

* `chainStatement` — the statement, as a value and not as text;
* `chainBindings` — the pairs of column and value that its placeholders stand for, in the order in
  which the statement needs them.

The main result is `planTabular_eq_ok`: a plan consists of exactly these two, and its statement is
`WellFormed`, so that every name in it is an identifier and every list that must not be empty is
not.
-/

namespace StoreBridge

namespace Operation

/-- The insert, update or delete that a step is. -/
def write? : Operation → Option Write
  | .insert data => some (.insert data)
  | .update data => some (.update data)
  | .delete => some .delete
  | _ => none

/-- The columns that a step selects. -/
def selected? : Operation → Option (Option (List String))
  | .select columns => some columns
  | _ => none

/-- The conditions that a step adds. -/
def conditions : Operation → Members
  | .filter (.object members) => members
  | _ => []

/-- The term that a step adds to the order. -/
def orderTerm? : Operation → Option (String × Direction)
  | .orderBy field direction => some (field, direction)
  | _ => none

/-- The limit that a step sets. -/
def limit? : Operation → Option Nat
  | .limit n => some n
  | _ => none

end Operation

/-- The members of a payload; there are none unless it is an object. -/
def payloadMembers : Json → Members
  | .object members => members
  | _ => []

/-- The rows of the payload of an insert: one row, or the items of an array. -/
def payloadRows : Json → List Members
  | .array items => items.map payloadMembers
  | other => [payloadMembers other]

/-- The columns that a select names; no list and an empty one stand for all columns. -/
def selectedColumns : Option (List String) → List String
  | none => ["*"]
  | some [] => ["*"]
  | some columns => columns

/-- The pairs of all rows, row by row, each row in the order of the given columns. -/
def rowPairs (columns : List String) (rows : List Members) : List (String × Json) :=
  rows.flatMap fun row => columns.map fun column => (column, (row.get? column).getD .null)

namespace Draft

/-- What a chain asks for, part by part. -/
def reading (ops : List Operation) : Draft where
  selected := (ops.filterMap Operation.selected?).head?
  write := (ops.filterMap Operation.write?).getLast?
  conditions := ops.flatMap Operation.conditions
  order := ops.filterMap Operation.orderTerm?
  limit := (ops.filterMap Operation.limit?).getLast?

/-- The clauses that follow the head of a statement. -/
def clauseTexts (d : Draft) : Clauses :=
  ⟨d.conditions.keys, d.order, d.limit⟩

/-- The statement of a draft on a table. -/
def statement (table : String) (d : Draft) : Statement :=
  match d.write with
  | some (.insert data) =>
    .insert table ((payloadRows data).headD []).keys (payloadRows data).length
  | some (.update data) => .update table (payloadMembers data).keys d.clauseTexts
  | some .delete => .delete table d.clauseTexts
  | none => .select table (selectedColumns d.selected.join) d.clauseTexts

/-- The pairs that the placeholders of a draft's statement stand for: row by row for an insert, the
new values before the conditions for an update, and the conditions otherwise. -/
def bindings (d : Draft) : List (String × Json) :=
  match d.write with
  | some (.insert data) =>
    rowPairs ((payloadRows data).headD []).keys (payloadRows data)
  | some (.update data) => payloadMembers data ++ d.conditions
  | _ => d.conditions

/-- Every row of an insert has the columns of the first one, so that no value is missing. -/
def RowsComplete (d : Draft) : Prop :=
  ∀ data, d.write = some (.insert data) →
    ∀ row ∈ payloadRows data, ∀ column ∈ ((payloadRows data).headD []).keys, row.has column = true

end Draft

/-- The statement that a chain on a table asks for. -/
def chainStatement (table : String) (ops : List Operation) : Statement :=
  (Draft.reading ops).statement table

/-- The pairs of column and value that the placeholders of a chain stand for, in order. -/
def chainBindings (ops : List Operation) : List (String × Json) :=
  (Draft.reading ops).bindings

/-! ### Statements with names that were checked -/

/-- Every column and every field of the order is an identifier. -/
structure Clauses.WellFormed (c : Clauses) : Prop where
  conditions : ∀ column ∈ c.conditions, isIdentifier column = true
  order : ∀ term ∈ c.order, isIdentifier term.1 = true

/-- A column of a select: an identifier, or the mark for all columns. -/
def IsSelectable (column : String) : Prop :=
  column = "*" ∨ isIdentifier column = true

/-- All names are identifiers, and there is a column to select, to insert or to update. -/
def Statement.WellFormed : Statement → Prop
  | .select table columns clauses =>
    isIdentifier table = true ∧ columns ≠ [] ∧ (∀ c ∈ columns, IsSelectable c) ∧ clauses.WellFormed
  | .insert table columns rows =>
    isIdentifier table = true ∧ columns ≠ [] ∧ (∀ c ∈ columns, isIdentifier c = true) ∧ rows ≠ 0
  | .update table columns clauses =>
    isIdentifier table = true ∧ columns ≠ [] ∧ (∀ c ∈ columns, isIdentifier c = true) ∧
      clauses.WellFormed
  | .delete table clauses => isIdentifier table = true ∧ clauses.WellFormed

/-! ### From the steps to the reading -/

/-- A payload is taken exactly if it is an object. -/
theorem objectPayload_eq_ok {operation : String} {payload : Json} {members : Members} :
    objectPayload operation payload = .ok members ↔ payload = .object members := by
  cases payload <;> simp [objectPayload]

/-- A name is taken as it is, exactly if it is an identifier. -/
theorem identifier_eq_ok {name checked : String} :
    identifier name = .ok checked ↔ checked = name ∧ isIdentifier name = true := by
  unfold identifier
  split
  · next h => simp [h, eq_comm]
  · next h => simp [h]

/-- The rows that are read from the payload of an insert are the objects in it. -/
theorem insertRows_eq_ok {data : Json} {rows : List Members} (h : insertRows data = .ok rows) :
    rows = payloadRows data := by
  -- An item that is accepted is an object, and its members are the row.
  have hitem : ∀ item row, objectPayload "insert" item = .ok row →
      row = payloadMembers item ∧ True := by
    intro item row h
    rw [objectPayload_eq_ok] at h
    exact ⟨by rw [h]; rfl, trivial⟩
  cases data with
  | array items => exact (mapM_eq_ok hitem h).1
  | object members =>
    simp only [insertRows, objectPayload, Except.map, Except.ok.injEq] at h
    exact h.symm
  | null => exact absurd h (by simp [insertRows, objectPayload, Except.map])
  | bool b => exact absurd h (by simp [insertRows, objectPayload, Except.map])
  | int i => exact absurd h (by simp [insertRows, objectPayload, Except.map])
  | double x => exact absurd h (by simp [insertRows, objectPayload, Except.map])
  | string s => exact absurd h (by simp [insertRows, objectPayload, Except.map])

namespace Draft

variable {table : String} {ops before : List Operation} {d : Draft}

/-- The reading of a chain with one more step. -/
theorem reading_concat (before : List Operation) (op : Operation) :
    reading (before ++ [op]) =
      { selected := (reading before).selected.or op.selected?
        write := op.write?.or (reading before).write
        conditions := (reading before).conditions ++ op.conditions
        order := (reading before).order ++ op.orderTerm?.toList
        limit := op.limit?.or (reading before).limit } := by
  have hlist : ∀ {γ : Type} (f : Operation → Option γ), [op].filterMap f = (f op).toList := by
    intro γ f
    cases h : f op <;> simp [h]
  simp only [reading, List.filterMap_append, hlist, List.flatMap_append, List.flatMap_singleton,
    List.head?_append, List.getLast?_append]
  -- Each field of the reading is touched by its own steps only.
  cases op <;> rfl

/-- **One step.** Taking a further operation gives the reading of the longer chain, and if the step
is a term of the order its field has been checked. -/
theorem add_reading_eq_ok {op : Operation} (h : (reading before).add table op = .ok d) :
    d = reading (before ++ [op]) ∧ ∀ term ∈ op.orderTerm?, isIdentifier term.1 = true := by
  rw [reading_concat]
  -- Only two of the steps check anything: the payload of a filter and the field of an order.
  cases op with
  | filter conditions =>
    simp only [add, bind_eq_ok, pure_eq_ok, objectPayload_eq_ok] at h
    obtain ⟨members, rfl, rfl⟩ := h
    simp [Operation.selected?, Operation.write?, Operation.conditions, Operation.orderTerm?,
      Operation.limit?]
  | orderBy field direction =>
    simp only [add, bind_eq_ok, pure_eq_ok, identifier_eq_ok] at h
    obtain ⟨_, ⟨rfl, hfield⟩, rfl⟩ := h
    simp [Operation.selected?, Operation.write?, Operation.conditions, Operation.orderTerm?,
      Operation.limit?, hfield]
  | aggregate stages => simp [add] at h
  | select columns | insert data | update data | delete | limit n =>
    obtain rfl := Except.ok.inj h
    simp [Operation.selected?, Operation.write?, Operation.conditions, Operation.orderTerm?,
      Operation.limit?]

/-- All steps from a chain that has been read on. -/
private theorem foldlM_add_eq_ok (before : List Operation)
    (h : ops.foldlM (add table) (reading before) = .ok d) :
    d = reading (before ++ ops) ∧
      ∀ term ∈ ops.filterMap Operation.orderTerm?, isIdentifier term.1 = true := by
  -- On the steps that are left; the reading covers those in front of them.
  induction ops generalizing before with
  | nil =>
    rw [List.foldlM_nil, pure_eq_ok] at h
    exact ⟨by rw [List.append_nil, h], by simp⟩
  | cons op ops ih =>
    rw [List.foldlM_cons, bind_eq_ok] at h
    obtain ⟨d₁, hstep, hrun⟩ := h
    obtain ⟨rfl, hop⟩ := add_reading_eq_ok hstep
    obtain ⟨rfl, hops⟩ := ih _ hrun
    refine ⟨by rw [List.append_assoc, List.singleton_append], fun term hterm => ?_⟩
    rw [List.mem_filterMap] at hterm
    obtain ⟨op', hmem, hop'⟩ := hterm
    -- A term comes from the step that was taken now, or from a later one.
    rcases List.mem_cons.mp hmem with rfl | hmem
    · exact hop term hop'
    · exact hops term (List.mem_filterMap.mpr ⟨op', hmem, hop'⟩)

/-- **A whole chain.** What the steps gather is the reading of the chain, and every field of its
order is an identifier. -/
theorem ofChain_eq_ok (h : ofChain table ops = .ok d) :
    d = reading ops ∧ ∀ term ∈ d.order, isIdentifier term.1 = true := by
  obtain ⟨rfl, horder⟩ := foldlM_add_eq_ok [] h
  exact ⟨rfl, horder⟩

/-! ### From the draft to the plan -/

/-- The clauses that are planned are those of the draft, with its conditions, whose columns have
been checked. -/
theorem clauses_eq_ok {clauses : Clauses} {pairs : List (String × Json)}
    (h : d.clauses = .ok (clauses, pairs)) :
    clauses = d.clauseTexts ∧ pairs = d.conditions ∧
      ∀ column ∈ d.conditions.keys, isIdentifier column = true := by
  simp only [Draft.clauses, bind_eq_ok, pure_eq_ok, Prod.mk.injEq] at h
  obtain ⟨columns, hcolumns, rfl, rfl⟩ := h
  -- Checking a name gives it back, so the columns are the keys of the conditions.
  have hcheck : ∀ (pair : String × Json) (checked : String),
      identifier pair.1 = .ok checked → checked = pair.1 ∧ isIdentifier pair.1 = true :=
    fun _ _ h => identifier_eq_ok.mp h
  obtain ⟨rfl, hall⟩ := mapM_eq_ok hcheck hcolumns
  refine ⟨rfl, rfl, fun column hcolumn => ?_⟩
  obtain ⟨pair, hpair, rfl⟩ := List.mem_map.mp hcolumn
  exact hall pair hpair

/-- Names are taken as they are, if all of them are identifiers. -/
theorem mapM_identifier_eq_ok {names checked : List String}
    (h : names.mapM identifier = .ok checked) :
    checked = names ∧ ∀ name ∈ names, isIdentifier name = true := by
  have hcheck := mapM_eq_ok (g := id) (fun _ _ h => identifier_eq_ok.mp h) h
  rwa [List.map_id] at hcheck

/-- The columns that are planned are those selected, a star if there are none, and each can be
selected. -/
theorem columns_eq_ok {selected : Option (List String)} {columns : List String}
    (h : Draft.columns selected = .ok columns) :
    columns = selectedColumns selected ∧ columns ≠ [] ∧ ∀ c ∈ columns, IsSelectable c := by
  -- No select and one without columns both stand for all columns.
  rcases selected with _ | _ | ⟨name, names⟩
  · obtain rfl := Except.ok.inj h
    exact ⟨rfl, by simp, by simp [IsSelectable]⟩
  · obtain rfl := Except.ok.inj h
    exact ⟨rfl, by simp, by simp [IsSelectable]⟩
  · -- A star among the columns is no identifier and passes all the same.
    have hcheck : ∀ c checked : String, (if c = "*" then .ok c else identifier c) =
        (.ok checked : Except DbError String) → checked = id c ∧ IsSelectable c := by
      intro c checked h
      split at h
      · next hc => exact ⟨(Except.ok.inj h).symm, Or.inl hc⟩
      · exact ⟨(identifier_eq_ok.mp h).1, Or.inr (identifier_eq_ok.mp h).2⟩
    obtain ⟨rfl, hall⟩ := mapM_eq_ok hcheck h
    rw [List.map_id]
    exact ⟨rfl, by simp, hall⟩

/-- A row is bound column by column, and has all of the columns. -/
theorem rowBindings_eq_ok {columns : List String} {index : Nat} {row : Members}
    {pairs : List (String × Json)} (h : rowBindings columns index row = .ok pairs) :
    pairs = columns.map (fun column => (column, (row.get? column).getD .null)) ∧
      ∀ column ∈ columns, row.has column = true := by
  unfold rowBindings at h
  split at h
  · next hrow => exact ⟨(Except.ok.inj h).symm, List.all_eq_true.mp hrow.2⟩
  · exact absurd h (by simp)

/-- What is bound to the rows of an insert is, row by row, what they hold under the columns of the
first one, and no row lacks a column. -/
theorem insertBindings_eq_ok {columns : List String} {index : Nat} {rows : List Members}
    {pairs : List (String × Json)} (h : insertBindings columns index rows = .ok pairs) :
    pairs = rowPairs columns rows ∧ ∀ row ∈ rows, ∀ column ∈ columns, row.has column = true := by
  -- The index only numbers the rows for the error.
  induction rows generalizing index pairs with
  | nil => exact ⟨(Except.ok.inj h).symm, by simp⟩
  | cons row rows ih =>
    simp only [insertBindings, bind_eq_ok, pure_eq_ok] at h
    obtain ⟨here, hrow, rest, hrest, rfl⟩ := h
    obtain ⟨rfl, hhere⟩ := rowBindings_eq_ok hrow
    obtain ⟨rfl, hthere⟩ := ih hrest
    refine ⟨by rw [rowPairs, rowPairs, List.flatMap_cons], fun row' hmem => ?_⟩
    rcases List.mem_cons.mp hmem with rfl | hmem
    · exact hhere
    · exact hthere row' hmem

variable {name : String} {data : Json} {p : Plan}

/-- The plan of an insert: the columns are the keys of the first row, and every row has a value for
each. -/
theorem planInsert_eq_ok (ht : isIdentifier table = true) (h : planInsert table data = .ok p) :
    p = ⟨.insert table ((payloadRows data).headD []).keys (payloadRows data).length,
        rowPairs ((payloadRows data).headD []).keys (payloadRows data)⟩ ∧
      p.statement.WellFormed ∧
      ∀ row ∈ payloadRows data, ∀ column ∈ ((payloadRows data).headD []).keys,
        row.has column = true := by
  simp only [planInsert, bind_eq_ok] at h
  obtain ⟨rows, hrows, h⟩ := h
  obtain rfl := insertRows_eq_ok hrows
  -- There is a first row, and it has a column.
  split at h
  · exact absurd h (by simp)
  · next first rest hsplit =>
    split at h
    · exact absurd h (by simp)
    · next hfirst =>
      simp only [bind_eq_ok, pure_eq_ok] at h
      obtain ⟨columns, hcolumns, pairs, hpairs, rfl⟩ := h
      obtain ⟨rfl, hall⟩ := mapM_identifier_eq_ok hcolumns
      obtain ⟨rfl, hcomplete⟩ := insertBindings_eq_ok hpairs
      rw [hsplit]
      refine ⟨rfl, ⟨ht, ?_, hall, Nat.succ_ne_zero _⟩, hcomplete⟩
      simpa [Members.keys] using hfirst

/-- The plan of an update: the changes come first, as they stand in the text, and the conditions
behind them. -/
theorem planUpdate_eq_ok (ht : isIdentifier table = true)
    (ho : ∀ term ∈ d.order, isIdentifier term.1 = true) (h : planUpdate table d data = .ok p) :
    p = ⟨.update table (payloadMembers data).keys d.clauseTexts,
        payloadMembers data ++ d.conditions⟩ ∧ p.statement.WellFormed := by
  simp only [planUpdate, bind_eq_ok, objectPayload_eq_ok] at h
  obtain ⟨members, rfl, h⟩ := h
  -- There is something to change.
  split at h
  · exact absurd h (by simp)
  · next hmembers =>
    simp only [bind_eq_ok, pure_eq_ok] at h
    obtain ⟨columns, hcolumns, ⟨clauses, pairs⟩, hclauses, rfl⟩ := h
    obtain ⟨rfl, hall⟩ := mapM_identifier_eq_ok hcolumns
    obtain ⟨rfl, rfl, hconditions⟩ := clauses_eq_ok hclauses
    refine ⟨rfl, ht, ?_, hall, hconditions, ho⟩
    simpa [Members.keys] using hmembers

/-- The plan of a draft whose order has been checked is its statement with its bindings. -/
theorem plan_eq_ok (ho : ∀ term ∈ d.order, isIdentifier term.1 = true)
    (h : d.plan name = .ok p) :
    p = ⟨d.statement name, d.bindings⟩ ∧ p.statement.WellFormed ∧ d.RowsComplete := by
  unfold Draft.plan at h
  split at h
  · next _ write hwrite =>
    simp only [bind_eq_ok, identifier_eq_ok] at h
    obtain ⟨_, ⟨rfl, ht⟩, h⟩ := h
    cases write with
    | insert data =>
      obtain ⟨hplan, hwf, hcomplete⟩ := planInsert_eq_ok ht h
      simp only [Draft.statement, Draft.bindings, hwrite]
      -- The rows whose columns were checked are the ones that are written.
      refine ⟨hplan, hwf, fun data' hdata => ?_⟩
      rw [hwrite, Option.some.injEq, Write.insert.injEq] at hdata
      rw [← hdata]
      exact hcomplete
    | update data =>
      obtain ⟨hplan, hwf⟩ := planUpdate_eq_ok ht ho h
      simp only [Draft.statement, Draft.bindings, hwrite]
      exact ⟨hplan, hwf, fun data' hdata => by simp [hwrite] at hdata⟩
    | delete =>
      simp only [bind_eq_ok, pure_eq_ok] at h
      obtain ⟨⟨clauses, pairs⟩, hclauses, rfl⟩ := h
      obtain ⟨rfl, rfl, hconditions⟩ := clauses_eq_ok hclauses
      exact ⟨by simp only [Draft.statement, Draft.bindings, hwrite], ⟨ht, hconditions, ho⟩,
        fun data hdata => by simp [hwrite] at hdata⟩
  · next selected hwrite hselected =>
    -- Without a write it is a select, whose table is checked like that of a write.
    simp only [bind_eq_ok, identifier_eq_ok, pure_eq_ok] at h
    obtain ⟨_, ⟨rfl, ht⟩, columns, hcolumns, ⟨clauses, pairs⟩, hclauses, rfl⟩ := h
    obtain ⟨rfl, hne, hall⟩ := columns_eq_ok hcolumns
    obtain ⟨rfl, rfl, hconditions⟩ := clauses_eq_ok hclauses
    refine ⟨?_, ⟨ht, hne, hall, hconditions, ho⟩, fun data hdata => by simp [hwrite] at hdata⟩
    simp only [Draft.statement, Draft.bindings, hwrite, hselected, Option.join_some]
  · exact absurd h (by simp)

end Draft

/-! ### Compiled chains -/

variable {s : Schema} {ops : List Operation}

/-- **A compiled chain.** Its plan is the statement that the chain asks for together with the
bindings of the chain. -/
theorem planTabular_eq_ok {p : Plan} (h : planTabular s ops = .ok p) :
    p = ⟨chainStatement s.name ops, chainBindings ops⟩ ∧ p.statement.WellFormed ∧
      (Draft.reading ops).RowsComplete := by
  simp only [planTabular, bind_eq_ok] at h
  obtain ⟨d, hchain, hplan⟩ := h
  obtain ⟨rfl, ho⟩ := Draft.ofChain_eq_ok hchain
  exact Draft.plan_eq_ok ho hplan

/-- The parts of a compiled SQL request. -/
theorem compile_eq_ok_sql {r : SqlRequest} (h : compile s ops = .ok (.sql r)) :
    r.text.toList = (chainStatement s.name ops).write ∧
      r.params = (chainBindings ops).map Prod.snd ∧
      r.paramTypes = (chainBindings ops).map (fun pair => s.fieldType? pair.1) ∧
      (chainStatement s.name ops).WellFormed ∧ (Draft.reading ops).RowsComplete := by
  -- The request comes from the plan of a table; one for documents would be of the other kind.
  have hplan : ∃ p, planTabular s ops = .ok p ∧ p.request s = r := by
    unfold compile at h
    split at h
    · cases hp : planTabular s ops with
      | error e => simp [compileTabular, hp, Except.map] at h
      | ok p => exact ⟨p, rfl, by simpa [compileTabular, hp, Except.map] using h⟩
    · cases hd : compileDocument s ops <;> simp [hd, Except.map] at h
  obtain ⟨p, hp, rfl⟩ := hplan
  obtain ⟨rfl, hwf⟩ := planTabular_eq_ok hp
  exact ⟨String.toList_ofList, rfl, rfl, hwf⟩

end StoreBridge
