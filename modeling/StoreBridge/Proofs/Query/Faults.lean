import Mathlib.Data.List.Perm.Subperm
import StoreBridge.Proofs.Query.Reorder
import StoreBridge.Proofs.Query.Shape

/-!
# Why a chain on a table does not compile

The causes come in an order, and each is looked for only where the ones before it are absent:

1. a step that is refused by itself, wherever it stands; the first one decides the error
   (`Operation.Refused`, `Draft.ofChain_of_refused`);
2. no step that is a statement;
3. a table whose name is no identifier;
4. a fault of the statement that the chain asks for, the last write or else the first select. A
   draft is `Sound` if there is none. Writes and selects that do not count may have any payload,
   and so may the conditions of an insert.

An error of the fourth kind is always an invalid query (`InvalidOnly`), and the plan is made exactly
if there is none (`Draft.exists_plan_ok_iff`), for which each check of the compiler has a lemma that
says when it succeeds.
-/

namespace StoreBridge

/-! ### Steps that are refused -/

/-- A step that does not fit a table, with the error that it causes. -/
inductive Operation.Refused (table : String) : Operation → DbError → Prop
  | filter {conditions : Json} (h : ∀ members, conditions ≠ .object members) :
    Refused table (.filter conditions)
      (.invalidQuery (.badPayload "where" "an object" conditions.kindName))
  | orderBy {field : String} (direction : Direction) (h : isIdentifier field = false) :
    Refused table (.orderBy field direction) (.invalidQuery (.badIdentifier field))
  | aggregate (stages : Json) :
    Refused table (.aggregate stages)
      (.unsupported "aggregate"
        ("'" ++ table ++ "' is a table; aggregation pipelines need a collection"))

/-- A step that may be the statement of its chain. -/
def Operation.IsStatement : Operation → Prop
  | .select _ | .insert _ | .update _ | .delete => True
  | .filter _ | .orderBy _ _ | .limit _ | .aggregate _ => False

theorem identifier_of_not {name : String} (h : isIdentifier name = false) :
    identifier name = .error (.invalidQuery (.badIdentifier name)) := by
  rw [identifier, h]
  rfl

theorem exists_identifier_ok_iff (name : String) :
    (∃ checked, identifier name = .ok checked) ↔ isIdentifier name = true := by
  simp only [identifier_eq_ok, exists_eq_left]

section Chain

variable {table : String} {ops before after : List Operation} {op : Operation} {e : DbError}

/-- A step either fits a table or is refused with an error of its own, one case for each kind of
step. -/
theorem Operation.fitsTable_or_refused (table : String) (op : Operation) :
    op.FitsTable ∨ ∃ e, op.Refused table e := by
  -- Three of the steps can be refused: for a payload, for a name, and an aggregation always.
  cases op with
  | filter conditions =>
    cases conditions with
    | object members => exact .inl ⟨members, rfl⟩
    | null | bool | int | double | string | array => exact .inr ⟨_, .filter nofun⟩
  | orderBy field direction =>
    cases h : isIdentifier field with
    | true => exact .inl h
    | false => exact .inr ⟨_, .orderBy direction h⟩
  | aggregate stages => exact .inr ⟨_, .aggregate stages⟩
  | select _ | insert _ | update _ | delete | limit _ => exact .inl trivial

/-- **A chain has a first step that is refused**, or all of its steps fit. -/
theorem Operation.exists_first_refused (table : String) (ops : List Operation) :
    (∀ op ∈ ops, op.FitsTable) ∨
      ∃ before op after e, ops = before ++ op :: after ∧ (∀ b ∈ before, b.FitsTable) ∧
        op.Refused table e := by
  -- The first step decides, or the first refused one is behind it.
  induction ops with
  | nil => exact .inl (by simp)
  | cons op ops ih =>
    rcases op.fitsTable_or_refused table with hop | ⟨e, hop⟩
    · rcases ih with hall | ⟨before, op', after, e, rfl, hbefore, hop'⟩
      · exact .inl (List.forall_mem_cons.mpr ⟨hop, hall⟩)
      · exact .inr ⟨op :: before, op', after, e, rfl, List.forall_mem_cons.mpr ⟨hop, hbefore⟩, hop'⟩
    · exact .inr ⟨[], op, ops, e, rfl, by simp, hop⟩

namespace Draft

/-- A step that does not fit is refused in every draft. -/
theorem add_of_refused (d : Draft) (h : op.Refused table e) : d.add table op = .error e := by
  cases h with
  | filter h =>
    rw [add, objectPayload_of_ne h]
    rfl
  | orderBy direction h =>
    rw [add, identifier_of_not h]
    rfl
  | aggregate stages => rfl

/-- **The first step that is refused decides the error.** -/
theorem ofChain_of_refused (hbefore : ∀ b ∈ before, b.FitsTable) (h : op.Refused table e) :
    ofChain table (before ++ op :: after) = .error e := by
  obtain ⟨d, hd⟩ := (exists_foldlM_ok_iff (exists_add_ok_iff table) {} before).mpr hbefore
  unfold ofChain
  rw [List.foldlM_append, hd]
  change (op :: after).foldlM (add table) d = .error e
  rw [List.foldlM_cons, add_of_refused d h]
  rfl

/-- A chain whose steps fit is read as a whole. -/
theorem ofChain_of_fits (h : ∀ op ∈ ops, op.FitsTable) : ofChain table ops = .ok (reading ops) := by
  obtain ⟨d, hd⟩ : ∃ d, ofChain table ops = .ok d :=
    (exists_foldlM_ok_iff (exists_add_ok_iff table) {} ops).mpr h
  rw [hd, (ofChain_eq_ok hd).1]

end Draft

end Chain

/-! ### Faults of the statement -/

/-- The rows of the payload of an insert: an object is one row, and an array of objects has a row in
every item. -/
inductive IsRows : Json → List Members → Prop
  | one (row : Members) : IsRows (.object row) [row]
  | many (rows : List Members) : IsRows (.array (rows.map .object)) rows

/-- Two rows with the same columns, in any order. -/
def SameColumns (row row' : Members) : Prop :=
  ∀ column, column ∈ row.keys ↔ column ∈ row'.keys

/-- A payload that can be inserted: a row or more, of which the first has a column, all columns are
identifiers, and every row has the columns of the first one. -/
def Insertable (data : Json) : Prop :=
  ∃ first rest, IsRows data (first :: rest) ∧ first ≠ [] ∧
    (∀ column ∈ first.keys, isIdentifier column = true) ∧ ∀ row ∈ rest, SameColumns row first

/-- A payload that can be written by an update: an object with a column, all of which are
identifiers. -/
def Updatable (data : Json) : Prop :=
  ∃ members : Members, data = .object members ∧ members ≠ [] ∧
    ∀ column ∈ members.keys, isIdentifier column = true

namespace Draft

/-- All columns of the conditions are identifiers. -/
def ConditionsNamed (d : Draft) : Prop :=
  ∀ column ∈ d.conditions.keys, isIdentifier column = true

/-- **The statement has no fault.** Only the write counts, or else the select, and the conditions do
not count for an insert. -/
def Sound (d : Draft) : Prop :=
  match d.write, d.selected with
  | some (.insert data), _ => Insertable data
  | some (.update data), _ => Updatable data ∧ d.ConditionsNamed
  | some .delete, _ => d.ConditionsNamed
  | none, some columns => (∀ c ∈ columns.getD [], IsSelectable c) ∧ d.ConditionsNamed
  | none, none => False

/-- A statement has been asked for. -/
def HasStatement (d : Draft) : Prop :=
  d.write ≠ none ∨ d.selected ≠ none

/-- The rows of an insert are objects, which have every key once. -/
def KeysOnce (d : Draft) : Prop :=
  ∀ data rows, d.write = some (.insert data) → IsRows data rows → ∀ row ∈ rows, row.keys.Nodup

end Draft

/-! ### When a check succeeds -/

/-- Payloads are read as rows exactly if they are the objects of these rows, in their order. -/
theorem mapM_objectPayload_eq_ok {operation : String} {items : List Json} {rows : List Members} :
    items.mapM (objectPayload operation) = .ok rows ↔ items = rows.map .object := by
  induction items generalizing rows with
  | nil =>
    rw [List.mapM_nil, pure_eq_ok, eq_comm, eq_comm (a := []), List.map_eq_nil_iff]
  | cons item items ih =>
    simp only [List.mapM_cons, bind_eq_ok, pure_eq_ok, objectPayload_eq_ok, ih]
    constructor
    · rintro ⟨row, rfl, rest, rfl, rfl⟩
      rfl
    · intro h
      obtain ⟨row, rest, rfl, hrow, hrest⟩ := List.map_eq_cons_iff.mp h.symm
      exact ⟨row, hrow.symm, rest, hrest.symm, rfl⟩

/-- The payload of an insert is read as rows exactly if it is one row or an array of rows. -/
theorem insertRows_eq_ok_iff {data : Json} {rows : List Members} :
    insertRows data = .ok rows ↔ IsRows data rows := by
  -- An object is one row, an array is many, and nothing else is accepted.
  cases data with
  | object row =>
    change (Except.ok [row] : Except DbError _) = .ok rows ↔ _
    rw [Except.ok.injEq]
    constructor
    · rintro rfl
      exact .one row
    · rintro ⟨⟩
      rfl
  | array items =>
    refine mapM_objectPayload_eq_ok.trans ?_
    constructor
    · rintro rfl
      exact .many rows
    · rintro ⟨⟩
      rfl
  | null | bool | int | double | string => exact iff_of_false nofun nofun

theorem mem_keys_iff_has {row : Members} {column : String} :
    column ∈ row.keys ↔ row.has column = true := by
  simp only [Members.keys, Members.has, List.mem_map, List.any_eq_true, beq_iff_eq]

/-- **Rows with the same columns.** Where every key occurs once, as many keys and none missing mean
the same keys. -/
theorem sameColumns_iff {row first : Members} (hrow : row.keys.Nodup) (hfirst : first.keys.Nodup) :
    SameColumns row first ↔
      row.length = first.keys.length ∧ first.keys.all row.has = true := by
  have hlength : row.length = row.keys.length := (List.length_map _).symm
  have hall : first.keys.all row.has = true ↔ first.keys ⊆ row.keys := by
    rw [List.all_eq_true]
    exact forall₂_congr fun column _ => mem_keys_iff_has.symm
  rw [hlength, hall]
  constructor
  · intro h
    -- Keys that occur once are the same if they permute each other.
    have hperm : row.keys.Perm first.keys := (List.perm_ext_iff_of_nodup hrow hfirst).mpr h
    exact ⟨hperm.length_eq, hperm.symm.subset⟩
  · rintro ⟨hlen, hsub⟩ column
    have hperm : first.keys.Perm row.keys :=
      (hfirst.subperm hsub).perm_of_length_le (Nat.le_of_eq hlen)
    exact hperm.mem_iff.symm

namespace Draft

variable {d : Draft} {table name : String} {data : Json}

/-- The clauses are made exactly if the columns of all conditions are identifiers. -/
theorem exists_clauses_ok_iff (d : Draft) : (∃ c, d.clauses = .ok c) ↔ d.ConditionsNamed := by
  have hcheck := exists_mapM_ok_iff (fun p : String × Json => exists_identifier_ok_iff p.1)
    d.conditions
  refine ((exists_bind_pure_ok_iff _).trans hcheck).trans ?_
  simp only [ConditionsNamed, Members.keys, List.forall_mem_map]

/-- Columns can be planned exactly if each of them can be selected. -/
theorem exists_columns_ok_iff (selected : Option (List String)) :
    (∃ cs, columns selected = .ok cs) ↔ ∀ c ∈ selected.getD [], IsSelectable c := by
  -- A single column passes as a star or as an identifier.
  have hcheck : ∀ c : String, (∃ checked,
      (if c = "*" then .ok c else identifier c : Except DbError String) = .ok checked)
        ↔ IsSelectable c := by
    intro c
    by_cases hc : c = "*"
    · rw [if_pos hc]
      exact iff_of_true ⟨c, rfl⟩ (.inl hc)
    · rw [if_neg hc, exists_identifier_ok_iff]
      exact (or_iff_right hc).symm
  rcases selected with _ | _ | ⟨c, cs⟩
  · exact iff_of_true ⟨_, rfl⟩ (by simp)
  · exact iff_of_true ⟨_, rfl⟩ (by simp)
  · exact exists_mapM_ok_iff hcheck (c :: cs)

/-- A row is bound exactly if it has the columns and no other ones. -/
theorem exists_rowBindings_ok_iff (columns : List String) (index : Nat) (row : Members) :
    (∃ pairs, rowBindings columns index row = .ok pairs) ↔
      row.length = columns.length ∧ columns.all row.has = true := by
  unfold rowBindings
  split
  · next h => exact iff_of_true ⟨_, rfl⟩ h
  · next h => exact iff_of_false nofun h

/-- Rows are bound exactly if each of them is. -/
theorem exists_insertBindings_ok_iff (columns : List String) (index : Nat) (rows : List Members) :
    (∃ pairs, insertBindings columns index rows = .ok pairs) ↔
      ∀ row ∈ rows, row.length = columns.length ∧ columns.all row.has = true := by
  induction rows generalizing index with
  | nil => exact iff_of_true ⟨[], rfl⟩ (by simp)
  | cons row rows ih =>
    rw [insertBindings, List.forall_mem_cons, ← exists_rowBindings_ok_iff columns index row,
      ← ih (index + 1)]
    exact exists_bind_bind_pure_ok_iff fun here rest => here ++ rest

/-- Columns that are all checked answer with themselves. -/
theorem mapM_identifier_eq_ok_iff {names checked : List String} :
    names.mapM identifier = .ok checked ↔
      checked = names ∧ ∀ name ∈ names, isIdentifier name = true := by
  refine ⟨mapM_identifier_eq_ok, ?_⟩
  rintro ⟨rfl, h⟩
  obtain ⟨checked, hchecked⟩ := (exists_mapM_ok_iff exists_identifier_ok_iff checked).mpr h
  rw [hchecked, (mapM_identifier_eq_ok hchecked).1]

/-- The plan of an insert of one row or more. -/
theorem exists_planRows_ok_iff (table : String) {first : Members} {rest : List Members}
    (hrows : IsRows data (first :: rest)) :
    (∃ p, planInsert table data = .ok p) ↔
      first ≠ [] ∧ (∀ column ∈ first.keys, isIdentifier column = true) ∧
        ∀ row ∈ first :: rest, row.length = first.keys.length ∧ first.keys.all row.has = true := by
  unfold planInsert
  rw [insertRows_eq_ok_iff.mpr hrows]
  change (∃ p, (if first = [] then .error (.invalidQuery (.missing "insert" "column")) else do
    let columns ← first.keys.mapM identifier
    let bindings ← insertBindings columns 0 (first :: rest)
    return ⟨.insert table columns (rest.length + 1), bindings⟩ : Except DbError Plan) = .ok p) ↔ _
  -- The first row is looked at before any name is checked.
  by_cases hfirst : first = []
  · rw [if_pos hfirst]
    exact iff_of_false nofun fun h => h.1 hfirst
  · rw [if_neg hfirst, exists_bind_ok_iff]
    constructor
    · rintro ⟨columns, hcolumns, hplan⟩
      obtain ⟨rfl, hnamed⟩ := mapM_identifier_eq_ok hcolumns
      have hbindings := (exists_bind_pure_ok_iff _).mp hplan
      exact ⟨hfirst, hnamed, (exists_insertBindings_ok_iff _ _ _).mp hbindings⟩
    · rintro ⟨-, hnamed, hcomplete⟩
      have hbindings := (exists_insertBindings_ok_iff first.keys 0 _).mpr hcomplete
      exact ⟨first.keys, mapM_identifier_eq_ok_iff.mpr ⟨rfl, hnamed⟩,
        (exists_bind_pure_ok_iff _).mpr hbindings⟩

/-- **An insert can be planned** exactly if there is a first row with columns, these are
identifiers, and every further row has the same ones. That keys occur once makes counting them
enough. -/
theorem exists_planInsert_ok_iff (table : String)
    (hkeys : ∀ rows, IsRows data rows → ∀ row ∈ rows, row.keys.Nodup) :
    (∃ p, planInsert table data = .ok p) ↔ Insertable data := by
  constructor
  · intro hplan
    obtain ⟨rows, hrows, hrest⟩ := exists_bind_ok_iff.mp hplan
    rw [insertRows_eq_ok_iff] at hrows
    -- An insert of no rows is refused before anything else.
    cases rows with
    | nil =>
      obtain ⟨p, hp⟩ := hrest
      cases hp
    | cons first rest =>
      obtain ⟨hfirst, hnamed, hcomplete⟩ := (exists_planRows_ok_iff table hrows).mp hplan
      obtain ⟨hfirstKeys, hrestKeys⟩ := List.forall_mem_cons.mp (hkeys _ hrows)
      refine ⟨first, rest, hrows, hfirst, hnamed, fun row hrow => ?_⟩
      exact (sameColumns_iff (hrestKeys row hrow) hfirstKeys).mpr
        (hcomplete row (List.mem_cons_of_mem first hrow))
  · rintro ⟨first, rest, hrows, hfirst, hnamed, hsame⟩
    obtain ⟨hfirstKeys, hrestKeys⟩ := List.forall_mem_cons.mp (hkeys _ hrows)
    refine (exists_planRows_ok_iff table hrows).mpr ⟨hfirst, hnamed, List.forall_mem_cons.mpr ?_⟩
    -- The first row has its own columns.
    refine ⟨(sameColumns_iff hfirstKeys hfirstKeys).mp fun _ => Iff.rfl, fun row hrow => ?_⟩
    exact (sameColumns_iff (hrestKeys row hrow) hfirstKeys).mp (hsame row hrow)

/-- **An update can be planned** exactly if it changes something, and its columns and those of the
conditions are identifiers. -/
theorem exists_planUpdate_ok_iff (table : String) (d : Draft) (data : Json) :
    (∃ p, planUpdate table d data = .ok p) ↔ Updatable data ∧ d.ConditionsNamed := by
  have hcolumns := exists_mapM_ok_iff exists_identifier_ok_iff
  rw [planUpdate, exists_bind_ok_iff]
  simp only [objectPayload_eq_ok]
  constructor
  · rintro ⟨members, rfl, hplan⟩
    -- No change is refused before the names are checked.
    by_cases hmembers : members = []
    · rw [if_pos hmembers] at hplan
      obtain ⟨p, hp⟩ := hplan
      cases hp
    · rw [if_neg hmembers] at hplan
      obtain ⟨hnamed, hclauses⟩ := (exists_bind_bind_pure_ok_iff _).mp hplan
      exact ⟨⟨members, rfl, hmembers, (hcolumns _).mp hnamed⟩,
        (exists_clauses_ok_iff d).mp hclauses⟩
  · rintro ⟨⟨members, rfl, hmembers, hnamed⟩, hconditions⟩
    refine ⟨members, rfl, ?_⟩
    rw [if_neg hmembers]
    exact (exists_bind_bind_pure_ok_iff _).mpr
      ⟨(hcolumns _).mpr hnamed, (exists_clauses_ok_iff d).mpr hconditions⟩

/-- **A plan is made of a sound draft**, and of no other one. -/
theorem exists_plan_ok_iff (hname : isIdentifier name = true) (hkeys : d.KeysOnce) :
    (∃ p, d.plan name = .ok p) ↔ d.Sound := by
  have htable : identifier name = .ok name := identifier_eq_ok.mpr ⟨rfl, hname⟩
  obtain ⟨selected, write, conditions, order, limit⟩ := d
  -- By the write of the draft; without one it needs a select.
  rcases write with _ | data | data | _
  · cases selected with
    | none => exact iff_of_false nofun id
    | some selected =>
      simp only [plan, htable]
      refine (exists_bind_bind_pure_ok_iff _).trans ?_
      exact and_congr (exists_columns_ok_iff selected) (exists_clauses_ok_iff _)
  · simp only [plan, htable]
    exact exists_planInsert_ok_iff name fun rows => hkeys data rows rfl
  · simp only [plan, htable]
    exact exists_planUpdate_ok_iff name _ data
  · simp only [plan, htable]
    exact (exists_bind_pure_ok_iff _).trans (exists_clauses_ok_iff _)

/-- The name of the table is looked at before the statement. -/
theorem plan_of_bad_name (h : d.HasStatement) (hname : isIdentifier name = false) :
    d.plan name = .error (.invalidQuery (.badIdentifier name)) := by
  have htable := identifier_of_not hname
  obtain ⟨selected, write, conditions, order, limit⟩ := d
  -- Every statement checks the table first.
  cases write with
  | none =>
    cases selected with
    | none => exact absurd rfl (h.resolve_left fun hwrite => hwrite rfl)
    | some selected =>
      simp only [plan, htable]
      rfl
  | some write =>
    simp only [plan, htable]
    rfl

end Draft

/-! ### Errors of a statement -/

/-- A check whose only errors are invalid queries. -/
def InvalidOnly {α : Type} (x : Except DbError α) : Prop :=
  ∀ e, x = .error e → ∃ fault, e = .invalidQuery fault

namespace InvalidOnly

variable {α β : Type}

theorem ok (a : α) : InvalidOnly (.ok a) :=
  nofun

theorem error (fault : QueryFault) :
    InvalidOnly (.error (.invalidQuery fault) : Except DbError α) := by
  rintro e ⟨⟩
  exact ⟨fault, rfl⟩

/-- Checks in a row fail as invalid queries only, if each of them does. -/
theorem bind {x : Except DbError α} {f : α → Except DbError β} (hx : InvalidOnly x)
    (hf : ∀ a, InvalidOnly (f a)) : InvalidOnly (x >>= f) := by
  cases x with
  | ok a => exact hf a
  | error e =>
    rintro e' ⟨⟩
    exact hx e rfl

/-- A check for each item of a list fails as an invalid query only, if it does for one item. -/
theorem mapM {f : α → Except DbError β} (hf : ∀ a, InvalidOnly (f a)) (xs : List α) :
    InvalidOnly (xs.mapM f) := by
  intro e h
  obtain ⟨x, -, hx⟩ := mapM_eq_error h
  exact hf x e hx

/-- A name that is no identifier is an invalid query. -/
theorem identifier (name : String) : InvalidOnly (identifier name) := by
  unfold StoreBridge.identifier
  split
  · exact ok name
  · exact error _

/-- A payload that is no object is an invalid query. -/
theorem objectPayload (operation : String) (payload : Json) :
    InvalidOnly (objectPayload operation payload) := by
  cases payload with
  | object members => exact ok members
  | null | bool | int | double | string | array => exact error _

/-- A payload that is neither an object nor a list of objects is an invalid query. -/
theorem insertRows (data : Json) : InvalidOnly (insertRows data) := by
  cases data with
  | array items => exact mapM (objectPayload "insert") items
  | object row => exact ok [row]
  | null | bool | int | double | string => exact error _

/-- The clauses fail for the name of a column only. -/
theorem clauses (d : Draft) : InvalidOnly d.clauses := by
  unfold Draft.clauses
  refine bind (mapM (fun p => ?_) d.conditions) fun columns => ok _
  exact identifier p.1

/-- A selection fails for the name of a column only. -/
theorem columns (selected : Option (List String)) : InvalidOnly (Draft.columns selected) := by
  rcases selected with _ | _ | ⟨c, cs⟩
  · exact ok _
  · exact ok _
  · refine mapM (fun c => ?_) (c :: cs)
    split
    · exact ok c
    · exact identifier c

/-- Binding rows fails for an uneven row only. -/
theorem insertBindings (columns : List String) (index : Nat) (rows : List Members) :
    InvalidOnly (Draft.insertBindings columns index rows) := by
  induction rows generalizing index with
  | nil => exact ok []
  | cons row rows ih =>
    have hrow : InvalidOnly (Draft.rowBindings columns index row) := by
      unfold Draft.rowBindings
      split
      · exact ok _
      · exact error _
    exact hrow.bind fun _ => (ih (index + 1)).bind fun _ => ok _

/-- An insert fails for its payload, its columns or its rows. -/
theorem planInsert (table : String) (data : Json) : InvalidOnly (Draft.planInsert table data) := by
  refine (insertRows data).bind fun rows => ?_
  cases rows with
  | nil => exact error _
  | cons first rest =>
    change InvalidOnly (if first = [] then _ else _)
    split
    · exact error _
    · refine (mapM identifier first.keys).bind fun columns => ?_
      exact (insertBindings columns 0 (first :: rest)).bind fun _ => ok _

/-- An update fails for its payload, its columns or its conditions. -/
theorem planUpdate (table : String) (d : Draft) (data : Json) :
    InvalidOnly (Draft.planUpdate table d data) := by
  refine (objectPayload "update" data).bind fun members => ?_
  split
  · exact error _
  · exact (mapM identifier members.keys).bind fun _ => (clauses d).bind fun _ => ok _

/-- **A draft with a statement** fails with invalid queries only. -/
theorem plan (name : String) {d : Draft} (h : d.HasStatement) :
    InvalidOnly (d.plan name) := by
  obtain ⟨selected, write, conditions, order, limit⟩ := d
  -- By the write, as the plan is made. Each of its parts fails with invalid queries only.
  rcases write with _ | data | data | _
  · cases selected with
    | none => exact absurd rfl (h.resolve_left fun hwrite => hwrite rfl)
    | some selected =>
      refine (identifier name).bind fun table => ?_
      exact (columns selected).bind fun _ => (clauses _).bind fun _ => ok _
  · exact (identifier name).bind fun table => planInsert table data
  · exact (identifier name).bind fun table => planUpdate table _ data
  · exact (identifier name).bind fun table => (clauses _).bind fun _ => ok _

end InvalidOnly

/-! ### Chains -/

section Compile

variable {s : Schema} {ops : List Operation}

/-- A chain has a statement exactly if one of its steps is one. -/
theorem Draft.reading_eq_none_iff (ops : List Operation) :
    ((Draft.reading ops).write = none ∧ (Draft.reading ops).selected = none) ↔
      ∀ op ∈ ops, ¬ op.IsStatement := by
  simp only [Draft.reading, List.getLast?_eq_none_iff, List.head?_eq_none_iff,
    List.filterMap_eq_nil_iff]
  rw [← forall₂_and]
  refine forall₂_congr fun op _ => ?_
  cases op <;> simp [Operation.write?, Operation.selected?, Operation.IsStatement]

/-- A chain with a step that is a statement asks for one. -/
theorem Draft.hasStatement_of_exists (h : ∃ op ∈ ops, op.IsStatement) :
    (Draft.reading ops).HasStatement := by
  by_contra hnone
  obtain ⟨op, hop, hstatement⟩ := h
  refine (Draft.reading_eq_none_iff ops).mp ?_ op hop hstatement
  simpa [HasStatement] using hnone

/-- When all steps fit, compiling comes down to planning the reading of the chain. -/
theorem compile_tabular_of_plan (hs : s.kind = .tabular) (hfits : ∀ op ∈ ops, op.FitsTable) :
    compile s ops = ((Draft.reading ops).plan s.name).map fun p => .sql (p.request s) := by
  unfold compile
  rw [hs]
  change (compileTabular s ops).map Request.sql = _
  unfold compileTabular planTabular
  rw [Draft.ofChain_of_fits hfits]
  change ((((Draft.reading ops).plan s.name).map (Plan.request s)).map Request.sql) = _
  cases (Draft.reading ops).plan s.name with
  | ok p => rfl
  | error e => rfl

/-- **Why a chain on a table does not compile.** The first step that is refused decides the error,
whatever else is wrong. If none is, a chain without a statement is an empty query, on a table of any
name; then a table whose name is no identifier is an invalid query; and then the chain compiles if
its statement is sound and is an invalid query if it is not. -/
theorem compile_tabular_exactly (hs : s.kind = .tabular) :
    (∀ before op after e, (∀ b ∈ before, b.FitsTable) → op.Refused s.name e →
      compile s (before ++ op :: after) = .error e) ∧
    (∀ ops : List Operation, (∀ op ∈ ops, op.FitsTable) ∨
      ∃ before op after e, ops = before ++ op :: after ∧ (∀ b ∈ before, b.FitsTable) ∧
        op.Refused s.name e) ∧
    ∀ ops : List Operation, (∀ op ∈ ops, op.FitsTable) →
      ((∀ op ∈ ops, ¬ op.IsStatement) → compile s ops = .error (.emptyQuery s.name)) ∧
      ((∃ op ∈ ops, op.IsStatement) →
        (isIdentifier s.name = false →
          compile s ops = .error (.invalidQuery (.badIdentifier s.name))) ∧
        (isIdentifier s.name = true → (Draft.reading ops).KeysOnce →
          ((Draft.reading ops).Sound → ∃ r, compile s ops = .ok (.sql r)) ∧
          (¬ (Draft.reading ops).Sound →
            ∃ fault, compile s ops = .error (.invalidQuery fault)))) := by
  refine ⟨?_, Operation.exists_first_refused s.name, ?_⟩
  · -- Steps are read one by one, so the first refused one ends the reading.
    intro before op after e hbefore hop
    unfold compile
    rw [hs]
    change (compileTabular s (before ++ op :: after)).map Request.sql = .error e
    unfold compileTabular planTabular
    rw [Draft.ofChain_of_refused hbefore hop]
    rfl
  · intro ops hfits
    -- All steps fit, and what is left to fail is the plan.
    have hcompile := compile_tabular_of_plan hs hfits
    refine ⟨fun hnone => ?_, fun hsome => ⟨fun hname => ?_, fun hname hkeys => ⟨?_, ?_⟩⟩⟩
    · obtain ⟨hwrite, hselected⟩ := (Draft.reading_eq_none_iff ops).mpr hnone
      rw [hcompile, Draft.plan, hwrite, hselected]
      rfl
    · rw [hcompile, Draft.plan_of_bad_name (Draft.hasStatement_of_exists hsome) hname]
      rfl
    · intro hsound
      obtain ⟨p, hp⟩ := (Draft.exists_plan_ok_iff hname hkeys).mpr hsound
      rw [hcompile, hp]
      exact ⟨p.request s, rfl⟩
    · intro hunsound
      have hstatement := Draft.hasStatement_of_exists hsome
      cases hplan : (Draft.reading ops).plan s.name with
      | ok p => exact absurd ((Draft.exists_plan_ok_iff hname hkeys).mp ⟨p, hplan⟩) hunsound
      | error e =>
        obtain ⟨fault, rfl⟩ := InvalidOnly.plan s.name hstatement e hplan
        rw [hcompile, hplan]
        exact ⟨fault, rfl⟩

/-- Two rows of an insert that spell their columns in different orders, behind a condition whose
column is no identifier but does not count for an insert. -/
def openAccounts : List Operation :=
  [.filter (.object [("no name", .null)]),
    .insert (.array ([[("owner", .string "ann"), ("balance", .int 3)],
      [("balance", .int 5), ("owner", .string "bob")]].map .object))]

/-- A chain that opens accounts compiles, and two refused steps behind it are reported by the
first. -/
theorem openAccounts_compile_exactly :
    accounts.kind = .tabular ∧ (∀ op ∈ openAccounts, op.FitsTable) ∧
      (∃ op ∈ openAccounts, op.IsStatement) ∧ isIdentifier accounts.name = true ∧
      (Draft.reading openAccounts).KeysOnce ∧ (Draft.reading openAccounts).Sound ∧
      (∃ r, compile accounts openAccounts = .ok (.sql r)) ∧
      compile accounts (openAccounts ++ .orderBy "2nd" .asc :: [.aggregate .null])
        = .error (.invalidQuery (.badIdentifier "2nd")) := by
  have hfits : ∀ op ∈ openAccounts, op.FitsTable := by
    simp [openAccounts, Operation.FitsTable]
  have hstatement : ∃ op ∈ openAccounts, op.IsStatement :=
    ⟨_, List.mem_cons_of_mem _ List.mem_cons_self, trivial⟩
  have hname : isIdentifier accounts.name = true := by decide
  -- Both rows have each of their keys once.
  have hkeys : (Draft.reading openAccounts).KeysOnce := by
    rintro data rows ⟨⟩ hrows
    obtain rfl := insertRows_eq_ok (insertRows_eq_ok_iff.mpr hrows)
    decide
  have hsound : (Draft.reading openAccounts).Sound := by
    refine ⟨_, _, .many _, List.cons_ne_nil _ _, by decide, ?_⟩
    intro row hrow column
    obtain rfl := List.mem_singleton.mp hrow
    simp only [Members.keys, List.map_cons, List.map_nil, List.mem_cons, List.not_mem_nil, or_false]
    exact or_comm
  have h := compile_tabular_exactly (s := accounts) rfl
  refine ⟨rfl, hfits, hstatement, hname, hkeys, hsound, ?_, ?_⟩
  · exact (((h.2.2 openAccounts hfits).2 hstatement).2 hname hkeys).1 hsound
  · exact h.1 openAccounts (.orderBy "2nd" .asc) [.aggregate .null] _ hfits
      (.orderBy .asc (by decide))

end Compile

end StoreBridge
