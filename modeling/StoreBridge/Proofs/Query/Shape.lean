import StoreBridge.Proofs.Query.Text

/-!
# Values do not influence statement texts

Two chains are of the same shape (`SameShape`) if they differ only in the values under the keys of
their payloads. Compiling two such chains gives the same text and the same parameter types, or the
same error: `compile_text_ignores_values`.

The proof follows the compiler with two runs side by side (`Agree`). Each of its functions has one
lemma that says which relation between two answers it keeps:

* payloads: the keys in order, since only a value behind a key may differ (`objectPayload_agree`,
  `insertRows_agree`);
* drafts: `Draft.SameShape`, kept by every step (`add_agree`) and so by a chain (`ofChain_agree`);
* plans: one statement, and the same columns of the bindings (`plan_agree`).
-/

namespace StoreBridge

/-- Two objects with the same keys in the same order. -/
def SameKeys (members members' : Members) : Prop :=
  members.keys = members'.keys

/-- Two payloads that differ only in the values behind their keys. A payload that is no object has
no keys, and only its kind counts. -/
inductive SamePayload : Json → Json → Prop
  | object {members members' : Members} (h : SameKeys members members') :
    SamePayload (.object members) (.object members')
  | other {payload payload' : Json} (h : payload.sameKind payload' = true)
    (hobject : ∀ members, payload ≠ .object members) : SamePayload payload payload'

/-- The same for the payload of an insert: row by row if there is a list of rows. -/
inductive SameRows : Json → Json → Prop
  | list {items items' : List Json} (h : List.Forall₂ SamePayload items items') :
    SameRows (.array items) (.array items')
  | single {data data' : Json} (h : SamePayload data data')
      (harray : ∀ items, data ≠ .array items) :
    SameRows data data'

/-- Two steps that differ only in the values of their payloads. -/
inductive SameStep : Operation → Operation → Prop
  | filter {conditions conditions' : Json} (h : SamePayload conditions conditions') :
    SameStep (.filter conditions) (.filter conditions')
  | insert {data data' : Json} (h : SameRows data data') :
    SameStep (.insert data) (.insert data')
  | update {data data' : Json} (h : SamePayload data data') :
    SameStep (.update data) (.update data')
  | select (columns : Option (List String)) : SameStep (.select columns) (.select columns)
  | delete : SameStep .delete .delete
  | limit (n : Nat) : SameStep (.limit n) (.limit n)
  | orderBy (field : String) (direction : Direction) :
    SameStep (.orderBy field direction) (.orderBy field direction)
  | aggregate (stages stages' : Json) : SameStep (.aggregate stages) (.aggregate stages')

/-- **Chains of the same shape.** Step by step, only values of payloads differ. -/
def SameShape : List Operation → List Operation → Prop :=
  List.Forall₂ SameStep

/-! ### Payloads -/

theorem SameKeys.length_eq {m m' : Members} (h : SameKeys m m') : m.length = m'.length := by
  have hlength := congrArg List.length h
  rwa [Members.keys, Members.keys, List.length_map, List.length_map] at hlength

theorem SameKeys.nil_iff {m m' : Members} (h : SameKeys m m') : m = [] ↔ m' = [] := by
  rw [← List.length_eq_zero_iff, h.length_eq, List.length_eq_zero_iff]

/-- Objects with the same keys stay so with members of the same keys behind them. -/
theorem SameKeys.append {m m' n n' : Members} (h : SameKeys m m') (hn : SameKeys n n') :
    SameKeys (m ++ n) (m' ++ n') := by
  rw [SameKeys, Members.keys, Members.keys, List.map_append, List.map_append]
  exact congrArg₂ (· ++ ·) h hn

/-- Objects with the same keys have a key or do not have it alike. -/
theorem SameKeys.has_eq {m m' : Members} (h : SameKeys m m') : m.has = m'.has := by
  -- Whether a key is present can be read off the keys.
  have hkeys : ∀ (n : Members) (key : String), n.has key = n.keys.any (· == key) := by
    intro n key
    rw [Members.has, Members.keys, List.any_map]
    rfl
  funext key
  rw [hkeys, hkeys, h]

/-- Values of one kind have the same name in a message. -/
theorem kindName_eq_of_sameKind {a b : Json} (h : a.sameKind b = true) :
    a.kindName = b.kindName := by
  cases a <;> cases b <;> first | rfl | simp [Json.sameKind] at h

/-- A payload of the same kind is no object either. -/
theorem not_object_of_sameKind {a b : Json} (h : a.sameKind b = true)
    (ha : ∀ members, a ≠ .object members) : ∀ members, b ≠ .object members := by
  rintro members rfl
  cases a with
  | object members' => exact ha members' rfl
  | null | bool | int | double | string | array => simp [Json.sameKind] at h

/-- A payload that is no object is named by its kind. -/
theorem objectPayload_of_ne {operation : String} {payload : Json}
    (h : ∀ members, payload ≠ .object members) :
    objectPayload operation payload
      = .error (.invalidQuery (.badPayload operation "an object" payload.kindName)) := by
  cases payload with
  | object members => exact absurd rfl (h members)
  | null | bool | int | double | string | array => rfl

/-- Payloads of one shape are both taken or both refused. -/
theorem objectPayload_agree {payload payload' : Json} (operation : String)
    (h : SamePayload payload payload') :
    Agree SameKeys (objectPayload operation payload) (objectPayload operation payload') := by
  cases h with
  | object h => exact .ok h
  | other h hobject =>
    -- Both are refused, and the two messages name the same kind.
    rw [objectPayload_of_ne hobject, objectPayload_of_ne (not_object_of_sameKind h hobject),
      kindName_eq_of_sameKind h]
    exact .error _

/-- Payloads of the same shape are read as rows with the same keys, or refused for the same
reason. -/
theorem insertRows_agree {data data' : Json} (h : SameRows data data') :
    Agree (List.Forall₂ SameKeys) (insertRows data) (insertRows data') := by
  -- A list is compared item by item; anything else is one row or none.
  cases h with
  | list h => exact .mapM h fun _ _ => objectPayload_agree "insert"
  | single h harray =>
    have hsingle : ∀ d : Json, (∀ items, d ≠ .array items) →
        insertRows d = (objectPayload "insert" d).map ([·]) := by
      intro d hd
      cases d with
      | array items => exact absurd rfl (hd items)
      | null | bool | int | double | string | object => rfl
    -- The other payload is no list either, since it is of the same kind.
    have harray' : ∀ items, data' ≠ .array items := by
      rintro items rfl
      cases h with
      | other h hobject =>
        cases data with
        | array items' => exact harray items' rfl
        | null | bool | int | double | string | object => simp [Json.sameKind] at h
    rw [hsingle data harray, hsingle data' harray']
    exact (objectPayload_agree "insert" h).map fun _ _ hkeys => .cons hkeys .nil

/-! ### Drafts -/

/-- The same writing step, up to the values of its payload. -/
inductive SameWrite : Write → Write → Prop
  | insert {data data' : Json} (h : SameRows data data') : SameWrite (.insert data) (.insert data')
  | update {data data' : Json} (h : SamePayload data data') :
    SameWrite (.update data) (.update data')
  | delete : SameWrite .delete .delete

namespace Draft

/-- Drafts that differ only in values. -/
structure SameShape (d d' : Draft) : Prop where
  selected : d.selected = d'.selected
  write : Option.Rel SameWrite d.write d'.write
  conditions : SameKeys d.conditions d'.conditions
  order : d.order = d'.order
  limit : d.limit = d'.limit

variable {d d' : Draft}

/-- **One step** added to two drafts of one shape leaves drafts of one shape, or fails with one
error. -/
theorem add_agree (table : String) {op op' : Operation} (hd : d.SameShape d')
    (hop : SameStep op op') : Agree SameShape (d.add table op) (d'.add table op') := by
  -- A step checks the payload of a filter and the name of an order, neither of which is a value.
  cases hop with
  | filter h =>
    refine (objectPayload_agree "where" h).bind fun members members' hkeys => ?_
    exact .ok { hd with conditions := hd.conditions.append hkeys }
  | insert h => exact .ok { hd with write := .some (.insert h) }
  | update h => exact .ok { hd with write := .some (.update h) }
  | delete => exact .ok { hd with write := .some .delete }
  | select columns => exact .ok { hd with selected := by rw [hd.selected] }
  | limit n => exact .ok { hd with limit := rfl }
  | orderBy field direction =>
    refine (Agree.refl (identifier field)).bind fun name name' hname => ?_
    exact .ok { hd with order := by rw [hd.order, hname] }
  | aggregate => exact .error _

/-- **A whole chain.** -/
theorem ofChain_agree (table : String) {ops ops' : List Operation}
    (h : StoreBridge.SameShape ops ops') :
    Agree SameShape (ofChain table ops) (ofChain table ops') :=
  Agree.foldlM h ⟨rfl, .none, rfl, rfl, rfl⟩ fun _ _ _ _ => add_agree table

/-! ### Plans -/

/-- The clauses read the keys of the conditions only, so they are the same, or fail in the same
way. -/
theorem clauses_agree (h : d.SameShape d') :
    Agree (fun c c' => c.1 = c'.1 ∧ SameKeys c.2 c'.2) d.clauses d'.clauses := by
  have hclauses : ∀ d : Draft, d.clauses = (do
      let columns ← d.conditions.keys.mapM identifier
      return (⟨columns, d.order, d.limit⟩, d.conditions)) := by
    intro d
    rw [Draft.clauses, Members.keys, List.mapM_map]
    rfl
  rw [hclauses, hclauses, h.conditions]
  refine (Agree.refl _).bind fun columns columns' hcolumns => ?_
  exact .ok ⟨by rw [hcolumns, h.order, h.limit], h.conditions⟩

/-- The pairs of a row: the columns are given, and the row contributes its values. -/
theorem rowBindings_agree (columns : List String) (index : Nat) {row row' : Members}
    (h : SameKeys row row') :
    Agree SameKeys (rowBindings columns index row) (rowBindings columns index row') := by
  rw [rowBindings, rowBindings, h.length_eq, h.has_eq]
  split
  · refine .ok ?_
    rw [SameKeys, Members.keys, Members.keys, List.map_map, List.map_map]
    rfl
  · exact .error _

/-- Rows with the same keys are both bound or both refused. -/
theorem insertBindings_agree (columns : List String) {rows rows' : List Members}
    (h : List.Forall₂ SameKeys rows rows') (index : Nat) :
    Agree SameKeys (insertBindings columns index rows) (insertBindings columns index rows') := by
  induction h generalizing index with
  | nil => exact .ok rfl
  | cons hrow _ ih =>
    refine (rowBindings_agree columns index hrow).bind fun here here' hhere => ?_
    refine (ih (index + 1)).bind fun rest rest' hrest => ?_
    exact .ok (hhere.append hrest)

/-- Plans for the same statement, with bindings for the same columns. -/
def SamePlan (p p' : Plan) : Prop :=
  p.statement = p'.statement ∧ SameKeys p.bindings p'.bindings

variable (table : String)

/-- An insert of rows with the same keys has the same columns and the same number of groups. -/
theorem planInsert_agree {data data' : Json} (h : SameRows data data') :
    Agree SamePlan (planInsert table data) (planInsert table data') := by
  refine (insertRows_agree h).bind fun rows rows' hrows => ?_
  cases hrows with
  | nil => exact .error _
  | cons hfirst hrest =>
    -- The first row is empty in both runs or in none.
    simp only [hfirst.nil_iff]
    split
    · exact .error _
    · rw [hfirst, hrest.length_eq]
      refine (Agree.refl _).bind fun columns columns' hcolumns => ?_
      subst hcolumns
      refine (insertBindings_agree columns (.cons hfirst hrest) 0).bind ?_
      intro pairs pairs' hpairs
      exact .ok ⟨rfl, hpairs⟩

/-- Updates of one shape have plans of one shape, or both are refused. -/
theorem planUpdate_agree {data data' : Json} (hd : d.SameShape d') (h : SamePayload data data') :
    Agree SamePlan (planUpdate table d data) (planUpdate table d' data') := by
  refine (objectPayload_agree "update" h).bind fun members members' hkeys => ?_
  simp only [hkeys.nil_iff]
  split
  · exact .error _
  · rw [hkeys]
    refine (Agree.refl _).bind fun columns columns' hcolumns => ?_
    refine (clauses_agree hd).bind fun c c' hclauses => ?_
    exact .ok ⟨by rw [hcolumns, hclauses.1], hkeys.append hclauses.2⟩

/-- **The plan of a draft** follows its shape: two drafts of one shape have plans of one shape, or
are refused alike. -/
theorem plan_agree (hd : d.SameShape d') : Agree SamePlan (d.plan table) (d'.plan table) := by
  obtain ⟨selected, write, conditions, order, limit⟩ := d
  obtain ⟨selected', write', conditions', order', limit'⟩ := d'
  obtain rfl : selected = selected' := hd.selected
  have hwrite : Option.Rel SameWrite write write' := hd.write
  -- The same step decides the statement in both runs.
  cases hwrite with
  | some hw =>
    refine (Agree.refl _).bind fun name name' hname => ?_
    subst hname
    cases hw with
    | insert h => exact planInsert_agree name h
    | update h => exact planUpdate_agree name hd h
    | delete =>
      refine (clauses_agree hd).bind fun c c' hclauses => ?_
      exact .ok ⟨by rw [hclauses.1], hclauses.2⟩
  | none =>
    -- Without a write, the columns are the same, as they hold no values.
    cases selected with
    | none => exact .error _
    | some columns =>
      refine (Agree.refl _).bind fun name name' hname => ?_
      refine (Agree.refl _).bind fun names names' hnames => ?_
      refine (clauses_agree hd).bind fun c c' hclauses => ?_
      exact .ok ⟨by rw [hname, hnames, hclauses.1], hclauses.2⟩

end Draft

/-! ### Requests -/

variable {s : Schema}

/-- The request of a plan shows the statement and the columns of the bindings, not the values. -/
theorem planTabular_agree {ops ops' : List Operation} (h : SameShape ops ops') :
    Agree Draft.SamePlan (planTabular s ops) (planTabular s ops') :=
  (Draft.ofChain_agree s.name h).bind fun _ _ => Draft.plan_agree s.name

/-- Chains of the same shape compile to the same text and the same types, or fail with the same
error. -/
theorem compileTabular_agree {ops ops' : List Operation} (h : SameShape ops ops') :
    Agree (fun r r' => r.text = r'.text ∧ r.paramTypes = r'.paramTypes)
      (compileTabular s ops) (compileTabular s ops') := by
  refine (planTabular_agree h).map fun p p' hp => ⟨?_, ?_⟩
  · rw [Plan.request, Plan.request, hp.1]
  · -- The types are looked up by the keys of the bindings.
    have htypes : ∀ q : Plan,
        (q.request s).paramTypes = (Members.keys q.bindings).map s.fieldType? := by
      intro q
      rw [Members.keys, List.map_map]
      rfl
    rw [htypes, htypes, hp.2]

/-- **Values do not influence statement texts.** On a table, chains of the same shape compile to the
same text with the same parameter types, or fail with the same error; and a compiled text consists
of nothing but characters of statements, so no quote, no comment and no second statement begins in
it. -/
theorem compile_text_ignores_values (hs : s.kind = .tabular) :
    (∀ ops ops', SameShape ops ops' →
      (∃ r r', compile s ops = .ok (.sql r) ∧ compile s ops' = .ok (.sql r') ∧
        r.text = r'.text ∧ r.paramTypes = r'.paramTypes) ∨
      ∃ e, compile s ops = .error e ∧ compile s ops' = .error e) ∧
    ∀ ops r, compile s ops = .ok (.sql r) →
      ∀ c ∈ r.text.toList, isStatementChar c = true ∧ isDelimiter c = false := by
  -- On a table a chain is compiled by one of the two compilers.
  have hcompile : ∀ ops, compile s ops = (compileTabular s ops).map .sql := by
    intro ops
    rw [compile, hs]
  constructor
  · intro ops ops' h
    rw [hcompile, hcompile]
    have hagree := compileTabular_agree (s := s) h
    generalize compileTabular s ops = x at hagree
    generalize compileTabular s ops' = x' at hagree
    cases hagree with
    | ok h => exact Or.inl ⟨_, _, rfl, rfl, h⟩
    | error e => exact Or.inr ⟨e, rfl, rfl⟩
  · intro ops r h c hc
    -- The text is that of a well-formed statement, each character of which is an expected one.
    obtain ⟨htext, -, -, hw, -⟩ := compile_eq_ok_sql h
    rw [htext] at hc
    have hplain := isStatementText_write hw c hc
    exact ⟨hplain, isDelimiter_of_isStatementChar hplain⟩

/-- A table without declared columns. -/
def accounts : Schema :=
  ⟨"accounts", .tabular, []⟩

/-- Looks the accounts of one owner up. -/
def lookup (owner : String) : List Operation :=
  [.select none, .filter (.object [("owner", .string owner)])]

/-- A value that would end the statement if it stood in the text. -/
def hostileOwner : String :=
  "ann'; DROP TABLE accounts --"

/-- The two lookups have one text, although one of the names is written like SQL. -/
theorem lookup_text_ignores_values :
    accounts.kind = .tabular ∧ SameShape (lookup "ann") (lookup hostileOwner) ∧
      ((∃ r r', compile accounts (lookup "ann") = .ok (.sql r) ∧
          compile accounts (lookup hostileOwner) = .ok (.sql r') ∧
          r.text = r'.text ∧ r.paramTypes = r'.paramTypes) ∨
        ∃ e, compile accounts (lookup "ann") = .error e ∧
          compile accounts (lookup hostileOwner) = .error e) := by
  have hshape : SameShape (lookup "ann") (lookup hostileOwner) :=
    .cons (.select none) (.cons (.filter (.object rfl)) .nil)
  exact ⟨rfl, hshape, (compile_text_ignores_values rfl).1 _ _ hshape⟩

end StoreBridge
