import StoreBridge.Proofs.Members
import StoreBridge.Proofs.Query.Faults

/-!
# How the rows of an insert are spelled

The first row of an insert gives the columns and their order, and every row is read by the names of
these columns. So the members of the other rows may stand in any order, the other rows may be
exchanged, and another order of the first row shows in the columns and in each group of values, but
nowhere else (`compile_insert_spelling`). Three facts carry the proof:

* a chain looks at the payload of an insert only where no later step writes, and then only to plan
  the insert (`compile_insertChain`);
* a row is asked for its length, for whether it has a column, and for the value of a column, and
  none of them depends on the order of its members (`Members.get?_of_perm`, `Members.has_of_perm`);
* an insert is planned if each item for itself fits the first row
  (`Draft.exists_planInsert_array_iff`), so that the order of the items does not decide whether it
  is.

A rearrangement is a list of positions. It acts on columns, on values and on types at once
(`map_arrange`), which is what makes the three move together.
-/

namespace StoreBridge

/-! ### Rearranged lists -/

section Arrange

variable {α β : Type}

/-- The items at the given positions, in the order of the positions. -/
def arrange (order : List Nat) (xs : List α) : List α :=
  order.filterMap fun i => xs[i]?

/-- Items may be changed before or after they are arranged. -/
theorem map_arrange (f : α → β) (order : List Nat) (xs : List α) :
    (arrange order xs).map f = arrange order (xs.map f) := by
  simp only [arrange, List.map_filterMap, List.getElem?_map]

/-- All positions in their own order leave the list alone. -/
theorem arrange_range (xs : List α) : arrange (List.range xs.length) xs = xs := by
  induction xs with
  | nil => rfl
  | cons x xs ih =>
    rw [arrange, List.length_cons, List.range_succ_eq_map, List.filterMap_cons_some
      (List.getElem?_cons_zero), List.filterMap_map]
    exact congrArg (x :: ·) ih

/-- **Positions that permute all of them permute the items.** -/
theorem arrange_perm {order : List Nat} {xs : List α} (h : order.Perm (List.range xs.length)) :
    (arrange order xs).Perm xs := by
  have hitems := h.filterMap fun i => xs[i]?
  exact hitems.trans (.of_eq (arrange_range xs))

end Arrange

/-! ### Rows with the same members -/

namespace Members

variable {row row' : Members}

/-- Two rows that an insert cannot tell apart: they have the same size, the same columns, and the
same value in each column. -/
structure ReadAlike (row row' : Members) : Prop where
  length : row'.length = row.length
  has : row'.has = row.has
  get? : row'.get? = row.get?

theorem ReadAlike.refl (row : Members) : ReadAlike row row :=
  ⟨rfl, rfl, rfl⟩

/-- **The value of a column** does not depend on the order of the members. -/
theorem get?_of_perm (hkeys : row.keys.Nodup) (h : row.Perm row') : row'.get? = row.get? := by
  have hkeys' : row'.keys.Nodup := (h.map Prod.fst).nodup_iff.mp hkeys
  refine funext fun column => Option.ext fun value => ⟨fun hvalue => ?_, fun hvalue => ?_⟩
  · exact get?_of_mem hkeys (h.mem_iff.mpr (mem_of_get? hvalue))
  · exact get?_of_mem hkeys' (h.mem_iff.mp (mem_of_get? hvalue))

/-- Rows with the same members in another order read alike. -/
theorem readAlike_of_perm (hkeys : row.keys.Nodup) (h : row.Perm row') : ReadAlike row row' where
  length := h.length_eq.symm
  has := funext fun _ => h.symm.any_eq
  get? := get?_of_perm hkeys h

end Members

/-- Two items of an insert that differ at most in the order of the members of a row. As in every
object, a key occurs once. -/
inductive Respelled : Json → Json → Prop
  | same (item : Json) : Respelled item item
  | row {row row' : Members} (hkeys : row.keys.Nodup) (h : row.Perm row') :
    Respelled (.object row) (.object row')

/-- An item of an insert that has all of the columns and nothing else. -/
def FitsColumns (columns : List String) (item : Json) : Prop :=
  ∃ row : Members, item = .object row ∧ row.length = columns.length ∧ columns.all row.has = true

/-- The order of the columns does not matter for that. -/
theorem fitsColumns_of_perm {columns columns' : List String} {item : Json}
    (h : columns'.Perm columns) : FitsColumns columns' item ↔ FitsColumns columns item := by
  simp only [FitsColumns, h.length_eq, h.all_eq]

/-- If one of two rows that read alike fits the columns, the other one does. -/
theorem fitsColumns_of_readAlike {columns : List String} {row row' : Members}
    (h : row.ReadAlike row') :
    FitsColumns columns (.object row') ↔ FitsColumns columns (.object row) := by
  simp only [FitsColumns, Json.object.injEq, exists_eq_left', h.length, h.has]

/-- The values of a row, one for each column. -/
def rowValues (columns : List String) (row : Members) : List Json :=
  columns.map fun column => (row.get? column).getD .null

/-! ### The plan of an insert -/

namespace Draft

variable {table : String} {first : Json} {items items' : List Json}

/-- Rows that read alike have the same bindings. -/
theorem insertBindings_congr (columns : List String) (index : Nat) {rows rows' : List Members}
    (h : List.Forall₂ Members.ReadAlike rows rows') :
    insertBindings columns index rows' = insertBindings columns index rows := by
  induction h generalizing index with
  | nil => rfl
  | cons hrow _ ih =>
    rw [insertBindings, insertBindings, ih (index + 1), rowBindings, rowBindings, hrow.length,
      hrow.has, hrow.get?]

/-- **Other spellings of the rows behind the first** make no difference to the plan. -/
theorem planInsert_respelled (table : String) (first : Json)
    (h : List.Forall₂ Respelled items items') :
    planInsert table (.array (first :: items)) = planInsert table (.array (first :: items')) := by
  -- An item is refused in both spellings, or gives two rows that read alike.
  have hitem : ∀ item item', Respelled item item' →
      Agree Members.ReadAlike (objectPayload "insert" item) (objectPayload "insert" item') := by
    intro item item' h
    cases h with
    | same =>
      cases objectPayload "insert" item with
      | ok row => exact .ok (.refl row)
      | error e => exact .error e
    | row hkeys h => exact .ok (Members.readAlike_of_perm hkeys h)
  have hrest := Agree.mapM h hitem
  unfold planInsert
  change ((first :: items).mapM (objectPayload "insert") >>= _)
    = ((first :: items').mapM (objectPayload "insert") >>= _)
  rw [List.mapM_cons, List.mapM_cons]
  cases objectPayload "insert" first with
  | error e => rfl
  | ok row =>
    -- Of the items only the rows that were read matter from here on.
    generalize items.mapM (objectPayload "insert") = rest at hrest ⊢
    generalize items'.mapM (objectPayload "insert") = rest' at hrest ⊢
    cases hrest with
    | error e => rfl
    | @ok rows rows' hrows =>
      have hbindings : ∀ columns : List String, insertBindings columns 0 (row :: rows')
          = insertBindings columns 0 (row :: rows) :=
        fun columns => insertBindings_congr columns 0 (.cons (.refl row) hrows)
      change (if row = [] then _ else _) = (if row = [] then _ else _)
      simp only [hbindings, hrows.length_eq]

/-- **When an array of rows is planned.** Each item is looked at by itself. -/
theorem exists_planInsert_array_iff (table : String) (first : Json) (items : List Json) :
    (∃ p, planInsert table (.array (first :: items)) = .ok p) ↔
      ∃ row : Members, first = .object row ∧ row ≠ [] ∧
        (∀ column ∈ row.keys, isIdentifier column = true) ∧
        ∀ item ∈ first :: items, FitsColumns row.keys item := by
  constructor
  · intro hplan
    obtain ⟨rows, hrows, -⟩ := exists_bind_ok_iff.mp hplan
    have hobjects : first :: items = rows.map .object := mapM_objectPayload_eq_ok.mp hrows
    -- The first item is the first row, and the others are the rows behind it.
    obtain ⟨row, rest, rfl, rfl, rfl⟩ := List.map_eq_cons_iff.mp hobjects.symm
    obtain ⟨hrow, hnamed, hcomplete⟩ :=
      (exists_planRows_ok_iff table (.many (row :: rest))).mp hplan
    refine ⟨row, rfl, hrow, hnamed, fun item hitem => ?_⟩
    obtain ⟨row', hrow', rfl⟩ := List.mem_map.mp (hobjects ▸ hitem)
    exact ⟨row', rfl, hcomplete row' hrow'⟩
  · rintro ⟨row, rfl, hrow, hnamed, hfits⟩
    -- Every item fits the columns, so it is an object.
    have hobject : ∀ item ∈ items, Json.object (payloadMembers item) = item := by
      intro item hitem
      obtain ⟨row', rfl, -⟩ := hfits item (List.mem_cons_of_mem _ hitem)
      rfl
    obtain ⟨rest, rfl⟩ : ∃ rest : List Members, items = rest.map .object := by
      refine ⟨items.map payloadMembers, ?_⟩
      rw [List.map_map]
      exact (List.map_id items).symm.trans (List.map_congr_left fun item h => (hobject item h).symm)
    refine (exists_planRows_ok_iff table (.many (row :: rest))).mpr ⟨hrow, hnamed, ?_⟩
    intro row' hrow'
    obtain ⟨_, ⟨⟩, hcomplete⟩ := hfits (.object row') (List.mem_map_of_mem hrow')
    exact hcomplete

end Draft

/-! ### The layout of an insert -/

/-- **An insert group by group.** The text names the columns and has a group of placeholders for
each row; the values and their types follow group by group, one of each for every column. -/
structure SqlRequest.Groups (r : SqlRequest) (table : String) (columns : List String)
    (values : List (List Json)) (types : List (List (Option FieldType))) : Prop where
  text : r.text.toList = (Statement.insert table columns values.length).write
  params : r.params = values.flatten
  paramTypes : r.paramTypes = types.flatten
  length_values : ∀ group ∈ values, group.length = columns.length
  length_types : ∀ group ∈ types, group.length = columns.length
  length_eq : types.length = values.length

/-- The request of an insert has a group for each row. -/
theorem Plan.request_groups (s : Schema) (columns : List String) (rows : List Members) :
    (Plan.request s ⟨.insert s.name columns rows.length, rowPairs columns rows⟩).Groups s.name
      columns
      (rows.map (rowValues columns)) (rows.map fun _ => columns.map s.fieldType?) where
  text := by rw [Plan.request, String.toList_ofList, List.length_map]
  params := by
    -- The bindings list row by row, and so do the groups.
    rw [← List.flatMap_def]
    simp only [Plan.request, rowPairs, List.map_flatMap, List.map_map]
    rfl
  paramTypes := by
    rw [← List.flatMap_def]
    simp only [Plan.request, rowPairs, List.map_flatMap, List.map_map]
    rfl
  length_values := by
    simp only [List.forall_mem_map, rowValues, List.length_map, implies_true]
  length_types := by
    simp only [List.forall_mem_map, List.length_map, implies_true]
  length_eq := by rw [List.length_map, List.length_map]

/-! ### Chains with an insert -/

/-- A chain that inserts the items somewhere. -/
def insertChain (before after : List Operation) (items : List Json) : List Operation :=
  before ++ .insert (.array items) :: after

/-- Two compilations that fail, or that give two related requests. -/
def Together (R : SqlRequest → SqlRequest → Prop) (x x' : Except DbError Request) : Prop :=
  (∃ e e', x = .error e ∧ x' = .error e') ∨ ∃ r r', x = .ok (.sql r) ∧ x' = .ok (.sql r') ∧ R r r'

section Chain

variable {s : Schema} {before after : List Operation}

/-- The first step that is refused decides how a chain fails to compile. -/
theorem compile_of_refused (hs : s.kind = .tabular) {op : Operation} {e : DbError}
    (hbefore : ∀ b ∈ before, b.FitsTable) (hop : op.Refused s.name e) :
    compile s (before ++ op :: after) = .error e := by
  unfold compile
  rw [hs]
  change ((planTabular s (before ++ op :: after)).map (Plan.request s)).map Request.sql = .error e
  rw [planTabular, Draft.ofChain_of_refused hbefore hop]
  rfl

/-- The items of an insert are part of the write, if no later step writes, and of nothing else that
a chain asks for. -/
theorem Draft.reading_insertChain (before after : List Operation) (items : List Json) :
    reading (insertChain before after items) =
      { reading (before ++ after) with
        write := (after.filterMap Operation.write?).getLast?.or
          (some (.insert (.array items))) } := by
  -- A later write comes behind the insert and replaces it.
  have hwrite : ((insertChain before after items).filterMap Operation.write?).getLast? =
      (after.filterMap Operation.write?).getLast?.or (some (.insert (.array items))) := by
    rw [insertChain, List.filterMap_append]
    change (_ ++ Write.insert (.array items) :: after.filterMap Operation.write?).getLast? = _
    rw [List.getLast?_append, List.getLast?_cons]
    cases (after.filterMap Operation.write?).getLast? with
    | none => rfl
    | some write => rfl
  rw [reading, hwrite]
  simp only [insertChain, reading, List.filterMap_append, List.flatMap_append, List.flatMap_cons,
    Operation.conditions, List.nil_append]
  rfl

/-- **What a chain does with the items of an insert.** A step that is refused decides the error,
whatever the items are; else the items are looked at where the statement is planned. -/
theorem compile_insertChain (hs : s.kind = .tabular) (before after : List Operation) :
    (∃ e, ∀ items, compile s (insertChain before after items) = .error e) ∨
      ∀ items, compile s (insertChain before after items) =
        ((Draft.reading (insertChain before after items)).plan s.name).map
          fun p => .sql (p.request s) := by
  rcases Operation.exists_first_refused s.name before with hbefore | hrefused
  · -- An insert fits whatever its items are, so the first refused step is one of the others.
    have hinsert : ∀ items steps, (∀ op ∈ steps, op.FitsTable) →
        ∀ op ∈ insertChain before steps items, op.FitsTable := by
      intro items steps hsteps op hop
      rcases List.mem_append.mp hop with hop | hop
      · exact hbefore op hop
      · rcases List.mem_cons.mp hop with rfl | hop
        · trivial
        · exact hsteps op hop
    rcases Operation.exists_first_refused s.name after with hafter | hrefused
    · exact .inr fun items => compile_tabular_of_plan hs (hinsert items after hafter)
    · obtain ⟨fitting, op, rest, e, rfl, hfitting, hop⟩ := hrefused
      refine .inl ⟨e, fun items => ?_⟩
      have h : compile s (insertChain before fitting items ++ op :: rest) = .error e :=
        compile_of_refused hs (hinsert items fitting hfitting) hop
      rwa [insertChain, List.append_assoc, List.cons_append] at h
  · obtain ⟨fitting, op, rest, e, rfl, hfitting, hop⟩ := hrefused
    refine .inl ⟨e, fun items => ?_⟩
    rw [insertChain, List.append_assoc, List.cons_append]
    exact compile_of_refused hs hfitting hop

/-- Items that a later write replaces have no say. -/
theorem compile_insertChain_of_write (hs : s.kind = .tabular)
    (hafter : ∃ op ∈ after, op.write? ≠ none) (items items' : List Json) :
    compile s (insertChain before after items) = compile s (insertChain before after items') := by
  have hwrite : (after.filterMap Operation.write?).getLast? ≠ none := by
    obtain ⟨op, hop, hwrite⟩ := hafter
    rw [Ne, List.getLast?_eq_none_iff, List.filterMap_eq_nil_iff]
    exact fun hnone => hwrite (hnone op hop)
  obtain ⟨write, hwrite⟩ := Option.ne_none_iff_exists'.mp hwrite
  -- In either case the items do not occur in what is planned.
  rcases compile_insertChain hs before after with ⟨e, he⟩ | hplan
  · rw [he, he]
  · rw [hplan, hplan, Draft.reading_insertChain, Draft.reading_insertChain, hwrite]
    rfl

/-- **Items that no later write replaces are planned**, unless the chain fails for another
reason. -/
theorem compile_insertChain_plan (hs : s.kind = .tabular) (before : List Operation)
    (hafter : ∀ op ∈ after, op.write? = none) :
    (∃ e, ∀ items, compile s (insertChain before after items) = .error e) ∨
      isIdentifier s.name = true ∧ ∀ items, compile s (insertChain before after items) =
        (Draft.planInsert s.name (.array items)).map fun p => .sql (p.request s) := by
  rcases compile_insertChain hs before after with hrefused | hplan
  · exact .inl hrefused
  · have hnone : after.filterMap Operation.write? = [] := List.filterMap_eq_nil_iff.mpr hafter
    -- A bad name of the table is found before the items are looked at.
    cases hname : isIdentifier s.name with
    | false =>
      refine .inl ⟨.invalidQuery (.badIdentifier s.name), fun items => ?_⟩
      rw [hplan, Draft.plan_of_bad_name (.inl ?_) hname]
      · rfl
      · rw [Draft.reading_insertChain, hnone]
        exact Option.some_ne_none _
    | true =>
      refine .inr ⟨rfl, fun items => ?_⟩
      have htable : identifier s.name = .ok s.name := identifier_eq_ok.mpr ⟨rfl, hname⟩
      rw [hplan, Draft.reading_insertChain, hnone]
      simp only [Draft.plan, htable, List.getLast?_nil, Option.none_or]
      rfl

/-- Items with one plan are compiled alike. -/
theorem compile_insertChain_congr (hs : s.kind = .tabular) (before after : List Operation)
    {items items' : List Json}
    (h : Draft.planInsert s.name (.array items) = Draft.planInsert s.name (.array items')) :
    compile s (insertChain before after items) = compile s (insertChain before after items') := by
  by_cases hafter : ∃ op ∈ after, op.write? ≠ none
  · exact compile_insertChain_of_write hs hafter items items'
  · push Not at hafter
    rcases compile_insertChain_plan hs before hafter with ⟨e, he⟩ | ⟨-, hplan⟩
    · rw [he, he]
    · rw [hplan, hplan, h]

/-- Two inserts are compiled together if they are planned together. -/
theorem together_insertChain (hs : s.kind = .tabular) (before : List Operation)
    (hafter : ∀ op ∈ after, op.write? = none) {items items' : List Json}
    {R : SqlRequest → SqlRequest → Prop}
    (hplans : (∃ p, Draft.planInsert s.name (.array items) = .ok p) ↔
      ∃ p, Draft.planInsert s.name (.array items') = .ok p)
    (hR : isIdentifier s.name = true → ∀ p p', Draft.planInsert s.name (.array items) = .ok p →
      Draft.planInsert s.name (.array items') = .ok p' → R (p.request s) (p'.request s)) :
    Together R (compile s (insertChain before after items))
      (compile s (insertChain before after items')) := by
  -- Both fail for the chain around them, or both come down to their plans.
  rcases compile_insertChain_plan hs before hafter with ⟨e, he⟩ | ⟨hname, hplan⟩
  · exact .inl ⟨e, e, he items, he items'⟩
  · rw [hplan, hplan]
    cases hp : Draft.planInsert s.name (.array items) with
    | ok p =>
      obtain ⟨p', hp'⟩ := hplans.mp ⟨p, hp⟩
      rw [hp']
      exact .inr ⟨p.request s, p'.request s, rfl, rfl, hR hname p p' hp hp'⟩
    | error e =>
      cases hp' : Draft.planInsert s.name (.array items') with
      | error e' => exact .inl ⟨e, e', rfl, rfl⟩
      | ok p' =>
        obtain ⟨p, hp₁⟩ := hplans.mpr ⟨p', hp'⟩
        exact absurd (hp.symm.trans hp₁) nofun

end Chain

/-! ### Rows in another order, and a first row that is spelled differently -/

section Spelling

variable {s : Schema} {first : Json} {row : Members} {items : List Json} {order : List Nat}
  {p p' : Plan}

/-- The groups of an insert that was planned, read off its first row and its items. -/
theorem groups_of_planInsert (hname : isIdentifier s.name = true)
    (h : Draft.planInsert s.name (.array (.object row :: items)) = .ok p) :
    (p.request s).Groups s.name row.keys
      (rowValues row.keys row :: items.map fun item => rowValues row.keys (payloadMembers item))
      (List.replicate (items.length + 1) (row.keys.map s.fieldType?)) := by
  obtain ⟨rfl, -, -⟩ := Draft.planInsert_eq_ok hname h
  -- The columns are the keys of the first row, which is one of the rows itself.
  have hrows : payloadRows (.array (.object row :: items)) = row :: items.map payloadMembers := rfl
  have hgroups := Plan.request_groups s row.keys (row :: items.map payloadMembers)
  rw [List.map_cons, List.map_map, List.map_const', List.length_cons, List.length_map] at hgroups
  rw [hrows, List.headD_cons, List.length_cons, List.length_map]
  exact hgroups

/-- **The order of the rows behind the first** does not decide whether they are planned. -/
theorem exists_planInsert_arrange_iff (table : String) (first : Json)
    (h : order.Perm (List.range items.length)) :
    (∃ p, Draft.planInsert table (.array (first :: items)) = .ok p) ↔
      ∃ p, Draft.planInsert table (.array (first :: arrange order items)) = .ok p := by
  have hitems : (first :: items).Perm (first :: arrange order items) :=
    (arrange_perm h).symm.cons first
  simp only [Draft.exists_planInsert_array_iff, hitems.mem_iff]

/-- The rows behind the first stand in the groups as they stand in the payload. -/
theorem groups_arrange_rows (hname : isIdentifier s.name = true)
    (horder : order.Perm (List.range items.length))
    (h : Draft.planInsert s.name (.array (first :: items)) = .ok p)
    (h' : Draft.planInsert s.name (.array (first :: arrange order items)) = .ok p') :
    ∃ columns group groups types, groups.length = items.length ∧
      (p.request s).Groups s.name columns (group :: groups) types ∧
      (p'.request s).Groups s.name columns (group :: arrange order groups) types := by
  -- What is planned begins with a row, and rearranging leaves it in front.
  obtain ⟨row, rfl, -⟩ := (Draft.exists_planInsert_array_iff s.name first items).mp ⟨p, h⟩
  have hgroups := groups_of_planInsert hname h
  have hgroups' := groups_of_planInsert hname h'
  rw [map_arrange, (arrange_perm horder).length_eq] at hgroups'
  exact ⟨row.keys, _, _, _, List.length_map _, hgroups, hgroups'⟩

/-- **The order of the members of the first row** does not decide whether an insert is planned. -/
theorem exists_planInsert_arrange_first_iff (table : String) (items : List Json)
    (hkeys : row.keys.Nodup) (h : order.Perm (List.range row.length)) :
    (∃ p, Draft.planInsert table (.array (.object row :: items)) = .ok p) ↔
      ∃ p, Draft.planInsert table (.array (.object (arrange order row) :: items)) = .ok p := by
  have hrow : row.Perm (arrange order row) := (arrange_perm h).symm
  have hcolumns : row.keys.Perm (Members.keys (arrange order row)) := hrow.map Prod.fst
  have hempty : row ≠ [] ↔ arrange order row ≠ [] := by
    rw [← List.length_pos_iff, ← List.length_pos_iff, hrow.length_eq]
  -- The first row has to fit its own columns too, and does so in every order.
  have hself : FitsColumns row.keys (.object (arrange order row)) ↔
      FitsColumns row.keys (.object row) :=
    fitsColumns_of_readAlike (Members.readAlike_of_perm hkeys hrow)
  simp only [Draft.exists_planInsert_array_iff, Json.object.injEq, exists_eq_left', hempty,
    hcolumns.mem_iff, List.forall_mem_cons, fitsColumns_of_perm hcolumns.symm, hself]

/-- **The members of the first row** stand in the columns and in each group as they stand in the
row. -/
theorem groups_arrange_first (hname : isIdentifier s.name = true) (hkeys : row.keys.Nodup)
    (horder : order.Perm (List.range row.length))
    (h : Draft.planInsert s.name (.array (.object row :: items)) = .ok p)
    (h' : Draft.planInsert s.name (.array (.object (arrange order row) :: items)) = .ok p') :
    ∃ groups types, (p.request s).Groups s.name row.keys groups types ∧
      (p'.request s).Groups s.name (arrange order row.keys) (groups.map (arrange order))
        (types.map (arrange order)) := by
  have hcolumns : Members.keys (arrange order row) = arrange order row.keys := map_arrange ..
  -- A row that is read in the new order of the columns gives its values in the new order.
  have hvalues : ∀ row' : Members, rowValues (arrange order row.keys) row'
      = arrange order (rowValues row.keys row') := fun row' => map_arrange ..
  -- Under the old columns the rearranged row holds the same values.
  have hfirst : rowValues row.keys (arrange order row) = rowValues row.keys row := by
    rw [rowValues, Members.get?_of_perm hkeys (arrange_perm horder).symm, rowValues]
  have hgroups' := groups_of_planInsert hname h'
  rw [hcolumns, map_arrange, hvalues, hfirst] at hgroups'
  simp only [hvalues] at hgroups'
  refine ⟨_, _, groups_of_planInsert hname h, ?_⟩
  rw [List.map_cons, List.map_map, List.map_replicate]
  exact hgroups'

end Spelling

/-- **How the rows of an insert are spelled.** The members of the rows behind the first may stand in
any order: the outcome is the same. If the insert decides the statement, these rows may stand in any
order too: the text and the types are the same, and the groups of values follow the rows. And if the
members of the first row stand in another order, so do the columns and each group of values and of
types, however the other rows are spelled. An insert that a later write replaces has no say. -/
theorem compile_insert_spelling {s : Schema} (hs : s.kind = .tabular)
    (before after : List Operation) :
    (∀ first items items', List.Forall₂ Respelled items items' →
      compile s (insertChain before after (first :: items)) =
        compile s (insertChain before after (first :: items'))) ∧
    ((∀ op ∈ after, op.write? = none) →
      (∀ first items order, order.Perm (List.range items.length) →
        Together (fun r r' => r'.text = r.text ∧ r'.paramTypes = r.paramTypes ∧
            ∃ columns group groups types, groups.length = items.length ∧
              r.Groups s.name columns (group :: groups) types ∧
              r'.Groups s.name columns (group :: arrange order groups) types)
          (compile s (insertChain before after (first :: items)))
          (compile s (insertChain before after (first :: arrange order items)))) ∧
      ∀ (row : Members) items order, row.keys.Nodup → order.Perm (List.range row.length) →
        Together (fun r r' => ∃ groups types, r.Groups s.name row.keys groups types ∧
            r'.Groups s.name (arrange order row.keys) (groups.map (arrange order))
              (types.map (arrange order)))
          (compile s (insertChain before after (.object row :: items)))
          (compile s (insertChain before after (.object (arrange order row) :: items)))) ∧
    ((∃ op ∈ after, op.write? ≠ none) → ∀ items items',
      compile s (insertChain before after items)
        = compile s (insertChain before after items')) := by
  refine ⟨fun first items items' h => ?_, fun hafter => ⟨?_, ?_⟩, compile_insertChain_of_write hs⟩
  · exact compile_insertChain_congr hs before after (Draft.planInsert_respelled s.name first h)
  · intro first items order horder
    -- The insert decides the statement, so the two chains are compared by their plans.
    refine together_insertChain hs before hafter
      (exists_planInsert_arrange_iff s.name first horder) fun hname p p' h h' => ?_
    have hgroups := groups_arrange_rows hname horder h h'
    obtain ⟨columns, group, groups, types, hlength, hr, hr'⟩ := hgroups
    have horder' : order.Perm (List.range groups.length) := hlength ▸ horder
    refine ⟨?_, hr'.paramTypes.trans hr.paramTypes.symm, columns, group, groups, types, hlength, hr,
      hr'⟩
    -- The text depends on the number of the groups only.
    rw [String.ext_iff, hr.text, hr'.text, List.length_cons, List.length_cons,
      (arrange_perm horder').length_eq]
  · intro row items order hkeys horder
    exact together_insertChain hs before hafter
      (exists_planInsert_arrange_first_iff s.name items hkeys horder)
      fun hname p p' h h' => groups_arrange_first hname hkeys horder h h'

/-- A table with one column of each of two types. -/
def ledger : Schema :=
  ⟨"ledger", .tabular,
    [("owner", ⟨.string, true, false, none⟩), ("balance", ⟨.number, false, true, none⟩)]⟩

def ledgerFirst : Members :=
  [("owner", .string "ann"), ("balance", .int 3)]

/-- Two further rows, the first of which spells its columns the other way round. -/
def ledgerRest : List Json :=
  [.object [("balance", .int 5), ("owner", .string "bob")],
    .object [("owner", .string "cy"), ("balance", .null)]]

/-- The same rows with all columns in the order of the first row. -/
def ledgerRespelled : List Json :=
  [.object [("owner", .string "bob"), ("balance", .int 5)],
    .object [("owner", .string "cy"), ("balance", .null)]]

/-- The rows are inserted in each of the four spellings. -/
theorem ledger_insert_spelling :
    ledger.kind = .tabular ∧ (∀ op ∈ [Operation.limit 2], op.write? = none) ∧
      List.Forall₂ Respelled ledgerRest ledgerRespelled ∧
      [1, 0].Perm (List.range ledgerRest.length) ∧ [1, 0].Perm (List.range ledgerFirst.length) ∧
      ledgerFirst.keys.Nodup ∧
      ∃ r, compile ledger (insertChain [.delete] [.limit 2] (.object ledgerFirst :: ledgerRest))
          = .ok (.sql r) ∧
        compile ledger (insertChain [.delete] [.limit 2] (.object ledgerFirst :: ledgerRespelled))
          = .ok (.sql r) ∧
        (∃ r', compile ledger (insertChain [.delete] [.limit 2]
            (.object ledgerFirst :: arrange [1, 0] ledgerRest)) = .ok (.sql r') ∧
              r'.text = r.text) ∧
        ∃ r' values types, compile ledger (insertChain [.delete] [.limit 2]
            (.object (arrange [1, 0] ledgerFirst) :: ledgerRest)) = .ok (.sql r') ∧
          r'.Groups "ledger" ["balance", "owner"] values types := by
  have hafter : ∀ op ∈ [Operation.limit 2], op.write? = none := by simp [Operation.write?]
  have hrest : List.Forall₂ Respelled ledgerRest ledgerRespelled :=
    .cons (.row (by decide) (.swap ..)) (.cons (.same _) .nil)
  have hrows : [1, 0].Perm (List.range ledgerRest.length) := by decide
  have hfirst : [1, 0].Perm (List.range ledgerFirst.length) := by decide
  have hkeys : ledgerFirst.keys.Nodup := by decide
  -- The chain compiles, so in none of the three comparisons both sides fail.
  obtain ⟨r, hr⟩ : ∃ r, compile ledger (insertChain [.delete] [.limit 2]
      (.object ledgerFirst :: ledgerRest)) = .ok (.sql r) := ⟨_, rfl⟩
  obtain ⟨hrespelled, hcounts, -⟩ := compile_insert_spelling (s := ledger) rfl [.delete] [.limit 2]
  have hordered := (hcounts hafter).1 (.object ledgerFirst) ledgerRest [1, 0] hrows
  have harranged := (hcounts hafter).2 ledgerFirst ledgerRest [1, 0] hkeys hfirst
  refine ⟨rfl, hafter, hrest, hrows, hfirst, hkeys, r, hr, ?_, ?_, ?_⟩
  · rw [← hrespelled _ _ _ hrest, hr]
  · obtain ⟨e, e', hfails, -⟩ | ⟨r₁, r', hr₁, hr', htext, -⟩ := hordered
    · cases hr.symm.trans hfails
    · obtain ⟨⟩ := hr.symm.trans hr₁
      exact ⟨r', hr', htext⟩
  · obtain ⟨e, e', hfails, -⟩ | ⟨r₁, r', hr₁, hr', values, types, -, hgroups⟩ := harranged
    · cases hr.symm.trans hfails
    · exact ⟨r', _, _, hr', hgroups⟩

end StoreBridge
