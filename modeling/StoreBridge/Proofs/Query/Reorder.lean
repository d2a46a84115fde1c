import Mathlib.Data.List.Perm.Basic
import StoreBridge.Proofs.Query.Collection

/-!
# Where the order of a chain matters

The steps of a chain fall into classes: filters, terms of the order, limits, selects, aggregations,
and the steps that write. On a table an insert, an update and a delete compete for one statement and
are one class; on a collection each of them is a class of its own. Two chains that have the steps of
every class in the same order (`SameOrder`) are permutations of each other, and they compile to the
same request or not at all (`compile_order_within_classes`).

Two facts carry the proof, on tables as on collections:

* a step is accepted or refused for its own payload, whatever came before it
  (`exists_foldlM_ok_iff`), so that the order of a chain does not decide whether it is accepted;
* each part of what a chain asks for is read off the steps of a single class
  (`SameOrder.flatMap_eq`, `SameOrder.filterMap_eq`).

Only the failure may be another one: of several steps that are refused, the first one is reported.
-/

namespace StoreBridge

/-- The classes of steps. -/
inductive OperationClass where
  | filter
  | select
  | order
  | limit
  /-- An insert, an update or a delete on a table. -/
  | write
  | insert
  | update
  | delete
  | aggregate
  deriving DecidableEq

/-- The class of a step on a table. The last step that writes decides the statement. -/
def Operation.tableClass : Operation → OperationClass
  | .filter _ => .filter
  | .select _ => .select
  | .insert _ | .update _ | .delete => .write
  | .limit _ => .limit
  | .orderBy _ _ => .order
  | .aggregate _ => .aggregate

/-- The class of a step on a collection. A request may hold several actions. -/
def Operation.collectionClass : Operation → OperationClass
  | .filter _ => .filter
  | .select _ => .select
  | .insert _ => .insert
  | .update _ => .update
  | .delete => .delete
  | .limit _ => .limit
  | .orderBy _ _ => .order
  | .aggregate _ => .aggregate

/-- The class of a step by the kind of the schema. -/
def Schema.classOf (s : Schema) : Operation → OperationClass :=
  match s.kind with
  | .tabular => Operation.tableClass
  | .document => Operation.collectionClass

/-- **One order within each class.** Of every class the two chains have the same steps in the same
order; steps of different classes may stand in any order. -/
def SameOrder (classOf : Operation → OperationClass) (ops ops' : List Operation) : Prop :=
  ∀ c, ops.filter (fun op => classOf op = c) = ops'.filter (fun op => classOf op = c)

/-! ### What is read off one class -/

section Lists

variable {α β : Type}

/-- Items that give nothing may be left out. -/
theorem flatMap_filter {p : α → Bool} {f : α → List β} (hp : ∀ a, p a = false → f a = [])
    (xs : List α) : (xs.filter p).flatMap f = xs.flatMap f := by
  induction xs with
  | nil => rfl
  | cons x xs ih =>
    cases hx : p x with
    | true => rw [List.filter_cons_of_pos hx, List.flatMap_cons, List.flatMap_cons, ih]
    | false =>
      rw [List.filter_cons_of_neg (by simp [hx]), List.flatMap_cons, hp x hx, ih, List.nil_append]

end Lists

namespace SameOrder

variable {classOf : Operation → OperationClass} {ops ops' : List Operation} {β : Type}

/-- The chains are permutations of each other. -/
theorem perm (h : SameOrder classOf ops ops') : ops.Perm ops' := by
  rw [List.perm_iff_count]
  intro op
  -- A step is found among those of its own class.
  have hcount : ∀ chain : List Operation,
      (chain.filter fun x => classOf x = classOf op).count op = chain.count op :=
    fun chain => List.count_filter (by simp)
  rw [← hcount ops, ← hcount ops', h]

/-- What one class of steps gives, in order, is the same for both. -/
theorem flatMap_eq (h : SameOrder classOf ops ops') {f : Operation → List β} (c : OperationClass)
    (hf : ∀ op, classOf op ≠ c → f op = []) : ops.flatMap f = ops'.flatMap f := by
  have hp : ∀ op, decide (classOf op = c) = false → f op = [] :=
    fun op hop => hf op (of_decide_eq_false hop)
  rw [← flatMap_filter hp ops, ← flatMap_filter hp ops', h c]

/-- **What is read off one class of steps** is the same in both chains. -/
theorem filterMap_eq (h : SameOrder classOf ops ops') {f : Operation → Option β}
    (c : OperationClass)
    (hf : ∀ op, classOf op ≠ c → f op = none) : ops.filterMap f = ops'.filterMap f := by
  rw [List.filterMap_eq_flatMap_toList, List.filterMap_eq_flatMap_toList]
  refine h.flatMap_eq c fun op hop => ?_
  rw [hf op hop]
  rfl

/-- A condition that every step has to satisfy holds of both or of neither. -/
theorem forall_iff (h : SameOrder classOf ops ops') (P : Operation → Prop) :
    (∀ op ∈ ops, P op) ↔ ∀ op ∈ ops', P op :=
  forall_congr' fun _ => imp_congr_left h.perm.mem_iff

end SameOrder

/-- The class on a table of the steps of a class on a collection. -/
def OperationClass.onTable : OperationClass → OperationClass
  | .insert | .update | .delete => .write
  | c => c

theorem Operation.tableClass_eq (op : Operation) : op.tableClass = op.collectionClass.onTable := by
  cases op <;> rfl

namespace SameOrder

variable {ops ops' : List Operation}

/-- The classes on a table are larger, so they keep more of the order. -/
theorem onCollection (h : SameOrder Operation.tableClass ops ops') :
    SameOrder Operation.collectionClass ops ops' := by
  intro c
  -- The steps of a class on a collection are among those of one class on a table.
  have hwithin : ∀ chain : List Operation,
      (chain.filter fun op => op.tableClass = c.onTable).filter (fun op => op.collectionClass = c)
        = chain.filter fun op => op.collectionClass = c := by
    intro chain
    rw [List.filter_filter]
    refine List.filter_congr fun op _ => ?_
    by_cases hop : op.collectionClass = c
    · simp [hop, op.tableClass_eq]
    · simp [hop]
  rw [← hwithin ops, ← hwithin ops', h]

section Parts

variable (h : SameOrder Operation.collectionClass ops ops')

include h

/-! The parts that a table and a collection have in common. -/

theorem conditions_eq : ops.flatMap Operation.conditions = ops'.flatMap Operation.conditions :=
  h.flatMap_eq .filter fun op hop => by cases op <;> first | rfl | exact absurd rfl hop

theorem selected_eq : ops.filterMap Operation.selected? = ops'.filterMap Operation.selected? :=
  h.filterMap_eq .select fun op hop => by cases op <;> first | rfl | exact absurd rfl hop

theorem order_eq : ops.filterMap Operation.orderTerm? = ops'.filterMap Operation.orderTerm? :=
  h.filterMap_eq .order fun op hop => by cases op <;> first | rfl | exact absurd rfl hop

theorem limit_eq : ops.filterMap Operation.limit? = ops'.filterMap Operation.limit? :=
  h.filterMap_eq .limit fun op hop => by cases op <;> first | rfl | exact absurd rfl hop

end Parts

end SameOrder

/-! ### What is accepted -/

/-- Two compilations of one request, or two that fail. -/
def SameOutcome {α : Type} (x x' : Except DbError α) : Prop :=
  (∃ a, x = .ok a ∧ x' = .ok a) ∨ ∃ e e', x = .error e ∧ x' = .error e'

namespace SameOutcome

variable {α β : Type} {x x' : Except DbError α}

theorem of_eq (h : x = x') : SameOutcome x x' := by
  subst h
  cases x with
  | ok a => exact .inl ⟨a, rfl, rfl⟩
  | error e => exact .inr ⟨e, e, rfl, rfl⟩

/-- Answers with the same outcome keep it under a function. -/
theorem map (h : SameOutcome x x') (f : α → β) : SameOutcome (x.map f) (x'.map f) := by
  obtain ⟨a, rfl, rfl⟩ | ⟨e, e', rfl, rfl⟩ := h
  · exact .inl ⟨f a, rfl, rfl⟩
  · exact .inr ⟨e, e', rfl, rfl⟩

/-- If what comes first has the same outcome, so has the whole. -/
theorem bind (h : SameOutcome x x') (f : α → Except DbError β) :
    SameOutcome (x >>= f) (x' >>= f) := by
  obtain ⟨a, rfl, rfl⟩ | ⟨e, e', rfl, rfl⟩ := h
  · exact of_eq rfl
  · exact .inr ⟨e, e', rfl, rfl⟩

/-- Runs that succeed together, and then with the same answer, have the same outcome. -/
theorem of_ok_iff {P : Prop} {a a' : α} (hx : (∃ b, x = .ok b) ↔ P) (hx' : (∃ b, x' = .ok b) ↔ P)
    (ha : ∀ b, x = .ok b → b = a) (ha' : ∀ b, x' = .ok b → b = a') (heq : a = a') :
    SameOutcome x x' := by
  subst heq
  -- If one run succeeds, the other one does too, and both answers are the same by assumption.
  cases x with
  | ok b =>
    obtain ⟨b', rfl⟩ := hx'.mpr (hx.mp ⟨b, rfl⟩)
    exact .inl ⟨a, by rw [ha b rfl], by rw [ha' b' rfl]⟩
  | error e =>
    cases x' with
    | ok b' =>
      obtain ⟨b, hb⟩ := hx.mpr (hx'.mp ⟨b', rfl⟩)
      exact absurd hb nofun
    | error e' => exact .inr ⟨e, e', rfl, rfl⟩

end SameOutcome

variable {ops ops' : List Operation}

/-! ### Tables -/

/-- A step that is accepted on a table: conditions are an object, fields of the order are
identifiers, and there is no aggregation. -/
def Operation.FitsTable : Operation → Prop
  | .filter conditions => ∃ members, conditions = .object members
  | .orderBy field _ => isIdentifier field = true
  | .aggregate _ => False
  | .select _ | .insert _ | .update _ | .delete | .limit _ => True

/-- A step is taken into a draft exactly if it fits a table. -/
theorem Draft.exists_add_ok_iff (table : String) (d : Draft) (op : Operation) :
    (∃ d', d.add table op = .ok d') ↔ op.FitsTable := by
  cases op with
  | filter conditions =>
    refine (exists_bind_pure_ok_iff _).trans ?_
    simp only [objectPayload_eq_ok, Operation.FitsTable]
  | orderBy field direction =>
    refine (exists_bind_pure_ok_iff _).trans ?_
    simp only [identifier_eq_ok, exists_eq_left, Operation.FitsTable]
  | aggregate stages => simp [Draft.add, Operation.FitsTable]
  | select _ | insert _ | update _ | delete | limit _ => exact iff_of_true ⟨_, rfl⟩ trivial

/-- What a chain on a table asks for is made of one class of steps each. -/
theorem Draft.reading_congr (h : SameOrder Operation.tableClass ops ops') :
    Draft.reading ops = Draft.reading ops' := by
  have hwrite : ops.filterMap Operation.write? = ops'.filterMap Operation.write? :=
    h.filterMap_eq .write fun op hop => by cases op <;> first | rfl | exact absurd rfl hop
  have hparts := h.onCollection
  rw [Draft.reading, Draft.reading, hwrite, hparts.selected_eq, hparts.conditions_eq,
    hparts.order_eq, hparts.limit_eq]

/-- The plan for a table is made from what the classes say. -/
theorem planTabular_sameOutcome (s : Schema) (h : SameOrder Operation.tableClass ops ops') :
    SameOutcome (planTabular s ops) (planTabular s ops') := by
  have hfits := exists_foldlM_ok_iff (Draft.exists_add_ok_iff s.name) {} ops
  have hfits' := exists_foldlM_ok_iff (Draft.exists_add_ok_iff s.name) {} ops'
  -- The same steps have to fit in both chains.
  rw [← h.forall_iff] at hfits'
  have hchain : SameOutcome (Draft.ofChain s.name ops) (Draft.ofChain s.name ops') :=
    .of_ok_iff hfits hfits' (fun _ hd => (Draft.ofChain_eq_ok hd).1)
      (fun _ hd => (Draft.ofChain_eq_ok hd).1) (Draft.reading_congr h)
  exact hchain.bind _

/-! ### Collections -/

/-- A step that is accepted on a collection: conditions and changes are objects, an insert has rows,
and the stages of an aggregation are an array. -/
def Operation.FitsCollection : Operation → Prop
  | .filter conditions => ∃ members, conditions = .object members
  | .insert data => ∃ rows, insertRows data = .ok rows
  | .update data => ∃ members, data = .object members
  | .aggregate stages => ∃ items, stages = .array items
  | .select _ | .delete | .limit _ | .orderBy _ _ => True

/-- A step is taken into a draft for a collection exactly if it fits one. -/
theorem DocumentDraft.exists_add_ok_iff (d : DocumentDraft) (op : Operation) :
    (∃ d', d.add op = .ok d') ↔ op.FitsCollection := by
  cases op with
  | filter conditions =>
    refine (exists_bind_pure_ok_iff _).trans ?_
    simp only [objectPayload_eq_ok, Operation.FitsCollection]
  | update data =>
    refine (exists_bind_pure_ok_iff _).trans ?_
    simp only [objectPayload_eq_ok, Operation.FitsCollection]
  | insert data => exact exists_bind_pure_ok_iff _
  | aggregate stages => cases stages <;> simp [DocumentDraft.add, Operation.FitsCollection]
  | select _ | delete | limit _ | orderBy _ _ => exact iff_of_true ⟨_, rfl⟩ trivial

/-- So is what a chain on a collection asks for. -/
theorem DocumentDraft.reading_congr (h : SameOrder Operation.collectionClass ops ops') :
    DocumentDraft.reading ops = DocumentDraft.reading ops' := by
  -- Each field is gathered from the steps of one class, whose order has been kept.
  have hrows : ops.filterMap Operation.rows? = ops'.filterMap Operation.rows? :=
    h.filterMap_eq .insert fun op hop => by cases op <;> first | rfl | exact absurd rfl hop
  have hchanges : ops.filterMap Operation.changes? = ops'.filterMap Operation.changes? :=
    h.filterMap_eq .update fun op hop => by cases op <;> first | rfl | exact absurd rfl hop
  have hstages : ops.filterMap Operation.stages? = ops'.filterMap Operation.stages? :=
    h.filterMap_eq .aggregate fun op hop => by cases op <;> first | rfl | exact absurd rfl hop
  have hdelete : ops.any Operation.deletes = ops'.any Operation.deletes := h.perm.any_eq
  rw [DocumentDraft.reading, DocumentDraft.reading, chainConditions, chainConditions,
    h.conditions_eq, h.selected_eq, hrows, hchanges, hdelete, hstages, h.order_eq, h.limit_eq]

/-- The operation on a collection is made from what the classes say. -/
theorem compileDocument_sameOutcome (s : Schema)
    (h : SameOrder Operation.collectionClass ops ops') :
    SameOutcome (compileDocument s ops) (compileDocument s ops') := by
  have hfits := exists_foldlM_ok_iff DocumentDraft.exists_add_ok_iff {} ops
  have hfits' := exists_foldlM_ok_iff DocumentDraft.exists_add_ok_iff {} ops'
  rw [← h.forall_iff] at hfits'
  have hchain : SameOutcome (DocumentDraft.ofChain ops) (DocumentDraft.ofChain ops') :=
    .of_ok_iff hfits hfits' (fun _ hd => DocumentDraft.ofChain_eq_ok hd)
      (fun _ hd => DocumentDraft.ofChain_eq_ok hd) (DocumentDraft.reading_congr h)
  exact hchain.bind _

/-- **Only the order within each class matters.** Two chains that have the steps of every class in
the same order compile to the same request, or both of them fail. -/
theorem compile_order_within_classes (s : Schema) (h : SameOrder s.classOf ops ops') :
    (∃ r, compile s ops = .ok r ∧ compile s ops' = .ok r) ∨
      ∃ e e', compile s ops = .error e ∧ compile s ops' = .error e' := by
  unfold Schema.classOf at h
  unfold compile
  -- The classes are those of the kind of the schema.
  cases hkind : s.kind with
  | tabular =>
    rw [hkind] at h
    exact ((planTabular_sameOutcome s h).map _).map _
  | document =>
    rw [hkind] at h
    exact (compileDocument_sameOutcome s h).map _

/-- Changes the orders of a buyer, on a table. The delete does not count, as an update follows
it. -/
def settleOrders : List Operation :=
  [.filter (.object [("buyer", .int 7)]), .delete, .limit 9, .orderBy "placed" .asc,
    .update (.object [("paid", .bool true)]), .filter (.object [("paid", .bool false)]), .limit 5]

/-- The same with every class in one place. -/
def settleOrdersByClass : List Operation :=
  [.limit 9, .limit 5, .delete, .update (.object [("paid", .bool true)]), .orderBy "placed" .asc,
    .filter (.object [("buyer", .int 7)]), .filter (.object [("paid", .bool false)])]

/-- Two orders of the same steps, alike within each class, compile to one and the same update. -/
theorem settleOrders_order_within_classes :
    SameOrder (Schema.classOf ⟨"orders", .tabular, []⟩) settleOrders settleOrdersByClass ∧
      ∃ r, compile ⟨"orders", .tabular, []⟩ settleOrders = .ok r ∧
        compile ⟨"orders", .tabular, []⟩ settleOrdersByClass = .ok r := by
  have horder : SameOrder (Schema.classOf ⟨"orders", .tabular, []⟩) settleOrders
      settleOrdersByClass := by
    intro c
    cases c <;> rfl
  have hcompiles : ∃ r, compile ⟨"orders", .tabular, []⟩ settleOrders = .ok r := ⟨_, rfl⟩
  -- One of them compiles, so both do.
  refine ⟨horder, (compile_order_within_classes _ horder).resolve_right ?_⟩
  rintro ⟨e, e', hfails, -⟩
  obtain ⟨r, hr⟩ := hcompiles
  rw [hr] at hfails
  exact absurd hfails nofun

end StoreBridge
