import StoreBridge.Proofs.Query.Faults
import StoreBridge.Proofs.Query.Filter

/-!
# Which actions a chain on a collection asks for

A step of a chain may be an action, and a chain may hold several of different kinds. A step is
`Operation.Malformed` if its payload has the wrong form, and this is all that can be wrong with a
chain that has an action: `DocumentDraft.exists_ofChain_ok_iff` and `InvalidOnly.ofChain` say so,
and they say it of every step, whether or not a later one replaces it.

What a chain without malformed steps asks for is read off its steps part by part
(`DocumentOperation.AsksFor`). The parts are gathered by three different rules, the first step of a
kind, the last one, and all of them; what they have in common is that a part is set exactly if a
step of its kind is in the chain (`filterMap_ne_nil_iff`). So the operation has the actions of its
chain, and the one that comes first in the order of `Action.all` is the one that it names
(`DocumentDraft.action?_reading`).
-/

namespace StoreBridge

/-! ### Actions and malformed steps -/

/-- The actions in the order in which they are looked for. -/
def Action.all : List Action :=
  [.find, .insert, .update, .delete, .aggregate]

namespace Operation

/-- The action that a step asks for. -/
def action? : Operation → Option Action
  | .select _ => some .find
  | .insert _ => some .insert
  | .update _ => some .update
  | .delete => some .delete
  | .aggregate _ => some .aggregate
  | .filter _ | .limit _ | .orderBy _ _ => none

/-- Whether a step adds conditions. -/
def isFilter : Operation → Bool
  | .filter _ => true
  | _ => false

/-- A step whose payload has the wrong form for a collection: conditions or changes that are no
object, an insert that has no rows, and stages that are no array. -/
inductive Malformed : Operation → Prop
  | filter {conditions : Json} (h : ∀ members, conditions ≠ .object members) :
    Malformed (.filter conditions)
  | update {changes : Json} (h : ∀ members, changes ≠ .object members) : Malformed (.update changes)
  | insert {data : Json} (h : ∀ rows, ¬ IsRows data rows) : Malformed (.insert data)
  | aggregate {stages : Json} (h : ∀ items, stages ≠ .array items) : Malformed (.aggregate stages)

/-- A step is accepted exactly if it is not malformed. -/
theorem fitsCollection_iff (op : Operation) : op.FitsCollection ↔ ¬ op.Malformed := by
  constructor
  · -- Each way to be malformed denies the very payload that is there.
    rintro hfits (⟨h⟩ | ⟨h⟩ | ⟨h⟩ | ⟨h⟩)
    · obtain ⟨members, rfl⟩ := hfits
      exact h members rfl
    · obtain ⟨members, rfl⟩ := hfits
      exact h members rfl
    · obtain ⟨rows, hrows⟩ := hfits
      exact h rows (insertRows_eq_ok_iff.mp hrows)
    · obtain ⟨items, rfl⟩ := hfits
      exact h items rfl
  · intro h
    -- Four steps have a payload that can be wrong; the others fit always.
    cases op with
    | filter conditions =>
      by_contra hfits
      exact h (.filter fun members heq => hfits ⟨members, heq⟩)
    | update changes =>
      by_contra hfits
      exact h (.update fun members heq => hfits ⟨members, heq⟩)
    | insert data =>
      by_contra hfits
      exact h (.insert fun rows hrows => hfits ⟨rows, insertRows_eq_ok_iff.mpr hrows⟩)
    | aggregate stages =>
      by_contra hfits
      exact h (.aggregate fun items heq => hfits ⟨items, heq⟩)
    | select _ | delete | limit _ | orderBy _ _ => trivial

end Operation

/-- The actions of a chain, step by step. -/
def chainActions (ops : List Operation) : List Action :=
  ops.filterMap Operation.action?

/-- The action of a chain that comes first in the order of all actions. -/
def firstAction? (ops : List Operation) : Option Action :=
  Action.all.find? fun a => a ∈ chainActions ops

/-- The filter of a chain. Nothing but the steps that add conditions has a part in it. -/
def chainFilter (ops : List Operation) : Members :=
  Members.ofPairs (chainConditions (ops.filter Operation.isFilter))

/-- The filter of a chain is written from all its conditions in their order. -/
theorem chainFilter_eq (ops : List Operation) :
    chainFilter ops = Members.ofPairs (chainConditions ops) := by
  have hothers : ∀ op : Operation, op.isFilter = false → op.conditions = [] := by
    intro op hop
    cases op with
    | filter conditions => exact absurd hop nofun
    | _ => rfl
  rw [chainFilter, chainConditions, flatMap_filter hothers, chainConditions]

section Actions

variable {ops : List Operation} {a : Action}

/-- **A part is set** exactly if a step of its kind is in the chain, if these are the steps that it
is gathered from. -/
theorem filterMap_ne_nil_iff {β : Type} {f : Operation → Option β}
    (hf : ∀ op ∈ ops, (f op).isSome = true ↔ op.action? = some a) :
    ops.filterMap f ≠ [] ↔ a ∈ chainActions ops := by
  rw [Ne, List.filterMap_eq_nil_iff, chainActions, List.mem_filterMap]
  push Not
  refine exists_congr fun op => and_congr_right fun hop => ?_
  rw [← hf op hop, Option.isSome_iff_ne_none]

/-- A chain has no action exactly if none of its steps is one. -/
theorem firstAction?_eq_none_iff : firstAction? ops = none ↔ ∀ op ∈ ops, op.action? = none := by
  -- The search goes over all actions there are.
  have hall : ∀ a : Action, a ∈ Action.all := by
    intro a
    cases a <;> decide
  rw [firstAction?, List.find?_eq_none]
  constructor
  · intro h op hop
    by_contra haction
    obtain ⟨a, ha⟩ := Option.ne_none_iff_exists'.mp haction
    exact h a (hall a) (decide_eq_true (List.mem_filterMap.mpr ⟨op, hop, ha⟩))
  · intro h a _ hmem
    obtain ⟨op, hop, ha⟩ := List.mem_filterMap.mp (of_decide_eq_true hmem)
    rw [h op hop] at ha
    exact absurd ha nofun

end Actions

/-! ### What a chain asks for -/

/-- **What a chain on a collection asks for**, part by part. Find, update and delete share the
filter of the chain. The first select gives the projection, unless it names no fields; the last
insert, update, aggregation and limit count; and every term of the order does. -/
structure DocumentOperation.AsksFor (op : DocumentOperation) (ops : List Operation) : Prop where
  find : op.find = if .find ∈ chainActions ops then some (chainFilter ops) else none
  update : op.update =
    (ops.filterMap Operation.changes?).getLast?.map fun changes => ⟨chainFilter ops, changes⟩
  delete : op.delete = if .delete ∈ chainActions ops then some (chainFilter ops) else none
  insert : op.insert = (ops.filterMap Operation.rows?).getLast?
  aggregate : op.aggregate = (ops.filterMap Operation.stages?).getLast?
  limit : op.limit = (ops.filterMap Operation.limit?).getLast?
  projection : op.projection =
    (ops.filterMap Operation.selected?).head?.join.filter fun fields => !fields.isEmpty
  sort : op.sort = ops.filterMap Operation.orderTerm?

namespace DocumentDraft

variable {ops : List Operation}

/-- A draft is made exactly if every step can be taken, wherever it stands. -/
theorem exists_ofChain_ok_iff (ops : List Operation) :
    (∃ d, ofChain ops = .ok d) ↔ ∀ op ∈ ops, ¬ op.Malformed := by
  simp only [← Operation.fitsCollection_iff]
  exact exists_foldlM_ok_iff exists_add_ok_iff {} ops

end DocumentDraft

/-- A run over a list fails with invalid queries only if every step does. -/
theorem InvalidOnly.foldlM {α β : Type} {f : β → α → Except DbError β}
    (hf : ∀ b a, InvalidOnly (f b a)) (b : β) (xs : List α) : InvalidOnly (xs.foldlM f b) := by
  induction xs generalizing b with
  | nil => exact .ok b
  | cons x xs ih =>
    rw [List.foldlM_cons]
    exact (hf b x).bind fun b' => ih b'

/-- Reading a chain fails as an invalid query only, since every one of its steps does. -/
theorem InvalidOnly.ofChain (ops : List Operation) : InvalidOnly (DocumentDraft.ofChain ops) := by
  refine InvalidOnly.foldlM (fun d op => ?_) ({} : DocumentDraft) ops
  cases op with
  | filter conditions => exact (objectPayload "where" conditions).bind fun _ => ok _
  | update changes => exact (objectPayload "update" changes).bind fun _ => ok _
  | insert data => exact (insertRows data).bind fun _ => ok _
  | aggregate stages =>
    cases stages with
    | array items => exact ok _
    | null | bool | int | double | string | object => exact error _
  | select _ | delete | limit _ | orderBy _ _ => exact ok _

namespace DocumentDraft

variable {ops : List Operation}

/-- The find and the delete are set by any step of their kind. -/
theorem selected_ne_nil_iff (ops : List Operation) :
    ops.filterMap Operation.selected? ≠ [] ↔ .find ∈ chainActions ops :=
  filterMap_ne_nil_iff fun op _ => by cases op <;> simp [Operation.selected?, Operation.action?]

/-- Whether a chain deletes can be read off its actions. -/
theorem any_deletes_iff (ops : List Operation) :
    ops.any Operation.deletes = true ↔ .delete ∈ chainActions ops := by
  rw [List.any_eq_true, chainActions, List.mem_filterMap]
  refine exists_congr fun op => and_congr_right fun _ => ?_
  cases op <;> simp [Operation.deletes, Operation.action?]

/-- **The operation of a chain** is what its steps ask for. -/
theorem reading_asksFor (ops : List Operation) : (reading ops).operation.AsksFor ops where
  find := by
    -- A select is remembered by its columns, which are there also if it names none.
    have hselected := selected_ne_nil_iff ops
    change (ops.filterMap Operation.selected?).head?.map _ = _
    cases h : ops.filterMap Operation.selected? with
    | nil =>
      rw [h] at hselected
      rw [if_neg fun hmem => hselected.mpr hmem rfl]
      rfl
    | cons columns rest =>
      rw [h] at hselected
      rw [if_pos (hselected.mp (List.cons_ne_nil _ _)), chainFilter_eq]
      rfl
  update := by
    rw [chainFilter_eq]
    rfl
  delete := by
    change (if ops.any Operation.deletes = true then _ else _) = _
    rw [chainFilter_eq]
    exact if_congr (any_deletes_iff ops) rfl rfl
  insert := rfl
  aggregate := rfl
  limit := rfl
  projection := rfl
  sort := rfl

end DocumentDraft

/-! ### The action of an operation -/

namespace DocumentOperation

/-- Whether the part of an action is set. -/
def has (op : DocumentOperation) : Action → Bool
  | .find => op.find.isSome
  | .insert => op.insert.isSome
  | .update => op.update.isSome
  | .delete => op.delete.isSome
  | .aggregate => op.aggregate.isSome

/-- The action that an operation names is the first of all that is set. -/
theorem action?_eq_find? (op : DocumentOperation) : op.action? = Action.all.find? op.has := by
  obtain ⟨find, insert, update, delete, aggregate, _, _, _⟩ := op
  cases find <;> cases insert <;> cases update <;> cases delete <;> cases aggregate <;> rfl

variable {op : DocumentOperation} {ops : List Operation}

/-- **The actions of an operation** are those of the chain that asks for it. -/
theorem AsksFor.has_iff (h : op.AsksFor ops) (hfits : ∀ step ∈ ops, ¬ step.Malformed) (a : Action) :
    op.has a = true ↔ a ∈ chainActions ops := by
  -- Three of the actions are set by their last step, if the chain has one.
  have hlast : ∀ {β : Type} (f : Operation → Option β),
      (∀ step ∈ ops, (f step).isSome = true ↔ step.action? = some a) →
      ((ops.filterMap f).getLast?.isSome = true ↔ a ∈ chainActions ops) := by
    intro β f hf
    rw [← filterMap_ne_nil_iff hf, Option.isSome_iff_ne_none, Ne, List.getLast?_eq_none_iff]
  cases a with
  | find =>
    rw [has, h.find]
    exact Option.isSome_ite
  | delete =>
    rw [has, h.delete]
    exact Option.isSome_ite
  | insert =>
    rw [has, h.insert]
    exact hlast _ fun step _ => by cases step <;> simp [Operation.rows?, Operation.action?]
  | update =>
    rw [has, h.update, Option.isSome_map]
    exact hlast _ fun step _ => by cases step <;> simp [Operation.changes?, Operation.action?]
  | aggregate =>
    rw [has, h.aggregate]
    refine hlast _ fun step hstep => ?_
    have hwell := (Operation.fitsCollection_iff step).mpr (hfits step hstep)
    cases step with
    | aggregate stages =>
      -- A step that aggregates has stages because it is not malformed.
      obtain ⟨items, rfl⟩ := hwell
      exact iff_of_true rfl rfl
    | _ => exact iff_of_false nofun nofun

/-- **The action that an operation names** is the first one of its chain. -/
theorem AsksFor.action?_eq (h : op.AsksFor ops) (hfits : ∀ step ∈ ops, ¬ step.Malformed) :
    op.action? = firstAction? ops := by
  have hhas : op.has = fun a => decide (a ∈ chainActions ops) :=
    funext fun a => Bool.eq_iff_iff.mpr ((h.has_iff hfits a).trans decide_eq_true_iff.symm)
  rw [action?_eq_find?, hhas, firstAction?]

/-- An operation asks for nothing exactly if the chain has no action. -/
theorem AsksFor.isEmpty_iff (h : op.AsksFor ops) (hfits : ∀ step ∈ ops, ¬ step.Malformed) :
    op.isEmpty = true ↔ ∀ step ∈ ops, step.action? = none := by
  rw [isEmpty_iff_action?_eq_none, h.action?_eq hfits, firstAction?_eq_none_iff]

end DocumentOperation

/-! ### When a chain compiles -/

section Compile

variable {s : Schema} {ops : List Operation}

/-- A chain with a malformed step is an invalid query. -/
theorem compile_of_malformed (hs : s.kind = .document) (h : ∃ op ∈ ops, op.Malformed) :
    ∃ fault, compile s ops = .error (.invalidQuery fault) := by
  -- The chain is not read to its end, and reading fails as an invalid query only.
  cases hchain : DocumentDraft.ofChain ops with
  | ok d =>
    obtain ⟨op, hop, hmalformed⟩ := h
    exact absurd hmalformed ((DocumentDraft.exists_ofChain_ok_iff ops).mp ⟨d, hchain⟩ op hop)
  | error e =>
    obtain ⟨fault, rfl⟩ := InvalidOnly.ofChain ops e hchain
    refine ⟨fault, ?_⟩
    unfold compile
    rw [hs]
    change (compileDocument s ops).map Request.document = _
    rw [compileDocument, hchain]
    rfl

/-- A chain without malformed steps is an empty query, or compiles to the operation that it asks
for. -/
theorem compile_of_fits (hs : s.kind = .document) (hfits : ∀ op ∈ ops, ¬ op.Malformed) :
    compile s ops = if firstAction? ops = none then .error (.emptyQuery s.name)
      else .ok (.document ⟨s.name, (DocumentDraft.reading ops).operation⟩) := by
  obtain ⟨d, hchain⟩ := (DocumentDraft.exists_ofChain_ok_iff ops).mpr hfits
  obtain rfl := DocumentDraft.ofChain_eq_ok hchain
  -- Whether the operation is empty is read off the actions of the chain.
  have hempty := (DocumentDraft.reading_asksFor ops).isEmpty_iff hfits
  rw [← firstAction?_eq_none_iff] at hempty
  unfold compile
  rw [hs]
  change (compileDocument s ops).map Request.document = _
  rw [compileDocument, hchain]
  change (if (DocumentDraft.reading ops).operation.isEmpty = true then _ else _ :
    Except DbError DocumentRequest).map Request.document = _
  rw [apply_ite (Except.map Request.document)]
  exact if_congr hempty rfl rfl

end Compile

end StoreBridge
