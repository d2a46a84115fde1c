import StoreBridge.Proofs.Members
import StoreBridge.Proofs.Query.Chain

/-!
# What a chain on a collection asks for

A chain on a collection is gathered into a draft step by step. `DocumentDraft.reading` says the same
of the chain as a whole: all conditions written one after another into one filter, the first select,
the last insert, update, aggregation and limit, whether there is a delete, and the terms of the sort
from left to right. `DocumentDraft.ofChain_eq_ok` is the connection, and `compile_eq_ok_document`
says the same of a compiled request.
-/

namespace StoreBridge

namespace Operation

/-- The rows that a step inserts. -/
def rows? : Operation → Option (List Members)
  | .insert data => some (payloadRows data)
  | _ => none

/-- The changes that a step makes to documents. -/
def changes? : Operation → Option Members
  | .update data => some (payloadMembers data)
  | _ => none

/-- Whether a step deletes. -/
def deletes : Operation → Bool
  | .delete => true
  | _ => false

/-- The stages of the aggregation that a step is. -/
def stages? : Operation → Option (List Json)
  | .aggregate (.array stages) => some stages
  | _ => none

end Operation

/-- The conditions of a chain: the members of all its filters, from left to right. -/
def chainConditions (ops : List Operation) : Members :=
  ops.flatMap Operation.conditions

namespace DocumentDraft

/-- What a chain asks for, part by part. -/
def reading (ops : List Operation) : DocumentDraft where
  filter := Members.ofPairs (chainConditions ops)
  selected := (ops.filterMap Operation.selected?).head?
  insert := (ops.filterMap Operation.rows?).getLast?
  update := (ops.filterMap Operation.changes?).getLast?
  delete := ops.any Operation.deletes
  aggregate := (ops.filterMap Operation.stages?).getLast?
  sort := ops.filterMap Operation.orderTerm?
  limit := (ops.filterMap Operation.limit?).getLast?

variable {ops before : List Operation} {d : DocumentDraft}

/-- The reading of a chain with one more step. -/
theorem reading_concat (before : List Operation) (op : Operation) :
    reading (before ++ [op]) =
      { filter := (reading before).filter.setAll op.conditions
        selected := (reading before).selected.or op.selected?
        insert := op.rows?.or (reading before).insert
        update := op.changes?.or (reading before).update
        delete := (reading before).delete || op.deletes
        aggregate := op.stages?.or (reading before).aggregate
        sort := (reading before).sort ++ op.orderTerm?.toList
        limit := op.limit?.or (reading before).limit } := by
  have hlist : ∀ {γ : Type} (f : Operation → Option γ), [op].filterMap f = (f op).toList := by
    intro γ f
    cases h : f op <;> simp [h]
  simp only [reading, chainConditions, List.filterMap_append, hlist, List.flatMap_append,
    List.flatMap_singleton, Members.ofPairs_append, List.any_append, List.any_cons, List.any_nil,
    Bool.or_false, List.head?_append, List.getLast?_append]
  -- Of at most one more item, the first and the last is that item.
  have hhead : ∀ {γ : Type} (o : Option γ), o.toList.head? = o := by
    intro γ o
    cases o <;> rfl
  have hlast : ∀ {γ : Type} (o : Option γ), o.toList.getLast? = o := by
    intro γ o
    cases o <;> rfl
  simp only [hhead, hlast]

section Step

attribute [local simp] Operation.conditions Operation.selected? Operation.rows? Operation.changes?
  Operation.deletes Operation.stages? Operation.orderTerm? Operation.limit? payloadMembers
  Members.setAll

/-- **One step.** Taking a further operation gives the reading of the longer chain. -/
theorem add_reading_eq_ok {op : Operation} (h : (reading before).add op = .ok d) :
    d = reading (before ++ [op]) := by
  rw [reading_concat]
  -- The four steps with a payload are read, and for each the fields agree by computation.
  cases op with
  | filter conditions =>
    simp only [add, bind_eq_ok, pure_eq_ok, objectPayload_eq_ok] at h
    obtain ⟨members, rfl, rfl⟩ := h
    simp
  | insert data =>
    simp only [add, bind_eq_ok, pure_eq_ok] at h
    obtain ⟨rows, hrows, rfl⟩ := h
    simp [insertRows_eq_ok hrows]
  | update data =>
    simp only [add, bind_eq_ok, pure_eq_ok, objectPayload_eq_ok] at h
    obtain ⟨members, rfl, rfl⟩ := h
    simp
  | aggregate stages =>
    cases stages with
    | array stages =>
      obtain rfl := Except.ok.inj h
      simp
    | null | bool _ | int _ | double _ | string _ | object _ => exact absurd h (by simp [add])
  | select columns | delete | limit n | orderBy field direction =>
    obtain rfl := Except.ok.inj h
    simp

end Step

/-- All steps from a chain that has been read on. -/
private theorem foldlM_add_reading (before : List Operation)
    (h : ops.foldlM add (reading before) = .ok d) : d = reading (before ++ ops) := by
  -- On the steps that are left, behind those that were read.
  induction ops generalizing before with
  | nil =>
    rw [List.foldlM_nil, pure_eq_ok] at h
    rw [List.append_nil, h]
  | cons op ops ih =>
    rw [List.foldlM_cons, bind_eq_ok] at h
    obtain ⟨d₁, hstep, hrun⟩ := h
    obtain rfl := add_reading_eq_ok hstep
    rw [ih _ hrun, List.append_assoc, List.singleton_append]

/-- **A whole chain.** What the steps gather is the reading of the chain. -/
theorem ofChain_eq_ok (h : ofChain ops = .ok d) : d = reading ops :=
  foldlM_add_reading [] h

end DocumentDraft

variable {s : Schema} {ops : List Operation}

/-- **A compiled request** for a collection is the operation that its chain asks for. -/
theorem compile_eq_ok_document {r : DocumentRequest} (h : compile s ops = .ok (.document r)) :
    r = ⟨s.name, (DocumentDraft.reading ops).operation⟩ := by
  -- A request for documents comes from a schema of documents.
  have hcompile : compileDocument s ops = .ok r := by
    unfold compile at h
    split at h
    · cases ht : compileTabular s ops <;> simp [ht, Except.map] at h
    · cases hd : compileDocument s ops with
      | error e => simp [hd, Except.map] at h
      | ok r' => simpa [hd, Except.map] using h
  simp only [compileDocument, bind_eq_ok] at hcompile
  obtain ⟨d, hchain, hrequest⟩ := hcompile
  obtain rfl := DocumentDraft.ofChain_eq_ok hchain
  split at hrequest
  · exact absurd hrequest (by simp)
  · exact (pure_eq_ok.mp hrequest).symm

end StoreBridge
