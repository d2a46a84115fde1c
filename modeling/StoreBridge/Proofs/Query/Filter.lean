import StoreBridge.Proofs.Query.Collection

/-!
# The filter of a compiled chain

Find, update and delete of a compiled operation share one filter, written from the conditions of all
filters of the chain (`filter_of_compile`). Of several values that the chain asks of one key only
the last is kept, so the filter never excludes a document that satisfies all conditions, and it is
their conjunction exactly when no key is asked to have two values: `compile_filter_meets`. In a
chain that asks for two, a further filter can widen the selection (`ageTwice_widens`).
-/

namespace StoreBridge

/-- The filters of an operation, one for each of find, update and delete that is set. -/
def DocumentOperation.filters (op : DocumentOperation) : List Members :=
  op.find.toList ++ (op.update.map DocumentUpdate.filter).toList ++ op.delete.toList

/-- Every filter of a draft's operation is the filter of the draft. -/
theorem DocumentDraft.eq_filter_of_mem {d : DocumentDraft} {filter : Members}
    (h : filter ∈ d.operation.filters) : filter = d.filter := by
  simp only [DocumentOperation.filters, DocumentDraft.operation, List.mem_append, Option.mem_toList,
    Option.map_eq_some_iff, Option.ite_none_right_eq_some] at h
  rcases h with (⟨_, -, heq⟩ | ⟨_, ⟨_, -, rfl⟩, heq⟩) | ⟨-, heq⟩
  · exact heq.symm
  · exact heq.symm
  · exact (Option.some.inj heq).symm

variable {s : Schema} {ops : List Operation} {r : DocumentRequest} {filter : Members}

/-- A document meets the conditions of a chain if it meets those of each step. -/
theorem meets_chainConditions_iff (document : Members) (ops : List Operation) :
    document.Meets (chainConditions ops) ↔ ∀ op ∈ ops, document.Meets op.conditions := by
  constructor
  · intro h op hop p hp
    exact h p (List.mem_flatMap.mpr ⟨op, hop, hp⟩)
  · intro h p hp
    obtain ⟨op, hop, hp⟩ := List.mem_flatMap.mp hp
    exact h op hop p hp

/-- **One filter.** Every filter of a compiled operation is written from all conditions of the
chain. -/
theorem filter_of_compile (h : compile s ops = .ok (.document r))
    (hfilter : filter ∈ r.operation.filters) :
    filter = Members.ofPairs (chainConditions ops) := by
  obtain rfl := compile_eq_ok_document h
  exact DocumentDraft.eq_filter_of_mem hfilter

/-- **What a compiled filter selects.** A document meets it if it has, for every key that the chain
gives a condition for, the value of the last one. A document that meets every filter of the chain is
selected. These are the only ones selected exactly when no key is asked to have two values, and as
long as that holds of a longer chain, the longer chain selects no more. -/
theorem compile_filter_meets (h : compile s ops = .ok (.document r))
    (hfilter : filter ∈ r.operation.filters) :
    (∀ document : Members, document.Meets filter ↔
      ∀ key value, Members.lastValue? (chainConditions ops) key = some value →
        document.get? key = some value) ∧
    (∀ document : Members, (∀ op ∈ ops, document.Meets op.conditions) → document.Meets filter) ∧
    ((∀ document : Members, document.Meets filter ↔ ∀ op ∈ ops, document.Meets op.conditions) ↔
      (chainConditions ops).Consistent) ∧
    ∀ longer r' filter', ops.Sublist longer → compile s longer = .ok (.document r') →
      filter' ∈ r'.operation.filters → (chainConditions longer).Consistent →
        ∀ document : Members, document.Meets filter' → document.Meets filter := by
  obtain rfl := filter_of_compile h hfilter
  refine ⟨fun document => Members.meets_ofPairs_iff document _, ?_, ?_, ?_⟩
  · -- Meeting all conditions is meeting the last one for each key among others.
    intro document hmeets
    rw [← meets_chainConditions_iff] at hmeets
    exact hmeets.ofPairs
  · simp only [← meets_chainConditions_iff]
    exact Members.meets_ofPairs_iff_forall _
  · intro longer r' filter' hsub hlonger hfilter' hconsistent document hmeets
    obtain rfl := filter_of_compile hlonger hfilter'
    -- The longer chain asks for all of its conditions, and so for those of the shorter one.
    have hall : ∀ op ∈ longer, document.Meets op.conditions :=
      (meets_chainConditions_iff document longer).mp (hconsistent.meets hmeets)
    have hsome : document.Meets (chainConditions ops) :=
      (meets_chainConditions_iff document ops).mpr fun op hop => hall op (hsub.subset hop)
    exact hsome.ofPairs

/-- A collection without declared fields. -/
def readers : Schema :=
  ⟨"readers", .document, []⟩

/-- Deletes the readers of one age in one town. -/
def dropReaders : List Operation :=
  [.filter (.object [("age", .int 1)]), .delete, .filter (.object [("town", .string "Ulm")])]

/-- The compiled form of `dropReaders`. -/
def dropReadersRequest : DocumentRequest where
  collection := "readers"
  operation :=
    { DocumentOperation.empty with delete := some [("age", .int 1), ("town", .string "Ulm")] }

/-- The filter of a delete that stands between two filters is made of both. -/
theorem dropReaders_filter_meets :
    compile readers dropReaders = .ok (.document dropReadersRequest) ∧
      ((∀ document : Members, document.Meets [("age", .int 1), ("town", .string "Ulm")] ↔
          ∀ op ∈ dropReaders, document.Meets op.conditions) ↔
        (chainConditions dropReaders).Consistent) := by
  have hcompile : compile readers dropReaders = .ok (.document dropReadersRequest) := rfl
  exact ⟨hcompile, (compile_filter_meets hcompile (List.mem_singleton.mpr rfl)).2.2.1⟩

/-- Finds the readers that satisfy two filters on one key. -/
def ageTwice : List Operation :=
  [.select none, .filter (.object [("age", .int 1)]), .filter (.object [("age", .int 2)])]

/-- **A filter that widens.** A second condition for a key replaces the first, so a reader whom the
first filter excludes is found once the second filter is added. -/
theorem ageTwice_widens :
    ∃ r r' : DocumentRequest, ∃ filter filter' document : Members,
      compile readers (ageTwice.take 2) = .ok (.document r) ∧ r.operation.find = some filter ∧
      compile readers ageTwice = .ok (.document r') ∧ r'.operation.find = some filter' ∧
      document.Meets filter' ∧ ¬ document.Meets filter ∧
      ¬ ∀ op ∈ ageTwice, document.Meets op.conditions := by
  -- A reader of age two meets the second condition, which is all that is left.
  refine ⟨_, _, _, _, [("age", .int 2)], rfl, rfl, rfl, rfl, ?_, ?_, ?_⟩
  · exact Members.meets_self (List.nodup_cons.mpr ⟨by simp, List.nodup_nil⟩)
  · intro h
    exact absurd (h ("age", .int 1) List.mem_cons_self) (by decide)
  · intro h
    have hfirst := h (.filter (.object [("age", .int 1)])) (by simp [ageTwice])
    exact absurd (hfirst ("age", .int 1) List.mem_cons_self) (by decide)

end StoreBridge
