import StoreBridge.Proofs.Mongo.Failure
import StoreBridge.Proofs.Query.Actions

/-!
# From a chain on a collection to the action that runs

The action of a compiled chain is looked for three times: when the chain is compiled, to refuse one
without an action; when the operation names its action; and when it runs. All three find the first
action in the order of `Action.all` (`compile_collection_exactly`), and so the refusal of an
operation without an action is never met by what was compiled.

That refusal is the only one of its kind. What a store reads of a request may be an invalid query,
and what it sends may fail at the driver, but no part of an operation is unsupported
(`DocumentServer.Runs.supported`).
-/

namespace StoreBridge

/-! ### Calls that support what they are asked for -/

/-- No failure of the call says that something is unsupported. -/
def Call.Supported {σ α : Type} (c : Call σ α) : Prop :=
  ∀ s e s', c s = (.error e, s') → ∀ operation reason, e ≠ .unsupported operation reason

namespace Call.Supported

variable {σ α β : Type} {c : Call σ α} {k : α → Call σ β}

/-- Two supported calls in a row. -/
theorem bind (hc : Supported c) (hk : ∀ a, Supported (k a)) : Supported (c >>= k) := by
  intro s e s' hcall
  rcases Call.bind_eq_error hcall with hfirst | ⟨a, mid, -, hrest⟩
  · exact hc s e s' hfirst
  · exact hk a mid e s' hrest

/-- What is read of a request fails as an invalid query. -/
theorem ofExcept {x : Except DbError α} (h : InvalidOnly x) :
    Supported (Call.ofExcept x : Call σ α) := by
  intro s e s' hcall
  obtain ⟨fault, rfl⟩ := h e (Prod.mk.inj hcall).1
  exact nofun

/-- What the driver is asked for fails as the driver does. -/
theorem of_driven {b : Backend} {lifecycle : σ → Lifecycle} (hc : c.Driven b lifecycle) :
    Supported c := by
  intro s e s' hcall
  cases hc.fails s e s' hcall <;> exact nofun

end Call.Supported

/-- An object that makes no document is an invalid query. -/
theorem InvalidOnly.ofMembers (ms : Members) : InvalidOnly (Document.ofMembers ms) := by
  unfold Document.ofMembers
  split
  · exact ok _
  · exact error _
  · exact error _

/-- A stage that is no object, or none that makes a document, is an invalid query. -/
theorem InvalidOnly.stage (value : Json) : InvalidOnly (DocumentServer.stage value) := by
  cases value with
  | object ms => exact ofMembers ms
  | null | bool | int | double | string | array => exact error _

/-! ### The action that runs -/

namespace DocumentServer

variable {ς : Type} (server : DocumentServer ς) (h : Handle) (r : DocumentRequest)

/-- The call that runs an action with the part of the operation that is set for it. -/
inductive Runs : Action → Call (MongoStore ς) Output → Prop
  | find {filter : Members} (hset : r.operation.find = some filter) :
    Runs .find (server.runFind h r filter)
  | insert {rows : List Members} (hset : r.operation.insert = some rows) :
    Runs .insert (server.runInsert h r rows)
  | update {u : DocumentUpdate} (hset : r.operation.update = some u) :
    Runs .update (server.runUpdate h r u)
  | delete {filter : Members} (hset : r.operation.delete = some filter) :
    Runs .delete (server.runDelete h r filter)
  | aggregate {stages : List Json} (hset : r.operation.aggregate = some stages) :
    Runs .aggregate (server.runAggregate h r stages)

variable {server h r} {a : Action} {c : Call (MongoStore ς) Output}

/-- **The action that an operation names is the one that runs.** -/
theorem runs_of_action? (ha : r.operation.action? = some a) :
    server.Runs h r a (server.runOperation h r) := by
  -- The fields are looked at in the order of the actions, and the first one that is set decides.
  obtain ⟨collection, find, insert, update, delete, aggregate, projection, sort, limit⟩ := r
  rcases find with _ | filter
  · rcases insert with _ | rows
    · rcases update with _ | u
      · rcases delete with _ | filter
        · rcases aggregate with _ | stages
          · exact absurd ha nofun
          · obtain rfl := Option.some.inj ha
            exact .aggregate rfl
        · obtain rfl := Option.some.inj ha
          exact .delete rfl
      · obtain rfl := Option.some.inj ha
        exact .update rfl
    · obtain rfl := Option.some.inj ha
      exact .insert rfl
  · obtain rfl := Option.some.inj ha
    exact .find rfl

/-- An action that runs supports what it is asked for. -/
theorem Runs.supported (hruns : server.Runs h r a c) : c.Supported := by
  -- Sending never fails as unsupported, and what comes before it only converts.
  have hsend : ∀ (command : DocumentCommand) (answer : DocumentReply → Output),
      Call.Supported (server.sendOn h command >>= fun reply => pure (answer reply)) := by
    intro command answer
    exact .bind (.of_driven (server.sendOn_driven h command)) fun reply => .ofExcept (.ok _)
  cases hruns with
  | find hset => exact .bind (.ofExcept (.ofMembers _)) fun _ => hsend _ _
  | insert hset =>
    unfold runInsert
    refine .bind (.ofExcept (.mapM .ofMembers _)) fun documents => ?_
    split
    · exact .ofExcept (.ok _)
    · have hidentify := Call.Driven.mapM server.identify_driven documents
      exact .bind (.of_driven hidentify) fun _ => hsend _ _
  | update hset =>
    unfold runUpdate
    refine .bind (.ofExcept (.ofMembers _)) fun filter => ?_
    refine .bind (.ofExcept (.ofMembers _)) fun changes => ?_
    dsimp only
    split
    · exact .of_driven (.throw (failure_ofDriver _) : Call.Driven _ MongoStore.lifecycle _)
    · exact hsend _ _
  | delete hset => exact .bind (.ofExcept (.ofMembers _)) fun _ => hsend _ _
  | aggregate hset => exact .bind (.ofExcept (.mapM .stage _)) fun _ => hsend _ _

end DocumentServer

/-- **A chain on a collection, from its steps to the action that runs.** A malformed step anywhere
makes the chain an invalid query. Without one, a chain without an action is an empty query, and
every other chain compiles to the operation that its steps ask for. The operation names the first
action of the chain, this is the one that runs on any server, and it is not refused for having no
action. -/
theorem compile_collection_exactly {s : Schema} (hs : s.kind = .document) (ops : List Operation) :
    ((∃ fault, compile s ops = .error (.invalidQuery fault)) ↔ ∃ op ∈ ops, op.Malformed) ∧
    ((∀ op ∈ ops, ¬ op.Malformed) →
      (compile s ops = .error (.emptyQuery s.name) ↔ ∀ op ∈ ops, op.action? = none) ∧
      ((∃ op ∈ ops, op.action? ≠ none) → ∃ r a,
        compile s ops = .ok (.document r) ∧ r.collection = s.name ∧ r.operation.AsksFor ops ∧
        firstAction? ops = some a ∧ r.operation.action? = some a ∧ r.operation.isEmpty = false ∧
        ∀ {ς : Type} (server : DocumentServer ς) (h : Handle),
          server.Runs h r a (server.runOperation h r) ∧
          ∀ state, (server.runOperation h r state).1 ≠ .error (.unsupported "document operation"
            "no find, insert, update, delete or aggregate action was set"))) := by
  refine ⟨⟨?_, compile_of_malformed hs⟩, fun hfits => ?_⟩
  · rintro ⟨fault, hfault⟩
    by_contra hnone
    push Not at hnone
    -- A chain without malformed steps fails as an empty query, if at all.
    rw [compile_of_fits hs hnone] at hfault
    split at hfault
    · exact absurd hfault nofun
    · exact absurd hfault nofun
  · -- Without malformed steps the chain compiles as soon as it has an action.
    have hcompile := compile_of_fits hs hfits
    have hasks := DocumentDraft.reading_asksFor ops
    refine ⟨?_, fun haction => ?_⟩
    · rw [hcompile, ← firstAction?_eq_none_iff]
      split
      · next hnone => exact iff_of_true rfl hnone
      · next hsome => exact iff_of_false nofun hsome
    · have hsome : firstAction? ops ≠ none := by
        rw [Ne, firstAction?_eq_none_iff]
        push Not
        exact haction
      obtain ⟨a, ha⟩ := Option.ne_none_iff_exists'.mp hsome
      have hnames := (hasks.action?_eq hfits).trans ha
      have hnonempty : (DocumentDraft.reading ops).operation.isEmpty = false := by
        rw [← Bool.not_eq_true, DocumentOperation.isEmpty_iff_action?_eq_none, hnames]
        exact nofun
      rw [if_neg hsome] at hcompile
      refine ⟨_, a, hcompile, rfl, hasks, ha, hnames, hnonempty, fun server h => ?_⟩
      have hruns : server.Runs h ⟨s.name, (DocumentDraft.reading ops).operation⟩ a _ :=
        DocumentServer.runs_of_action? hnames
      -- An action that runs is never refused as unsupported, so not for having none either.
      refine ⟨hruns, fun state herror => ?_⟩
      exact hruns.supported state _ _ (Prod.ext herror rfl) _ _ rfl

/-- A chain that mixes three actions, with filters in front, between and behind them. -/
def mixedChain : List Operation :=
  [.filter (.object [("age", .int 1)]), .delete, .update (.object [("age", .int 2)]),
    .filter (.object [("town", .string "Ulm")]), .aggregate (.array []), .limit 5,
    .update (.object [("age", .int 3)]), .orderBy "age" .desc, .filter (.object [("age", .int 4)])]

/-- It names the update and runs it, with the last changes; a step that a later one replaces still
makes it an invalid query if it is malformed. -/
theorem mixedChain_compile_exactly :
    readers.kind = .document ∧ (∀ op ∈ mixedChain, ¬ op.Malformed) ∧
      (∃ op ∈ mixedChain, op.action? ≠ none) ∧
      (∃ r, compile readers mixedChain = .ok (.document r) ∧ r.operation.action? = some .update ∧
        r.operation.update = some ⟨[("age", .int 4), ("town", .string "Ulm")], [("age", .int 3)]⟩ ∧
        r.operation.delete = some [("age", .int 4), ("town", .string "Ulm")]) ∧
      ∃ fault, compile readers (.insert .null :: .insert (.array []) :: mixedChain)
        = .error (.invalidQuery fault) := by
  have hfits : ∀ op ∈ mixedChain, ¬ op.Malformed := by
    simp only [← Operation.fitsCollection_iff]
    simp [mixedChain, Operation.FitsCollection]
  have haction : ∃ op ∈ mixedChain, op.action? ≠ none :=
    ⟨.delete, by simp [mixedChain], by decide⟩
  obtain ⟨-, hchain⟩ := compile_collection_exactly (s := readers) rfl mixedChain
  obtain ⟨r, a, hcompile, -, hasks, hfirst, hnames, -⟩ := (hchain hfits).2 haction
  obtain rfl : Action.update = a := Option.some.inj hfirst
  refine ⟨rfl, hfits, haction, ⟨r, hcompile, hnames, hasks.update, hasks.delete⟩, ?_⟩
  obtain ⟨hinvalid, -⟩ := compile_collection_exactly (s := readers) rfl
    (.insert .null :: .insert (.array []) :: mixedChain)
  -- A null is no row and no list of rows.
  have hnull : ∀ rows, ¬ IsRows .null rows := by
    rintro rows ⟨⟩
  exact hinvalid.mpr ⟨.insert .null, List.mem_cons_self, .insert hnull⟩

end StoreBridge
