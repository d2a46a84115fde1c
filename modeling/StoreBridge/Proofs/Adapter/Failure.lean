import StoreBridge.Adapter.Lifecycle
import StoreBridge.Proofs.Adapter.Call

/-!
# How calls fail

A call fails in one of two ways. It is refused while the driver has not been asked for anything: for
what the request is, on a closed adapter, or on an ended transaction (`DbError.Refusal`). Or the
driver was asked, and the failure is the driver's (`DbError.OfDriver`).

A call is `Call.Orderly` if a refusal leaves the state as it was. What makes it so is the order of
its parts: checks come first (`Call.Checks`), and from the first exchange on only the driver fails
(`Call.Driven`). Both are put together along the call, and `Call.Checks.bind` joins them.

All three say as well that the adapter is neither opened nor closed.
-/

namespace StoreBridge

/-! ### Failures -/

namespace DbError

/-- Why a call is refused on an adapter before the driver is asked. -/
inductive Refusal (l : Lifecycle) : DbError → Prop
  | compile {e : DbError} (h : e.isCompileError = true) : Refusal l e
  | closed (h : l.closed = true) : Refusal l (disconnected l.backend)
  | inactive (id : String) : Refusal l (inactive id)

/-- The failures of the driver of a backend. -/
inductive OfDriver (b : Backend) : DbError → Prop
  | failed (source : DriverError) : OfDriver b (.backend b source)
  | unreachable (text : String) : OfDriver b (connectError b text)

variable {l : Lifecycle} {b : Backend} {e : DbError}

theorem OfDriver.isCompileError_eq (h : e.OfDriver b) : e.isCompileError = false := by
  cases h <;> rfl

/-- A store that cannot be reached is told from a closed adapter by its text. -/
theorem connectError_ne_disconnected (b : Backend) (text : String) (b' : Backend) :
    connectError b text ≠ disconnected b' := by
  intro heq
  have hdetail :
      "Failed to connect: " ++ text = b'.displayName ++ " adapter has been disconnected" :=
    (DbError.connection.inj heq).1
  have hchars := congrArg (fun t => t.toList.head?) hdetail
  -- No backend has a name that begins with the letter F.
  cases b' <;> simp [Backend.displayName, String.toList_append] at hchars

/-- A failure of the driver is never that of a disconnected adapter, whose text is its own. -/
theorem OfDriver.ne_disconnected (h : e.OfDriver b) (b' : Backend) : e ≠ disconnected b' := by
  cases h with
  | failed source => exact nofun
  | unreachable text => exact connectError_ne_disconnected b text b'

/-- A failure of the server is one of the driver, as it is passed on. -/
theorem OfDriver.of_mapError {α : Type} {failure : DriverError → DbError} {x : Except DriverError α}
    (hf : ∀ source, (failure source).OfDriver b) (h : x.mapError failure = .error e) :
    e.OfDriver b := by
  cases x with
  | error source =>
    rw [← Except.error.inj h]
    exact hf source
  | ok a => exact absurd h nofun

/-- An open adapter does not refuse a call for being closed. -/
theorem Refusal.ne_disconnected (h : e.Refusal l) (hopen : l.closed = false) (b' : Backend) :
    e ≠ disconnected b' := by
  cases h with
  | compile hcompile =>
    rintro rfl
    exact absurd hcompile Bool.false_ne_true
  | closed hclosed => exact absurd hclosed (by rw [hopen]; decide)
  | inactive id => exact nofun

end DbError

/-- What a closed adapter answers is a refusal. -/
theorem Lifecycle.refusal_of_ensureOpen {l : Lifecycle} {e : DbError}
    (h : l.ensureOpen = .error e) : e.Refusal l := by
  unfold Lifecycle.ensureOpen at h
  split at h
  case isTrue hclosed =>
    rw [← Except.error.inj h]
    exact .closed hclosed
  case isFalse => exact absurd h nofun

/-! ### Checks and exchanges -/

namespace Call

variable {σ α β : Type}

/-- The call changes nothing, and a failure of it is a refusal. -/
structure Checks (lifecycle : σ → Lifecycle) (c : Call σ α) : Prop where
  unchanged : ∀ s, (c s).2 = s
  fails : ∀ s e s', c s = (.error e, s') → e.Refusal (lifecycle s)

/-- Nothing but the driver fails. -/
structure Driven (b : Backend) (lifecycle : σ → Lifecycle) (c : Call σ α) : Prop where
  keeps : c.Preserves lifecycle
  fails : ∀ s e s', c s = (.error e, s') → e.OfDriver b

/-- A failure of the call is a refusal that leaves everything as it was, or one of the driver. -/
structure Orderly (b : Backend) (lifecycle : σ → Lifecycle) (c : Call σ α) : Prop where
  keeps : c.Preserves lifecycle
  fails : ∀ s e s', c s = (.error e, s') → (e.Refusal (lifecycle s) ∧ s' = s) ∨ e.OfDriver b

variable {b : Backend} {lifecycle : σ → Lifecycle} {c : Call σ α} {k : α → Call σ β}

/-- A check of the request alone fails with a compile error. -/
theorem Checks.ofExcept {r : Except DbError α} (h : ∀ e, r = .error e → e.isCompileError = true) :
    Checks lifecycle (Call.ofExcept r : Call σ α) where
  unchanged _ := rfl
  fails _ e _ hcall := .compile (h e (Prod.mk.inj hcall).1)

theorem Checks.pure (a : α) : Checks lifecycle (Call.ofExcept (.ok a) : Call σ α) :=
  .ofExcept nofun

theorem Checks.throw {e : DbError} (h : e.isCompileError = true) :
    Checks lifecycle (throw e : Call σ α) where
  unchanged _ := rfl
  fails s e' s' hcall := by
    have he : e = e' := Except.error.inj (Prod.mk.inj hcall).1
    rw [← he]
    exact .compile h

theorem Checks.get : Checks lifecycle (get : Call σ σ) :=
  ⟨fun _ => rfl, fun _ _ _ hcall => absurd (Prod.mk.inj hcall).1 nofun⟩

/-- The check whether something has ended. -/
theorem Checks.of_ended {ended : σ → Bool} {t : σ → Transaction} {a : σ → α}
    (h : ∀ s, c s = (if ended s then .error (t s).inactive else .ok (a s), s)) :
    Checks lifecycle c where
  unchanged s := by rw [h s]
  fails s e s' hcall := by
    have hanswer := (Prod.mk.inj ((h s).symm.trans hcall)).1
    split at hanswer
    · rw [← Except.error.inj hanswer]
      exact .inactive _
    · exact absurd hanswer nofun

/-- A check is orderly, since it changes nothing. -/
theorem Checks.orderly (hc : Checks lifecycle c) : Orderly b lifecycle c where
  keeps s := by rw [hc.unchanged s]
  fails s e s' hcall := by
    have hstate : s' = s := by rw [← hc.unchanged s, hcall]
    exact .inl ⟨hc.fails s e s' hcall, hstate⟩

theorem Driven.orderly (hc : Driven b lifecycle c) : Orderly b lifecycle c :=
  ⟨hc.keeps, fun s e s' hcall => .inr (hc.fails s e s' hcall)⟩

/-- The state after a check that answers is the state before it. -/
theorem Checks.eq_of_ok (hc : Checks lifecycle c) {s s' : σ} {a : α} (h : c s = (.ok a, s')) :
    s' = s := by
  rw [← hc.unchanged s, h]

/-- **Checks come first.** What follows a check starts in the state that the check was made in. -/
theorem Checks.bind (hc : Checks lifecycle c) (hk : ∀ a, Orderly b lifecycle (k a)) :
    Orderly b lifecycle (c >>= k) where
  keeps := (hc.orderly (b := b)).keeps.bind fun a => (hk a).keeps
  fails s e s' hcall := by
    rcases bind_eq_error hcall with hcheck | ⟨a, mid, hcheck, hrest⟩
    · exact hc.orderly.fails s e s' hcheck
    · -- The state has not changed so far, so a refusal now is one that leaves it as it was.
      obtain rfl := hc.eq_of_ok hcheck
      exact (hk a).fails mid e s' hrest

/-- Checks one after the other are a check. -/
theorem Checks.andThen (hc : Checks lifecycle c) (hk : ∀ a, Checks lifecycle (k a)) :
    Checks lifecycle (c >>= k) where
  unchanged s := by
    -- A check that passes has left the state as it was, so the second one starts from the same.
    rcases hcheck : c s with ⟨e | a, mid⟩
    · rw [bind_of_error hcheck, ← hc.unchanged s, hcheck]
    · obtain rfl := hc.eq_of_ok hcheck
      rw [bind_of_ok hcheck, (hk a).unchanged]
  fails s e s' hcall := by
    rcases bind_eq_error hcall with hcheck | ⟨a, mid, hcheck, hrest⟩
    · exact hc.fails s e s' hcheck
    · obtain rfl := hc.eq_of_ok hcheck
      exact (hk a).fails mid e s' hrest

/-- A call whose answer is dropped. -/
theorem Orderly.discard (hc : Orderly b lifecycle c) :
    Orderly b lifecycle (discard c : Call σ PUnit) where
  keeps s := by rw [discard_snd, hc.keeps]
  fails s e s' hcall := by
    rcases bind_eq_error hcall with hfirst | ⟨a, mid, -, hrest⟩
    · exact hc.fails s e s' hfirst
    · exact absurd (Prod.mk.inj hrest).1 nofun

/-- An answer that is a failure of the driver, or none. -/
theorem Driven.ofExcept {r : Except DbError α} (h : ∀ e, r = .error e → e.OfDriver b) :
    Driven b lifecycle (Call.ofExcept r : Call σ α) :=
  ⟨preserves_ofExcept r, fun _ e _ hcall => h e (Prod.mk.inj hcall).1⟩

theorem Driven.pure (a : α) : Driven b lifecycle (Call.ofExcept (.ok a) : Call σ α) :=
  .ofExcept nofun

theorem Driven.throw {e : DbError} (h : e.OfDriver b) :
    Driven b lifecycle (throw e : Call σ α) where
  keeps := preserves_throw e
  fails s e' s' hcall := by
    have he : e = e' := Except.error.inj (Prod.mk.inj hcall).1
    rw [← he]
    exact h

theorem Driven.modify {g : σ → σ} (h : ∀ s, lifecycle (g s) = lifecycle s) :
    Driven b lifecycle (modify g : Call σ PUnit) :=
  ⟨preserves_modify h, fun _ _ _ hcall => absurd (Prod.mk.inj hcall).1 nofun⟩

/-- Which call it is may depend on the state. -/
theorem Driven.of_eq (h : ∀ s, ∃ c' : Call σ α, Driven b lifecycle c' ∧ c s = c' s) :
    Driven b lifecycle c where
  keeps s := by
    obtain ⟨c', hc', heq⟩ := h s
    rw [heq, hc'.keeps]
  fails s e s' hcall := by
    obtain ⟨c', hc', heq⟩ := h s
    exact hc'.fails s e s' (heq.symm.trans hcall)

/-- Calls that fail as the driver says may follow each other. -/
theorem Driven.bind (hc : Driven b lifecycle c) (hk : ∀ a, Driven b lifecycle (k a)) :
    Driven b lifecycle (c >>= k) where
  keeps := hc.keeps.bind fun a => (hk a).keeps
  fails s e s' hcall := by
    rcases bind_eq_error hcall with hfirst | ⟨a, mid, -, hrest⟩
    · exact hc.fails s e s' hfirst
    · exact (hk a).fails mid e s' hrest

/-- What follows an orderly call only fails by the driver. -/
theorem Orderly.andThen (hc : Orderly b lifecycle c) (hk : ∀ a, Driven b lifecycle (k a)) :
    Orderly b lifecycle (c >>= k) where
  keeps := hc.keeps.bind fun a => (hk a).keeps
  fails s e s' hcall := by
    rcases bind_eq_error hcall with hfirst | ⟨a, mid, -, hrest⟩
    · exact hc.fails s e s' hfirst
    · exact .inr ((hk a).fails mid e s' hrest)

/-- A failure that is looked at is still one of the driver, and may be passed on later. -/
theorem Driven.lift_bind {k : Except DbError α → Call σ β} (hc : Driven b lifecycle c)
    (hk : ∀ answer, (∀ e, answer = .error e → e.OfDriver b) → Driven b lifecycle (k answer)) :
    Driven b lifecycle (ExceptT.lift c.run >>= k) := by
  have hanswer : ∀ s e, (c s).1 = .error e → e.OfDriver b := by
    intro s e herror
    exact hc.fails s e (c s).2 (Prod.ext herror rfl)
  -- What follows is only asked about answers that the call can give.
  refine ⟨fun s => ?_, fun s e s' hcall => ?_⟩
  · rw [bind_of_ok (lift_run_apply c s), (hk _ (hanswer s)).keeps, hc.keeps]
  · rw [bind_of_ok (lift_run_apply c s)] at hcall
    exact (hk _ (hanswer s)).fails _ e s' hcall

/-- A call that fails as the driver says may be made for each item of a list. -/
theorem Driven.mapM {f : β → Call σ α} (hf : ∀ x, Driven b lifecycle (f x)) (xs : List β) :
    Driven b lifecycle (xs.mapM f) := by
  induction xs with
  | nil => exact .pure []
  | cons x xs ih =>
    rw [List.mapM_cons]
    exact (hf x).bind fun a => ih.bind fun as => .pure (a :: as)

section Consequences

variable {s s' : σ} {e : DbError} (hc : Orderly b lifecycle c) (hcall : c s = (.error e, s'))

include hc hcall

/-- **A compile error leaves no trace.** -/
theorem Orderly.eq_of_isCompileError (he : e.isCompileError = true) : s' = s := by
  rcases hc.fails s e s' hcall with ⟨-, hstate⟩ | hdriver
  · exact hstate
  · exact absurd he (by rw [hdriver.isCompileError_eq]; decide)

/-- An open adapter does not fail as a closed one. -/
theorem Orderly.ne_disconnected (hopen : (lifecycle s).closed = false) (b' : Backend) :
    e ≠ DbError.disconnected b' := by
  rcases hc.fails s e s' hcall with ⟨hrefusal, -⟩ | hdriver
  · exact hrefusal.ne_disconnected hopen b'
  · exact hdriver.ne_disconnected b'

end Consequences

end Call

/-- All calls that use the adapter are orderly, on every handle. -/
structure Adapter.Orderly {σ : Type} (a : Adapter σ) (lifecycle : σ → Lifecycle) : Prop where
  connect : a.connect.Orderly a.backend lifecycle
  execute : ∀ h r, (a.execute h r).Orderly a.backend lifecycle
  begin : ∀ h, (a.begin h).Orderly a.backend lifecycle

end StoreBridge
