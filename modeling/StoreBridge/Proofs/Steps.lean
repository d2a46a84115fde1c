import StoreBridge.Adapter.Basic

/-!
# Steps that change a state and may fail

A call of a store, the work of a connection and a change to a table are all steps of one kind: each
is applied to a state, and gives an answer or a failure with a state. `step_of_ok` and
`step_of_error` follow a sequence of them.

`StepMaintains` is an invariant of a step. The state after a failure counts too, since a store lives
on after a call that failed.
-/

namespace StoreBridge

variable {ε σ α β : Type} {c : ExceptT ε (StateM σ) α} {k : α → ExceptT ε (StateM σ) β} {s s' : σ}

/-- A sequence goes on with the answer of its first step. -/
theorem step_of_ok {a : α} (h : c s = (.ok a, s')) : (c >>= k) s = k a s' := by
  change ExceptT.bindCont k (c s).1 (c s).2 = _
  rw [h]
  rfl

/-- A sequence ends with a step that fails. -/
theorem step_of_error {e : ε} (h : c s = (.error e, s')) : (c >>= k) s = (.error e, s') := by
  change ExceptT.bindCont k (c s).1 (c s).2 = _
  rw [h]
  rfl

/-- What holds of the state before the step holds after it, whatever it answers. -/
def StepMaintains (I : σ → Prop) (c : ExceptT ε (StateM σ) α) : Prop :=
  ∀ s, I s → I (c s).2

namespace StepMaintains

variable {I : σ → Prop}

theorem get : StepMaintains I (get : ExceptT ε (StateM σ) σ) := fun _ h => h

theorem pure (a : α) : StepMaintains I (pure a : ExceptT ε (StateM σ) α) := fun _ h => h

theorem throw (e : ε) : StepMaintains I (throw e : ExceptT ε (StateM σ) α) := fun _ h => h

/-- A change that keeps the invariant. -/
theorem modify {f : σ → σ} (h : ∀ s, I s → I (f s)) :
    StepMaintains I (modify f : ExceptT ε (StateM σ) PUnit) :=
  h

/-- A step after a step that keeps the invariant. -/
theorem bind (hc : StepMaintains I c) (hk : ∀ a, StepMaintains I (k a)) :
    StepMaintains I (c >>= k) := by
  intro s hs
  have hfirst := hc s hs
  rcases h : c s with ⟨e | a, mid⟩
  · rw [step_of_error h]
    rwa [h] at hfirst
  · rw [step_of_ok h]
    rw [h] at hfirst
    exact hk a mid hfirst

theorem ofExcept (r : Except DbError α) : StepMaintains I (Call.ofExcept r : Call σ α) :=
  fun _ h => h

/-- A step whose failure is looked at and not passed on. -/
theorem lift_run (hc : StepMaintains I c) :
    StepMaintains I (ExceptT.lift c.run : ExceptT ε (StateM σ) (Except ε α)) :=
  hc

end StepMaintains

end StoreBridge
