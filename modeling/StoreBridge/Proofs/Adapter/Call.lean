import StoreBridge.Adapter.Basic

/-!
# Calls as functions of the state

A call is applied to a state and gives an answer with a state. The lemmas here say what each way of
putting calls together does to a state, so that a call can be followed step by step:
`Call.bind_of_ok` and `Call.bind_of_error` for a sequence, and one equation for each primitive.

`Call.Preserves` is the frame of a call: what `f` reads of the state is the same after it, whatever
it answers. It is put together along the call.

A transaction that cannot begin does nothing else (`Adapter.transaction_of_refused`); otherwise its
work runs, and what follows is `Adapter.settle`, which depends on the answer of the work only
(`Adapter.transaction_of_begun`).
-/

namespace StoreBridge

namespace Call

variable {σ τ α β : Type} {s s' : σ} {a : α} {e : DbError} {c : Call σ α} {k : α → Call σ β}

@[simp] theorem get_apply (s : σ) : (get : Call σ σ) s = (.ok s, s) := rfl

@[simp] theorem modify_apply (f : σ → σ) (s : σ) : (modify f : Call σ PUnit) s = (.ok ⟨⟩, f s) :=
  rfl

@[simp] theorem ofExcept_apply (r : Except DbError α) (s : σ) : ofExcept r s = (r, s) := rfl

/-- A call whose failure is looked at and not passed on. -/
@[simp] theorem lift_run_apply (c : Call σ α) (s : σ) :
    (ExceptT.lift c.run : Call σ (Except DbError α)) s = (.ok (c s).1, (c s).2) := rfl

/-- A sequence goes on with the answer of its first call. -/
theorem bind_apply (c : Call σ α) (k : α → Call σ β) (s : σ) :
    (c >>= k) s = ExceptT.bindCont k (c s).1 (c s).2 := rfl

theorem bind_of_ok (h : c s = (.ok a, s')) : (c >>= k) s = k a s' := by
  rw [bind_apply, h]
  rfl

theorem bind_of_error (h : c s = (.error e, s')) : (c >>= k) s = (.error e, s') := by
  rw [bind_apply, h]
  rfl

/-- **A sequence that answers.** Both of its calls do. -/
theorem bind_eq_ok {b : β} (h : (c >>= k) s = (.ok b, s')) :
    ∃ a mid, c s = (.ok a, mid) ∧ k a mid = (.ok b, s') := by
  rw [bind_apply] at h
  rcases hc : c s with ⟨e | a, mid⟩
  · rw [hc] at h
    have hanswer : ((.error e, mid) : Except DbError β × σ) = (.ok b, s') := h
    exact absurd (Prod.mk.inj hanswer).1 (by simp)
  · rw [hc] at h
    exact ⟨a, mid, rfl, h⟩

/-- **A sequence that fails.** One of its calls does. -/
theorem bind_eq_error (h : (c >>= k) s = (.error e, s')) :
    c s = (.error e, s') ∨ ∃ a mid, c s = (.ok a, mid) ∧ k a mid = (.error e, s') := by
  rw [bind_apply] at h
  rcases hc : c s with ⟨e' | a, mid⟩
  · rw [hc] at h
    have hanswer : ((.error e', mid) : Except DbError β × σ) = (.error e, s') := h
    obtain ⟨he, rfl⟩ := Prod.mk.inj hanswer
    exact .inl (by rw [Except.error.inj he])
  · rw [hc] at h
    exact .inr ⟨a, mid, rfl, h⟩

/-- A call whose answer is dropped. -/
theorem discard_snd (c : Call σ α) (s : σ) : ((discard c : Call σ PUnit) s).2 = (c s).2 := by
  rcases h : c s with ⟨e | a, s'⟩
  · rw [show (discard c : Call σ PUnit) s = _ from bind_of_error h]
  · rw [show (discard c : Call σ PUnit) s = _ from bind_of_ok h]
    rfl

/-- A call that is put together without a failure of its own. -/
theorem mk_bind_of_eq {x : StateM σ β} {f : β → StateM σ (Except DbError α)} {b : β}
    (h : x s = (b, s')) : (ExceptT.mk (x >>= f) : Call σ α) s = f b s' := by
  change f (x s).1 (x s).2 = f b s'
  rw [h]

/-! ### What a call leaves alone -/

/-- What `f` reads of the state is the same after the call, whatever it answers. -/
def Preserves (f : σ → τ) (c : Call σ α) : Prop :=
  ∀ s, f (c s).2 = f s

variable {f : σ → τ}

/-- A call that preserves something leaves it as it was, whatever it answers. -/
theorem Preserves.eq_of_apply {answer : Except DbError α} (hc : c.Preserves f)
    (h : c s = (answer, s')) : f s' = f s := by
  rw [← hc s, h]

theorem preserves_ofExcept (r : Except DbError α) : (ofExcept r : Call σ α).Preserves f :=
  fun _ => rfl

theorem preserves_throw (e : DbError) : (throw e : Call σ α).Preserves f :=
  fun _ => rfl

theorem preserves_get : (get : Call σ σ).Preserves f :=
  fun _ => rfl

theorem preserves_modify {g : σ → σ} (h : ∀ s, f (g s) = f s) :
    (modify g : Call σ PUnit).Preserves f :=
  h

/-- Two calls in a row preserve what both of them preserve. -/
theorem Preserves.bind (hc : c.Preserves f) (hk : ∀ a, (k a).Preserves f) :
    (c >>= k).Preserves f := by
  intro s
  rcases h : c s with ⟨e | a, s₁⟩
  · rw [bind_of_error h, ← hc s, h]
  · rw [bind_of_ok h, hk a s₁, ← hc s, h]

theorem Preserves.lift_run (hc : c.Preserves f) :
    Preserves f (ExceptT.lift c.run : Call σ (Except DbError α)) :=
  hc

end Call

namespace Adapter

variable {σ α : Type} {a : Adapter σ} {h : Handle} {work : Nat → Call σ α} {s s₁ s₂ : σ}

/-- The end of a transaction: by the answer of its work it is committed or rolled back, and a
failure of that replaces the answer. -/
def settle (a : Adapter σ) (n : Nat) : Except DbError α → Call σ α
  | .ok value => do
    a.commit n
    return value
  | .error e => do
    a.rollback n
    throw e

/-- A transaction that is refused at its beginning is over, and its work has not been run. -/
theorem transaction_of_refused {e : DbError} (hbegin : a.begin h s = (.error e, s₁)) :
    a.transaction h work s = (.error e, s₁) :=
  Call.mk_bind_of_eq hbegin

/-- **A transaction that begins.** Its work runs, and it ends by the answer of the work. -/
theorem transaction_of_begun {n : Nat} {answer : Except DbError α}
    (hbegin : a.begin h s = (.ok n, s₁)) (hwork : work n s₁ = (answer, s₂)) :
    a.transaction h work s = a.settle n answer s₂ := by
  refine (Call.mk_bind_of_eq hbegin).trans ((Call.mk_bind_of_eq hwork).trans ?_)
  -- An answer is committed and a failure rolled back. Either end can fail, and then its failure is
  -- the one that is answered.
  cases answer with
  | ok value =>
    rcases hend : a.commit n s₂ with ⟨e | u, s₃⟩
    · exact (Call.mk_bind_of_eq hend).trans (Call.bind_of_error hend).symm
    · have hsettle : a.settle n (.ok value) s₂ = (.ok value, s₃) := Call.bind_of_ok hend
      rw [hsettle]
      exact Call.mk_bind_of_eq hend
  | error e =>
    rcases hend : a.rollback n s₂ with ⟨e' | u, s₃⟩
    · exact (Call.mk_bind_of_eq hend).trans (Call.bind_of_error hend).symm
    · have hsettle : a.settle n (.error e : Except DbError α) s₂ = (.error e, s₃) :=
        Call.bind_of_ok hend
      rw [hsettle]
      exact Call.mk_bind_of_eq hend

end Adapter

end StoreBridge
