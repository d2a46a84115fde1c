import Mathlib.Data.List.Forall2
import StoreBridge.Failure

/-!
# Chains of checks

A compilation is a chain of checks in `Except`. `bind_eq_ok` and `pure_eq_ok` take a chain that
succeeded apart, and `mapM_eq_ok` does the same for a check made on every item of a list, which
fails for one of the items (`mapM_eq_error`). Where the steps of a fold look at their own items
only, `exists_foldlM_ok_iff` says when the fold succeeds.

`Agree` compares two runs: they fail with the same error, or they succeed with related answers. It
is kept by every way in which a chain is put together (`Agree.bind`, `Agree.mapM`, `Agree.foldlM`).
-/

namespace StoreBridge

variable {ε α β : Type}

/-- A sequence succeeds exactly if its first part does and the rest does on what that found. -/
theorem bind_eq_ok {x : Except ε α} {f : α → Except ε β} {b : β} :
    (x >>= f) = .ok b ↔ ∃ a, x = .ok a ∧ f a = .ok b := by
  cases x with
  | error e => simp [bind, Except.bind]
  | ok a => simp [bind, Except.bind]

theorem pure_eq_ok {a b : α} : (pure a : Except ε α) = .ok b ↔ a = b := by
  simp [pure, Except.pure]

/-- A check of every item that succeeds answers with `g` of the items, all of which satisfy what one
successful check says. -/
theorem mapM_eq_ok {f : α → Except ε β} {g : α → β} {P : α → Prop}
    (hf : ∀ a b, f a = .ok b → b = g a ∧ P a) {xs : List α} {ys : List β}
    (h : xs.mapM f = .ok ys) : ys = xs.map g ∧ ∀ x ∈ xs, P x := by
  induction xs generalizing ys with
  | nil =>
    rw [List.mapM_nil, pure_eq_ok] at h
    subst h
    exact ⟨rfl, by simp⟩
  | cons x xs ih =>
    simp only [List.mapM_cons, bind_eq_ok, pure_eq_ok] at h
    -- The first item is checked, and then the others.
    obtain ⟨y, hy, zs, hzs, rfl⟩ := h
    obtain ⟨rfl, hx⟩ := hf x y hy
    obtain ⟨rfl, hxs⟩ := ih hzs
    refine ⟨rfl, fun z hz => ?_⟩
    rcases List.mem_cons.mp hz with rfl | hz
    · exact hx
    · exact hxs z hz

/-- A check of every item that fails does so as the check of one item does. -/
theorem mapM_eq_error {f : α → Except ε β} {xs : List α} {e : ε} (h : xs.mapM f = .error e) :
    ∃ x ∈ xs, f x = .error e := by
  induction xs with
  | nil => exact absurd h nofun
  | cons x xs ih =>
    rw [List.mapM_cons] at h
    -- The first item fails, or one of the others does if it does not.
    cases hx : f x with
    | error e' =>
      rw [hx] at h
      have he : e' = e := Except.error.inj h
      exact ⟨x, List.mem_cons_self, by rw [hx, he]⟩
    | ok y =>
      cases hxs : xs.mapM f with
      | error e' =>
        rw [hx, hxs] at h
        have he : e' = e := Except.error.inj h
        obtain ⟨z, hz, hfail⟩ := ih (by rw [hxs, he])
        exact ⟨z, List.mem_cons_of_mem x hz, hfail⟩
      | ok ys =>
        rw [hx, hxs] at h
        exact absurd h nofun

/-- A check followed by another one. -/
theorem exists_bind_ok_iff {x : Except ε α} {f : α → Except ε β} :
    (∃ b, (x >>= f) = .ok b) ↔ ∃ a, x = .ok a ∧ ∃ b, f a = .ok b := by
  constructor
  · rintro ⟨b, h⟩
    obtain ⟨a, ha, hb⟩ := bind_eq_ok.mp h
    exact ⟨a, ha, b, hb⟩
  · rintro ⟨a, ha, b, hb⟩
    exact ⟨b, bind_eq_ok.mpr ⟨a, ha, hb⟩⟩

/-- A check whose answer is only put to use afterwards. -/
theorem exists_bind_pure_ok_iff {x : Except ε α} (f : α → β) :
    (∃ b, (x >>= fun a => pure (f a)) = .ok b) ↔ ∃ a, x = .ok a := by
  constructor
  · rintro ⟨b, h⟩
    obtain ⟨a, ha, -⟩ := bind_eq_ok.mp h
    exact ⟨a, ha⟩
  · rintro ⟨a, ha⟩
    exact ⟨f a, bind_eq_ok.mpr ⟨a, ha, rfl⟩⟩

/-- Two checks, the second of which does not need the answer of the first. -/
theorem exists_bind_bind_pure_ok_iff {γ : Type} {x : Except ε α} {y : Except ε β} (f : α → β → γ) :
    (∃ c, (x >>= fun a => y >>= fun b => pure (f a b)) = .ok c) ↔
      (∃ a, x = .ok a) ∧ ∃ b, y = .ok b := by
  rw [exists_bind_ok_iff]
  constructor
  · rintro ⟨a, ha, hy⟩
    exact ⟨⟨a, ha⟩, (exists_bind_pure_ok_iff (f a)).mp hy⟩
  · rintro ⟨⟨a, ha⟩, hy⟩
    exact ⟨a, ha, (exists_bind_pure_ok_iff (f a)).mpr hy⟩

/-- A check of every item succeeds exactly when it does on each of them. -/
theorem exists_mapM_ok_iff {f : α → Except ε β} {P : α → Prop}
    (hf : ∀ a, (∃ b, f a = .ok b) ↔ P a) (xs : List α) :
    (∃ ys, xs.mapM f = .ok ys) ↔ ∀ a ∈ xs, P a := by
  induction xs with
  | nil => exact iff_of_true ⟨[], rfl⟩ (by simp)
  | cons x xs ih =>
    rw [List.mapM_cons, List.forall_mem_cons, ← hf x, ← ih]
    exact exists_bind_bind_pure_ok_iff List.cons

/-- A run over a list whose steps look at their own item succeeds exactly when every step does. The
induction is for every state that the run may begin with, since a step may change it. -/
theorem exists_foldlM_ok_iff {f : β → α → Except ε β} {P : α → Prop}
    (hf : ∀ b a, (∃ b', f b a = .ok b') ↔ P a) (b : β) (xs : List α) :
    (∃ b', xs.foldlM f b = .ok b') ↔ ∀ a ∈ xs, P a := by
  induction xs generalizing b with
  | nil => exact iff_of_true ⟨b, rfl⟩ (by simp)
  | cons x xs ih =>
    rw [List.foldlM_cons, List.forall_mem_cons, ← hf b x]
    constructor
    · rintro ⟨b', hrun⟩
      obtain ⟨b₁, hstep, hrest⟩ := bind_eq_ok.mp hrun
      exact ⟨⟨b₁, hstep⟩, (ih b₁).mp ⟨b', hrest⟩⟩
    · rintro ⟨⟨b₁, hstep⟩, hrest⟩
      obtain ⟨b', hrun⟩ := (ih b₁).mpr hrest
      exact ⟨b', bind_eq_ok.mpr ⟨b₁, hstep, hrun⟩⟩

/-! ### Two runs -/

/-- **Agreement of two runs.** They fail with the same error, or both succeed and their answers are
related. -/
inductive Agree {α' : Type} (R : α → α' → Prop) : Except ε α → Except ε α' → Prop
  | ok {a : α} {a' : α'} (h : R a a') : Agree R (.ok a) (.ok a')
  | error (e : ε) : Agree R (.error e) (.error e)

namespace Agree

variable {α' β' : Type} {R : α → α' → Prop} {S : β → β' → Prop}
  {x : Except ε α} {x' : Except ε α'}

/-- A run agrees with itself. -/
theorem refl (x : Except ε α) : Agree (· = ·) x x := by
  cases x with
  | error e => exact error e
  | ok a => exact ok rfl

/-- Two sequences agree if their first parts do, and the rest does on related answers. -/
theorem bind {f : α → Except ε β} {f' : α' → Except ε β'} (h : Agree R x x')
    (hf : ∀ a a', R a a' → Agree S (f a) (f' a')) : Agree S (x >>= f) (x' >>= f') := by
  cases h with
  | error e => exact error e
  | ok hR => exact hf _ _ hR

/-- Answers that are related stay so under functions that respect the relation. -/
theorem map {f : α → β} {f' : α' → β'} (h : Agree R x x')
    (hf : ∀ a a', R a a' → S (f a) (f' a')) : Agree S (x.map f) (x'.map f') := by
  cases h with
  | error e => exact error e
  | ok hR => exact ok (hf _ _ hR)

/-- Checks of the items of two lists agree if they do item by item. -/
theorem mapM {f : α → Except ε β} {f' : α' → Except ε β'} {xs : List α} {xs' : List α'}
    (h : List.Forall₂ R xs xs') (hf : ∀ a a', R a a' → Agree S (f a) (f' a')) :
    Agree (List.Forall₂ S) (xs.mapM f) (xs'.mapM f') := by
  induction h with
  | nil => exact ok .nil
  | cons hhead _ ih =>
    rw [List.mapM_cons, List.mapM_cons]
    -- The answers for the first items are related, and those for the others.
    refine (hf _ _ hhead).bind fun b b' hb => ?_
    refine ih.bind fun bs bs' hbs => ?_
    exact ok (.cons hb hbs)

/-- Two runs over two lists agree if every step keeps the states related. -/
theorem foldlM {f : β → α → Except ε β} {f' : β' → α' → Except ε β'}
    {xs : List α} {xs' : List α'} {b : β} {b' : β'} (h : List.Forall₂ R xs xs') (hb : S b b')
    (hf : ∀ b b' a a', S b b' → R a a' → Agree S (f b a) (f' b' a')) :
    Agree S (xs.foldlM f b) (xs'.foldlM f' b') := by
  induction h generalizing b b' with
  | nil => exact ok hb
  | cons hhead _ ih =>
    rw [List.foldlM_cons, List.foldlM_cons]
    -- One step of each run, and the runs go on from related states.
    exact (hf _ _ _ _ hb hhead).bind fun _ _ hstep => ih hstep

end Agree

end StoreBridge
