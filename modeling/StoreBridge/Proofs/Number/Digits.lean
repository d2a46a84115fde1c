import Mathlib.Tactic.Positivity
import Mathlib.Tactic.Ring
import StoreBridge.Number.Digits

/-!
# Runs of digits

The number that a run of digits spells, and the run that spells a number.

* `natOfDigits_append` — two runs one behind the other: the value of the first is shifted by the
  length of the second;
* `eq_of_natOfDigits` — of all runs of one length just one has a given value;
* `eq_natDigits` — of all runs without a superfluous zero in front just `natDigits n` spells `n`;
* `natOfDigits_natDigitsPadded`, `length_natDigitsPadded` — filling up with zeros gives the length
  and keeps the value.
-/

namespace StoreBridge

/-- Nothing but digits. -/
def IsDigits (cs : List Char) : Prop :=
  ∀ c ∈ cs, isDigit c = true

/-- Digits behind digits. -/
theorem IsDigits.append {xs ys : List Char} (hx : IsDigits xs) (hy : IsDigits ys) :
    IsDigits (xs ++ ys) := by
  intro c hc
  rcases List.mem_append.mp hc with hc | hc
  · exact hx c hc
  · exact hy c hc

/-! ### The value of a run -/

section Value

variable {xs ys : List Char}

/-- What was read before counts with a factor of ten for each further digit. -/
theorem natOfDigitsFrom_eq (acc : Nat) (cs : List Char) :
    natOfDigitsFrom acc cs = acc * 10 ^ cs.length + natOfDigits cs := by
  induction cs generalizing acc with
  | nil => simp [natOfDigitsFrom, natOfDigits]
  | cons c cs ih =>
    have hfrom : ∀ n, natOfDigitsFrom n (c :: cs) = natOfDigitsFrom (10 * n + digitValue c) cs :=
      fun _ => rfl
    rw [natOfDigits, hfrom, hfrom, ih, ih (10 * 0 + digitValue c), List.length_cons]
    ring

/-- Digits in front count with a factor of ten for each digit behind them. -/
theorem natOfDigits_append (xs ys : List Char) :
    natOfDigits (xs ++ ys) = natOfDigits xs * 10 ^ ys.length + natOfDigits ys := by
  unfold natOfDigits
  rw [natOfDigitsFrom_append, natOfDigitsFrom_eq]
  rfl

/-- The first digit counts with a factor of ten for each digit behind it. -/
theorem natOfDigits_cons (c : Char) (cs : List Char) :
    natOfDigits (c :: cs) = digitValue c * 10 ^ cs.length + natOfDigits cs := by
  have hone : natOfDigits [c] = digitValue c := by simp [natOfDigits, natOfDigitsFrom]
  rw [← hone, ← natOfDigits_append]
  rfl

/-- The code of a digit. -/
theorem toNat_of_isDigit {c : Char} (h : isDigit c = true) : 48 ≤ c.toNat ∧ c.toNat ≤ 57 := by
  simp only [isDigit, Bool.and_eq_true, decide_eq_true_eq] at h
  exact h

/-- A digit is worth less than ten. -/
theorem digitValue_lt {c : Char} (h : isDigit c = true) : digitValue c < 10 := by
  have hrange := toNat_of_isDigit h
  unfold digitValue
  omega

/-- Two digits that are worth the same are the same. -/
theorem digitValue_inj {c d : Char} (hc : isDigit c = true) (hd : isDigit d = true)
    (h : digitValue c = digitValue d) : c = d := by
  have hrange := toNat_of_isDigit hc
  have hrange' := toNat_of_isDigit hd
  have hnat : c.toNat = d.toNat := by
    unfold digitValue at h
    omega
  rw [← Char.ofNat_toNat c, hnat, Char.ofNat_toNat]

/-- A run of digits is worth less than the power of ten of its length. -/
theorem natOfDigits_lt (h : IsDigits xs) : natOfDigits xs < 10 ^ xs.length := by
  induction xs with
  | nil => decide
  | cons c cs ih =>
    obtain ⟨hc, hcs⟩ := List.forall_mem_cons.mp h
    have hvalue : digitValue c + 1 ≤ 10 := digitValue_lt hc
    rw [natOfDigits_cons, List.length_cons, pow_succ]
    -- The rest is worth less than one in the place of the first digit.
    calc digitValue c * 10 ^ cs.length + natOfDigits cs
        < digitValue c * 10 ^ cs.length + 10 ^ cs.length := Nat.add_lt_add_left (ih hcs) _
      _ = (digitValue c + 1) * 10 ^ cs.length := by ring
      _ ≤ 10 * 10 ^ cs.length := Nat.mul_le_mul_right _ hvalue
      _ = 10 ^ cs.length * 10 := Nat.mul_comm _ _

/-- The value in front of the last digits. -/
theorem natOfDigits_append_div (xs : List Char) (hy : IsDigits ys) :
    natOfDigits (xs ++ ys) / 10 ^ ys.length = natOfDigits xs := by
  rw [natOfDigits_append, Nat.add_comm, Nat.add_mul_div_right _ _ (by positivity),
    Nat.div_eq_of_lt (natOfDigits_lt hy), Nat.zero_add]

/-- The value of the last digits. -/
theorem natOfDigits_append_mod (xs : List Char) (hy : IsDigits ys) :
    natOfDigits (xs ++ ys) % 10 ^ ys.length = natOfDigits ys := by
  rw [natOfDigits_append, Nat.mul_add_mod_self_right, Nat.mod_eq_of_lt (natOfDigits_lt hy)]

/-- **One run of each length** has a given value. -/
theorem eq_of_natOfDigits (hx : IsDigits xs) (hy : IsDigits ys) (hlength : xs.length = ys.length)
    (h : natOfDigits xs = natOfDigits ys) : xs = ys := by
  -- On the two runs together, which are of the same length.
  induction xs generalizing ys with
  | nil => exact (List.length_eq_zero_iff.mp hlength.symm).symm
  | cons c cs ih =>
    obtain ⟨d, ds, rfl⟩ := List.exists_cons_of_length_eq_add_one hlength.symm
    obtain ⟨hc, hcs⟩ := List.forall_mem_cons.mp hx
    obtain ⟨hd, hds⟩ := List.forall_mem_cons.mp hy
    have hrest : cs.length = ds.length := Nat.succ.inj hlength
    -- The first digit is the quotient by the power of the length of the rest.
    have hfirst : natOfDigits [c] = natOfDigits [d] := by
      rw [← natOfDigits_append_div [c] hcs, ← natOfDigits_append_div [d] hds, hrest]
      exact congrArg (· / 10 ^ ds.length) h
    have htail : natOfDigits cs = natOfDigits ds := by
      rw [← natOfDigits_append_mod [c] hcs, ← natOfDigits_append_mod [d] hds, hrest]
      exact congrArg (· % 10 ^ ds.length) h
    rw [natOfDigits_cons, natOfDigits_cons] at hfirst
    rw [digitValue_inj hc hd (by simpa [natOfDigits, natOfDigitsFrom] using hfirst),
      ih hcs hds hrest htail]

end Value

/-! ### The run of a number -/

theorem isDigits_natDigits (n : Nat) : IsDigits (natDigits n) :=
  fun _ => isDigit_of_mem_natDigits

theorem natDigits_of_lt {n : Nat} (h : n < 10) : natDigits n = [digitChar n] := by
  rw [natDigits, if_pos h]

/-- The digits of a number of ten or more are those of its tenth, with its last digit behind
them. -/
theorem natDigits_of_ge {n : Nat} (h : 10 ≤ n) :
    natDigits n = natDigits (n / 10) ++ [digitChar (n % 10)] := by
  rw [natDigits, if_neg (by omega)]

/-- A number below a power of ten is spelled with no more digits than the power has zeros. -/
theorem length_natDigits_le {n k : Nat} (hk : 0 < k) (h : n < 10 ^ k) :
    (natDigits n).length ≤ k := by
  induction k generalizing n with
  | zero => exact absurd hk (by decide)
  | succ k ih =>
    by_cases hn : n < 10
    · rw [natDigits_of_lt hn, List.length_singleton]
      omega
    · have hk : 0 < k := by
        rcases Nat.eq_zero_or_pos k with rfl | hk
        · exact absurd h (by omega)
        · exact hk
      -- The last digit goes, and the power goes down by one.
      have hquot : n / 10 < 10 ^ k := by
        rw [pow_succ] at h
        omega
      rw [natDigits_of_ge (by omega), List.length_append, List.length_singleton]
      exact Nat.succ_le_succ (ih hk hquot)

/-- A positive number is not spelled with a zero in front. -/
theorem head?_natDigits_ne {n : Nat} (h : 0 < n) : (natDigits n).head? ≠ some '0' := by
  -- Along the recursion of `natDigits`, which divides by ten.
  induction n using Nat.strongRecOn with
  | ind n ih =>
    by_cases hn : n < 10
    · rw [natDigits_of_lt hn, List.head?_cons, Ne, Option.some_inj]
      intro hzero
      have hvalue := congrArg digitValue hzero
      rw [digitValue_digitChar hn] at hvalue
      exact absurd hvalue (by simp [digitValue]; omega)
    · obtain ⟨c, cs, hc⟩ := List.exists_cons_of_ne_nil (natDigits_ne_nil (n / 10))
      have hfirst := ih (n / 10) (by omega) (by omega)
      rw [hc] at hfirst
      rw [natDigits_of_ge (by omega), hc]
      exact hfirst

/-- A run that does not begin with a zero is worth at least a power of ten. -/
theorem pow_le_natOfDigits {cs : List Char} (hne : cs ≠ []) (hdigits : IsDigits cs)
    (hhead : cs.head? ≠ some '0') : 10 ^ (cs.length - 1) ≤ natOfDigits cs := by
  obtain ⟨c, cs, rfl⟩ := List.exists_cons_of_ne_nil hne
  have hc : isDigit c = true := hdigits c List.mem_cons_self
  -- Zero is the only digit without a worth.
  have hvalue : 1 ≤ digitValue c := by
    rcases Nat.eq_zero_or_pos (digitValue c) with hzero | hpos
    · exact absurd (by rw [digitValue_inj hc (by decide) (d := '0') hzero]; rfl) hhead
    · exact hpos
  rw [natOfDigits_cons, List.length_cons, Nat.add_sub_cancel]
  calc 10 ^ cs.length = 1 * 10 ^ cs.length := (Nat.one_mul _).symm
    _ ≤ digitValue c * 10 ^ cs.length := Nat.mul_le_mul_right _ hvalue
    _ ≤ _ := Nat.le_add_right _ _

/-- **One run without superfluous zeros** spells a given number. -/
theorem eq_natDigits {cs : List Char} (hne : cs ≠ []) (hdigits : IsDigits cs)
    (hhead : cs = ['0'] ∨ cs.head? ≠ some '0') : cs = natDigits (natOfDigits cs) := by
  rcases hhead with rfl | hhead
  · rw [show natOfDigits ['0'] = 0 from rfl, natDigits_of_lt (by decide)]
    rfl
  have hvalue : natOfDigits (natDigits (natOfDigits cs)) = natOfDigits cs :=
    natOfDigits_natDigits _
  -- Both spellings lie between the same two powers of ten.
  have hlow := pow_le_natOfDigits hne hdigits hhead
  have hpos : 0 < natOfDigits cs := lt_of_lt_of_le (by positivity) hlow
  have hlow' := pow_le_natOfDigits (natDigits_ne_nil _) (isDigits_natDigits _)
    (head?_natDigits_ne hpos)
  have hhigh := natOfDigits_lt hdigits
  have hhigh' := natOfDigits_lt (isDigits_natDigits (natOfDigits cs))
  rw [hvalue] at hlow' hhigh'
  -- Both lengths are read off the value.
  have hlength : cs.length = (natDigits (natOfDigits cs)).length := by
    have h₁ := (Nat.pow_lt_pow_iff_right (by decide)).mp (lt_of_le_of_lt hlow hhigh')
    have h₂ := (Nat.pow_lt_pow_iff_right (by decide)).mp (lt_of_le_of_lt hlow' hhigh)
    have h₃ : 0 < cs.length := List.length_pos_iff.mpr hne
    have h₄ : 0 < (natDigits (natOfDigits cs)).length :=
      List.length_pos_iff.mpr (natDigits_ne_nil _)
    omega
  exact eq_of_natOfDigits hdigits (isDigits_natDigits _) hlength hvalue.symm

/-! ### Filling up with zeros -/

/-- Zeros in front are digits as well. -/
theorem isDigits_natDigitsPadded (width n : Nat) : IsDigits (natDigitsPadded width n) := by
  refine IsDigits.append ?_ (isDigits_natDigits n)
  intro c hc
  rw [List.eq_of_mem_replicate hc]
  rfl

/-- The zeros that fill a spelling up to its width are worth nothing. -/
theorem natOfDigits_natDigitsPadded (width n : Nat) :
    natOfDigits (natDigitsPadded width n) = n := by
  have hzeros : ∀ k, natOfDigits (List.replicate k '0') = 0 := by
    intro k
    induction k with
    | zero => rfl
    | succ k ih =>
      rw [List.replicate_succ, natOfDigits_cons, ih]
      simp [digitValue]
  unfold natDigitsPadded
  rw [natOfDigits_append, hzeros, Nat.zero_mul, Nat.zero_add, natOfDigits_natDigits]

/-- A number that is small enough takes just as many digits as are asked for. -/
theorem length_natDigitsPadded {width n : Nat} (hwidth : 0 < width) (h : n < 10 ^ width) :
    (natDigitsPadded width n).length = width := by
  have hshort := length_natDigits_le hwidth h
  unfold natDigitsPadded
  rw [List.length_append, List.length_replicate]
  omega

end StoreBridge
