/-!
# Powers of two and of ten

The measures of words, doubles and decimals. A power of two is a product of two with the power
before it (`pow2_succ`), so it is never zero.
-/

namespace StoreBridge

/-- The number `2^n`. -/
def pow2 (n : Nat) : Nat := Nat.pow 2 n

/-- The number `10^n`. -/
def pow10 (n : Nat) : Nat := Nat.pow 10 n

@[simp] theorem pow2_zero : pow2 0 = 1 := rfl

theorem pow2_succ (n : Nat) : pow2 (n + 1) = pow2 n * 2 := rfl

theorem pow2_pos (n : Nat) : 0 < pow2 n := by
  induction n with
  | zero => decide
  | succ n ih => rw [pow2_succ]; omega

@[simp] theorem pow10_zero : pow10 0 = 1 := rfl

end StoreBridge
