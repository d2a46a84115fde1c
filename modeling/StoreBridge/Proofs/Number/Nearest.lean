import Mathlib.Tactic.Linarith
import Mathlib.Tactic.Ring
import StoreBridge.Number.Binary64

/-!
# The double nearest to a large integer

Doubles are sparse among large integers. Between `2^L` and `2^(L+1)` they are the multiples of
`2^(L-52)`, the `spacing` there, and an integer is rounded to one of them.

* `roundDiv_cases` — what rounding a quotient can give, with the rest that decides it; everything
  else about rounding is read off these two cases;
* `nearest_eq_iff` — an integer is kept exactly if it has at most 53 significant bits;
* `natAbs_nearest_sub_le` — otherwise it is off by one part in `2^53` at most;
* `units_ofInt`, `ofInt_of_large` — the double of an integer is the rounded integer as long as this
  is below `2^1024`, and infinite from there on. The limit is met half a spacing below `2^1024`,
  because that integer is rounded up.
-/

namespace StoreBridge

theorem pow2_eq (n : ℕ) : pow2 n = 2 ^ n := rfl

theorem pow2_add (m n : ℕ) : pow2 (m + n) = pow2 m * pow2 n := Nat.pow_add 2 m n

theorem pow2_le_pow2 {m n : ℕ} (h : m ≤ n) : pow2 m ≤ pow2 n :=
  Nat.pow_le_pow_right (by decide) h

theorem log2_lt_iff {n k : ℕ} (h : n ≠ 0) : n.log2 < k ↔ n < pow2 k := Nat.log2_lt h

namespace Binary64

/-! ### Rounding a quotient -/

section RoundDiv

variable {n d k : ℕ}

/-- **A quotient is rounded** down if twice the rest is at most the divisor, and up if it is at
least the divisor. -/
theorem roundDiv_cases (n d : ℕ) :
    (roundDiv n d = n / d ∧ 2 * (n % d) ≤ d) ∨ (roundDiv n d = n / d + 1 ∧ d ≤ 2 * (n % d)) := by
  unfold roundDiv
  rcases Nat.lt_trichotomy (2 * (n % d)) d with hlt | heq | hgt
  · left
    rw [if_pos hlt]
    exact ⟨rfl, Nat.le_of_lt hlt⟩
  · -- A half goes to the even neighbour, so it may go either way.
    rw [if_neg (by omega), if_neg (by omega)]
    rcases Nat.mod_two_eq_zero_or_one (n / d) with heven | hodd
    · left
      rw [heven]
      exact ⟨rfl, Nat.le_of_eq heq⟩
    · right
      rw [hodd]
      exact ⟨rfl, Nat.le_of_eq heq.symm⟩
  · right
    rw [if_neg (by omega), if_pos hgt]
    exact ⟨rfl, Nat.le_of_lt hgt⟩

/-- A half is rounded to an even number. -/
theorem roundDiv_of_half (h : 2 * (n % d) = d) : roundDiv n d % 2 = 0 := by
  unfold roundDiv
  rw [if_neg (by omega), if_neg (by omega)]
  omega

/-- A whole number that is no larger than a quotient is no larger than the quotient rounded. -/
theorem le_roundDiv (hd : 0 < d) (h : k * d ≤ n) : k ≤ roundDiv n d := by
  have hquot : k ≤ n / d := (Nat.le_div_iff_mul_le hd).mpr h
  rcases roundDiv_cases n d with ⟨hq, -⟩ | ⟨hq, -⟩
  · omega
  · omega

/-- Rounding does not go beyond a whole number that is not exceeded. -/
theorem roundDiv_le (hd : 0 < d) (h : n ≤ k * d) : roundDiv n d ≤ k := by
  have hn : d * (n / d) + n % d = n := Nat.div_add_mod n d
  rcases roundDiv_cases n d with ⟨hq, -⟩ | ⟨hq, hr⟩
  · rw [hq]
    exact Nat.div_le_of_le_mul (by rwa [Nat.mul_comm])
  · -- There is a rest, so the quotient is below the bound.
    rw [hq]
    refine (Nat.div_lt_iff_lt_mul hd).mpr ?_
    by_contra hle
    have heq : n = k * d := by omega
    rw [heq, Nat.mul_mod_left] at hr
    omega

/-- Rounding up past an odd number begins half a divisor above it. -/
theorem lt_roundDiv_iff (hd : 0 < d) (hodd : k % 2 = 1) :
    k < roundDiv n d ↔ (2 * k + 1) * d ≤ 2 * n := by
  have hn : d * (n / d) + n % d = n := Nat.div_add_mod n d
  have hr : n % d < d := Nat.mod_lt n hd
  constructor
  · intro hlt
    rcases roundDiv_cases n d with ⟨hq, -⟩ | ⟨hq, hrest⟩
    · have hk : k + 1 ≤ n / d := by omega
      calc (2 * k + 1) * d
          ≤ (2 * k + 2) * d := Nat.mul_le_mul_right d (Nat.le_succ _)
        _ = 2 * (d * (k + 1)) := by ring
        _ ≤ 2 * (d * (n / d)) := Nat.mul_le_mul_left 2 (Nat.mul_le_mul_left d hk)
        _ ≤ 2 * n := by omega
    · have hk : k ≤ n / d := by omega
      have hmul : d * k ≤ d * (n / d) := Nat.mul_le_mul_left d hk
      linarith
  · intro hle
    -- If it were not rounded up past `k`, twice the number would lie below `2 * k + 1` divisors.
    by_contra hnot
    rcases roundDiv_cases n d with ⟨hq, hrest⟩ | ⟨hq, -⟩
    · rcases Nat.lt_or_eq_of_le (show n / d ≤ k by omega) with hlt | heq
      · have hmul : d * (n / d + 1) ≤ d * k := Nat.mul_le_mul_left d hlt
        linarith
      · -- The odd number itself is no result of a half.
        have hhalf : 2 * (n % d) ≠ d := fun hhalf => by
          have heven := roundDiv_of_half hhalf
          omega
        have hbelow : 2 * (n % d) < d := Nat.lt_of_le_of_ne hrest hhalf
        rw [heq] at hn
        linarith
    · have hmul : d * (n / d + 1) ≤ d * k := Nat.mul_le_mul_left d (by omega)
      linarith

/-- Rounding loses nothing exactly if the division leaves no rest. -/
theorem roundDiv_mul_eq_iff (hd : 0 < d) : roundDiv n d * d = n ↔ d ∣ n := by
  constructor
  · intro h
    exact ⟨roundDiv n d, by rw [Nat.mul_comm, h]⟩
  · rintro ⟨c, rfl⟩
    have hlow : c ≤ roundDiv (d * c) d := le_roundDiv hd (Nat.le_of_eq (Nat.mul_comm c d))
    have hhigh : roundDiv (d * c) d ≤ c := roundDiv_le hd (Nat.le_of_eq (Nat.mul_comm d c))
    rw [Nat.le_antisymm hhigh hlow, Nat.mul_comm]

/-- Rounding is off by half a divisor at most. -/
theorem natAbs_roundDiv_sub_le (n : ℕ) (hd : 0 < d) :
    2 * ((roundDiv n d * d : ℕ) - (n : ℤ)).natAbs ≤ d := by
  have hn : d * (n / d) + n % d = n := Nat.div_add_mod n d
  have hrest : n % d < d := Nat.mod_lt n hd
  rcases roundDiv_cases n d with ⟨hq, hr⟩ | ⟨hq, hr⟩
  · have hmul : roundDiv n d * d = d * (n / d) := by rw [hq, Nat.mul_comm]
    omega
  · have hmul : roundDiv n d * d = d * (n / d) + d := by rw [hq, Nat.mul_comm, Nat.mul_succ]
    omega

end RoundDiv

/-! ### Rounding an integer -/

/-- The distance of the doubles between the powers of two around an integer. -/
def spacing (n : ℕ) : ℕ := pow2 (n.log2 - 52)

/-- What an integer is rounded to. -/
def nearest (n : ℕ) : ℕ := roundDiv n (spacing n) * spacing n

section Nearest

variable {n : ℕ}

theorem spacing_pos (n : ℕ) : 0 < spacing n := pow2_pos _

/-- An integer is as many spacings as 53 bits can count, the leading one set. -/
theorem spacing_bounds (h : 52 ≤ n.log2) :
    2 ^ 52 * spacing n ≤ n ∧ n < 2 ^ 53 * spacing n := by
  have hne : n ≠ 0 := by
    rintro rfl
    exact absurd h (by decide)
  have hlow : pow2 n.log2 ≤ n := Nat.log2_self_le hne
  have hhigh : n < pow2 (n.log2 + 1) := Nat.lt_log2_self
  rw [show n.log2 = 52 + (n.log2 - 52) by omega, pow2_add] at hlow
  rw [show n.log2 + 1 = 53 + (n.log2 - 52) by omega, pow2_add] at hhigh
  exact ⟨hlow, hhigh⟩

/-- The significand has 53 bits, or it is rounded up to the next power of two. -/
theorem significand_bounds (h : 52 ≤ n.log2) :
    2 ^ 52 ≤ roundDiv n (spacing n) ∧ roundDiv n (spacing n) ≤ 2 ^ 53 := by
  obtain ⟨hlow, hhigh⟩ := spacing_bounds h
  exact ⟨le_roundDiv (spacing_pos n) hlow, roundDiv_le (spacing_pos n) (Nat.le_of_lt hhigh)⟩

/-- **An integer is kept** exactly if it has at most 53 significant bits. -/
theorem nearest_eq_iff (h : 52 ≤ n.log2) :
    nearest n = n ↔ ∃ m k, m < 2 ^ 53 ∧ n = m * 2 ^ k := by
  have hne : n ≠ 0 := by
    rintro rfl
    exact absurd h (by decide)
  obtain ⟨-, hhigh⟩ := spacing_bounds h
  unfold nearest
  rw [roundDiv_mul_eq_iff (spacing_pos n)]
  constructor
  · -- A multiple of the spacing has as many bits as there are spacings below the next power.
    rintro ⟨c, hc⟩
    have hn : n = c * spacing n := hc.trans (Nat.mul_comm _ _)
    refine ⟨c, n.log2 - 52, ?_, hn⟩
    have hcount : c * spacing n < 2 ^ 53 * spacing n := hn ▸ hhigh
    exact Nat.lt_of_mul_lt_mul_right hcount
  · rintro ⟨m, k, hm, hn⟩
    -- So few bits reach up to the leading one only if the power is a multiple of the spacing.
    have hbelow : n < pow2 (53 + k) := by
      rw [hn, pow2_add]
      exact Nat.mul_lt_mul_of_pos_right hm (pow2_pos k)
    have hlog : n.log2 < 53 + k := (log2_lt_iff hne).mpr hbelow
    have hdvd : spacing n ∣ 2 ^ k := Nat.pow_dvd_pow 2 (by omega)
    have hmul : spacing n ∣ m * 2 ^ k := Dvd.dvd.mul_left hdvd m
    rwa [← hn] at hmul

/-- **Rounding an integer** changes it by one part in `2^53` at most. -/
theorem natAbs_nearest_sub_le (h : 52 ≤ n.log2) :
    ((nearest n : ℤ) - n).natAbs * 2 ^ 53 ≤ n := by
  have hhalf : 2 * ((nearest n : ℤ) - n).natAbs ≤ spacing n :=
    natAbs_roundDiv_sub_le n (spacing_pos n)
  obtain ⟨hlow, -⟩ := spacing_bounds h
  omega

end Nearest

/-! ### The fields of a double -/

/-- The magnitude of an infinite double. Those of the finite ones are below. -/
def infiniteMagnitude : ℕ := 2047 * 2 ^ 52

section Fields

variable {negative : Bool} {m k q : ℕ}

/-- The bits of a double are its magnitude, and the sign in front of it. -/
theorem toNat_ofMagnitude (negative : Bool) (hm : m < 2 ^ 63) :
    (ofMagnitude negative m).bits.toNat = (if negative then 2 ^ 63 else 0) + m := by
  unfold ofMagnitude
  rw [UInt64.toNat_ofNat']
  cases negative
  · rw [if_neg Bool.false_ne_true, if_neg Bool.false_ne_true]
    exact Nat.mod_eq_of_lt (by omega)
  · rw [if_pos rfl, if_pos rfl, pow2_eq]
    exact Nat.mod_eq_of_lt (by omega)

/-- The sign is read back. -/
theorem negative_ofMagnitude (negative : Bool) (hm : m < 2 ^ 63) :
    (ofMagnitude negative m).negative = negative := by
  unfold Binary64.negative
  rw [toNat_ofMagnitude negative hm, pow2_eq]
  cases negative
  · rw [if_neg Bool.false_ne_true]
    exact decide_eq_false (by omega)
  · rw [if_pos rfl]
    exact decide_eq_true (by omega)

/-- The exponent is the front part of the magnitude. -/
theorem exponentField_ofMagnitude (negative : Bool) (hm : m < 2 ^ 63) :
    (ofMagnitude negative m).exponentField = m / 2 ^ 52 := by
  unfold exponentField
  rw [toNat_ofMagnitude negative hm, pow2_eq, pow2_eq]
  split <;> omega

/-- The fraction is the part behind it. -/
theorem fractionField_ofMagnitude (negative : Bool) (hm : m < 2 ^ 63) :
    (ofMagnitude negative m).fractionField = m % 2 ^ 52 := by
  unfold fractionField
  rw [toNat_ofMagnitude negative hm, pow2_eq]
  split <;> omega

/-- A magnitude with the leading bit is read as a significand of 53 bits. -/
theorem view_ofMagnitude (negative : Bool) (hlow : 2 ^ 52 ≤ m) (hm : m < infiniteMagnitude) :
    (ofMagnitude negative m).view =
      .finite negative (2 ^ 52 + m % 2 ^ 52) ((m / 2 ^ 52 : ℕ) - 1075) := by
  unfold infiniteMagnitude at hm
  have hsmall : m < 2 ^ 63 := by omega
  have hfield := exponentField_ofMagnitude negative hsmall
  unfold view
  rw [hfield, fractionField_ofMagnitude negative hsmall, negative_ofMagnitude negative hsmall,
    if_neg (by omega), if_neg (by omega), pow2_eq]

/-- A magnitude below that of the infinite double is finite. -/
theorem isFinite_ofMagnitude (negative : Bool) (hm : m < infiniteMagnitude) :
    (ofMagnitude negative m).isFinite = true := by
  unfold infiniteMagnitude at hm
  have hfield := exponentField_ofMagnitude (m := m) negative (by omega)
  unfold isFinite
  rw [hfield, bne_iff_ne]
  omega

/-- The number with a sign. -/
def signed (negative : Bool) (n : ℕ) : ℤ := if negative then -(n : ℤ) else n

theorem natAbs_signed (negative : Bool) (n : ℕ) : (signed negative n).natAbs = n := by
  cases negative with
  | false => exact Int.natAbs_natCast n
  | true => exact (Int.natAbs_neg n).trans (Int.natAbs_natCast n)

/-- The sign can be told from the number unless this is zero. -/
theorem signed_neg_iff {n : ℕ} (hn : n ≠ 0) : signed negative n < 0 ↔ negative = true := by
  unfold signed
  cases negative with
  | false => exact iff_of_false (by simp) Bool.false_ne_true
  | true => exact iff_of_true (by simp; omega) rfl

/-- A finite double is worth its significand, as far up as its exponent says. -/
theorem units_of_view {x : Binary64} {e : ℤ} (h : x.view = .finite negative m e) :
    x.units = signed negative (m * pow2 (e + 1074).toNat) := by
  unfold units
  rw [h]
  rfl

/-- **A significand and its exponent** give the double of this value. A significand that was rounded
up to the next power of two carries into the exponent, where it belongs. -/
theorem units_ofMagnitude (negative : Bool) (hlow : 2 ^ 52 ≤ q) (hhigh : q ≤ 2 ^ 53)
    (hm : k * 2 ^ 52 + q < infiniteMagnitude) :
    (ofMagnitude negative (k * 2 ^ 52 + q)).units = signed negative (q * pow2 k) := by
  have hvalue : (2 ^ 52 + (k * 2 ^ 52 + q) % 2 ^ 52) *
      pow2 ((((k * 2 ^ 52 + q) / 2 ^ 52 : ℕ) : ℤ) - 1075 + 1074).toNat = q * pow2 k := by
    -- At the upper bound the fraction is zero and the exponent is one larger.
    rcases Nat.lt_or_eq_of_le hhigh with hlt | rfl
    · have hdiv : (k * 2 ^ 52 + q) / 2 ^ 52 = k + 1 := by omega
      have hmod : (k * 2 ^ 52 + q) % 2 ^ 52 = q - 2 ^ 52 := by omega
      rw [hdiv, hmod, show ((k + 1 : ℕ) : ℤ) - 1075 + 1074 = k by omega, Int.toNat_natCast,
        Nat.add_sub_cancel' hlow]
    · have hdiv : (k * 2 ^ 52 + 2 ^ 53) / 2 ^ 52 = k + 2 := by omega
      have hmod : (k * 2 ^ 52 + 2 ^ 53) % 2 ^ 52 = 0 := by omega
      rw [hdiv, hmod, show ((k + 2 : ℕ) : ℤ) - 1075 + 1074 = ((k + 1 : ℕ) : ℤ) by omega,
        Int.toNat_natCast, pow2_succ]
      ring
  have hlead : 2 ^ 52 ≤ k * 2 ^ 52 + q := Nat.le_trans hlow (Nat.le_add_left q _)
  rw [units_of_view (view_ofMagnitude negative hlead hm), hvalue]

end Fields

/-! ### The double of an integer -/

section OfInt

variable {n : ℕ} {i : ℤ}

/-- A whole number over one has the logarithm of the number: it needs no correction by one. -/
theorem floorLog2_one (h : n ≠ 0) : floorLog2 n 1 = n.log2 := by
  have hle : 2 ^ n.log2 ≤ n := Nat.log2_self_le h
  have hcond : 1 * pow2 ((n.log2 : ℤ) - (Nat.log2 1 : ℤ)).toNat ≤
      n * pow2 (-((n.log2 : ℤ) - (Nat.log2 1 : ℤ))).toNat := by
    rw [show Nat.log2 1 = 0 from rfl, show (n.log2 : ℤ) - ((0 : ℕ) : ℤ) = n.log2 by omega,
      Int.toNat_natCast, show (-(n.log2 : ℤ)).toNat = 0 by omega, pow2_eq, Nat.one_mul, pow2_zero,
      Nat.mul_one]
    exact hle
  unfold floorLog2
  rw [if_pos hcond]
  rfl

/-- The bits of a rounded integer: the exponent, and the significand that may carry into it. -/
def magnitudeOf (n : ℕ) : ℕ := (n.log2 + 1022) * 2 ^ 52 + roundDiv n (spacing n)

/-- From `2^52` on, the significand of a whole number reaches to the leading bit, so all of its 53
bits are used and the number lies above the subnormal ones. -/
theorem ofRatio_one (negative : Bool) (h : 52 ≤ n.log2) :
    ofRatio negative n 1 =
      if infiniteMagnitude ≤ magnitudeOf n then infinity negative
      else ofMagnitude negative (magnitudeOf n) := by
  have hne : n ≠ 0 := by
    rintro rfl
    exact absurd h (by decide)
  -- The exponent is that of the last bit of the significand, far from the least one.
  have hexp : max ((n.log2 : ℤ) - 52) (-1074) = ((n.log2 - 52 : ℕ) : ℤ) := by omega
  unfold ofRatio
  rw [if_neg hne, floorLog2_one hne]
  simp only [hexp, Int.toNat_natCast]
  rw [show (-((n.log2 - 52 : ℕ) : ℤ)).toNat = 0 by omega, pow2_zero, Nat.mul_one, Nat.one_mul,
    show (((n.log2 - 52 : ℕ) : ℤ) + 1074).toNat = n.log2 + 1022 by omega]
  rfl

/-- Half a spacing below `2^1024`: the integers from here on are too large for a double. -/
def overflow : ℕ := (2 ^ 54 - 1) * pow2 970

/-- The integers that are too large begin in the last binade. -/
theorem pow_le_overflow : pow2 1023 ≤ overflow := by
  unfold overflow
  rw [show 1023 = 53 + 970 from rfl, pow2_add]
  exact Nat.mul_le_mul_right (pow2 970) (show pow2 53 ≤ 2 ^ 54 - 1 by decide)

/-- The power of two behind the last binade is too large. -/
theorem overflow_le_pow : overflow ≤ pow2 1024 := by
  unfold overflow
  rw [show 1024 = 54 + 970 from rfl, pow2_add]
  exact Nat.mul_le_mul_right (pow2 970) (show 2 ^ 54 - 1 ≤ pow2 54 by decide)

/-- **What is too large** for a double. -/
theorem infiniteMagnitude_le_iff (h : 52 ≤ n.log2) :
    infiniteMagnitude ≤ magnitudeOf n ↔ overflow ≤ n := by
  have hne : n ≠ 0 := by
    rintro rfl
    exact absurd h (by decide)
  obtain ⟨hlow, hhigh⟩ := significand_bounds h
  unfold infiniteMagnitude magnitudeOf
  rcases Nat.lt_trichotomy n.log2 1023 with hlt | heq | hgt
  · -- Below the last binade there is room even for a significand that is rounded up.
    have hn : n < pow2 1023 := (log2_lt_iff hne).mp hlt
    exact iff_of_false (by omega) (Nat.not_le_of_lt (Nat.lt_of_lt_of_le hn pow_le_overflow))
  · -- In the last binade it is decided by whether the significand is rounded up to `2^53`.
    have hcarry : 2 ^ 53 - 1 < roundDiv n (spacing n) ↔
        (2 * (2 ^ 53 - 1) + 1) * spacing n ≤ 2 * n :=
      lt_roundDiv_iff (spacing_pos n) (by decide)
    have hspacing : spacing n = pow2 970 * 2 := by
      rw [spacing, heq]
      exact pow2_succ 970
    have hlimit : (2 * (2 ^ 53 - 1) + 1) * spacing n = 2 * overflow := by
      rw [hspacing, overflow]
      omega
    rw [hlimit, Nat.mul_le_mul_left_iff (by decide)] at hcarry
    rw [heq, ← hcarry]
    omega
  · -- Above it everything is too large.
    have hn : pow2 1024 ≤ n := by
      rw [← Nat.not_lt, ← log2_lt_iff hne]
      exact Nat.not_lt_of_le hgt
    exact iff_of_true (by omega) (Nat.le_trans overflow_le_pow hn)

/-- **The double of a large integer** is the integer it is rounded to. -/
theorem units_ofInt (h : 52 ≤ i.natAbs.log2) (hi : i.natAbs < overflow) :
    (ofInt i).isFinite = true ∧
      (ofInt i).units = signed (i < 0) (nearest i.natAbs * unitsPerOne) := by
  obtain ⟨hlow, hhigh⟩ := significand_bounds h
  have hfinite : magnitudeOf i.natAbs < infiniteMagnitude := by
    rw [← Nat.not_le, infiniteMagnitude_le_iff h]
    exact Nat.not_le_of_lt hi
  unfold ofInt
  rw [ofRatio_one _ h, if_neg (Nat.not_le_of_lt hfinite)]
  refine ⟨isFinite_ofMagnitude _ hfinite, (units_ofMagnitude _ hlow hhigh hfinite).trans ?_⟩
  -- The units of one are `2^1074`, and the last bit of the significand is worth `2^(log2 - 52)`.
  have hexp : i.natAbs.log2 + 1022 = (i.natAbs.log2 - 52) + 1074 := by omega
  rw [hexp, pow2_add, ← Nat.mul_assoc, unitsPerOne, nearest, spacing]

/-- **Too large an integer** has no finite double. -/
theorem ofInt_of_large (h : overflow ≤ i.natAbs) : ofInt i = infinity (i < 0) := by
  have hbig : pow2 1023 ≤ i.natAbs := Nat.le_trans pow_le_overflow h
  have hne : i.natAbs ≠ 0 := Nat.ne_of_gt (Nat.lt_of_lt_of_le (pow2_pos 1023) hbig)
  have hlog : ¬ i.natAbs.log2 < 1023 := by
    rw [log2_lt_iff hne]
    exact Nat.not_lt_of_le hbig
  have hlog' : 52 ≤ i.natAbs.log2 := by omega
  unfold ofInt
  rw [ofRatio_one _ hlog', if_pos ((infiniteMagnitude_le_iff hlog').mpr h)]

end OfInt

end Binary64

end StoreBridge
