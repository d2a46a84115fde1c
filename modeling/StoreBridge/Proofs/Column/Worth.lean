import Mathlib.Algebra.BigOperators.Intervals
import Mathlib.Algebra.Order.Field.Power
import Mathlib.Algebra.Order.Floor.Semifield
import Mathlib.Data.List.GetD
import Mathlib.Data.Rat.Floor
import Mathlib.Tactic.FieldSimp
import Mathlib.Tactic.Linarith
import StoreBridge.Column.Numeric
import StoreBridge.Proofs.Number.Digits

/-!
# What the groups of a decimal are worth

`Numeric.worth groups weight` is the number that the groups stand for: the sum of the groups, each
times the power of 10000 that its place gives it. The text of a decimal is laid out from the front,
group by group, and the fact that carries it is what one more group does to the whole part:

* `floor_worth_succ` — the whole part of ten thousand times the number is ten thousand times its
  whole part, and the next group. The groups behind that one are worth less than one together
  (`worth_lt`), so they change nothing, and neither do groups before the first or behind the last.

So the digits up to any group spell the whole part of the number at that place
(`natOfDigits_wholeText`, `natOfDigits_append_groupsText`), and cutting off the last digits is a
division by a power of ten (`natOfDigits_layout`). Of groups that are worth a decimal these are the
digits of the decimal (`wholeText_of_worth`, `fractionText_of_worth`).
-/

namespace StoreBridge

namespace Numeric

/-- The number that groups stand for: group `i` is worth `10000 ^ (weight - i)`. -/
def worth (groups : List Int) (weight : Int) : ℚ :=
  ∑ i ∈ Finset.range groups.length, (groups.getD i 0 : ℚ) * 10000 ^ (weight - (i : Int))

/-- Every group is a digit to the base 10000. -/
def AreDigits (groups : List Int) : Prop :=
  ∀ g ∈ groups, 0 ≤ g ∧ g ≤ 9999

section Worth

variable {g : Int} {groups : List Int}

theorem worth_nil (weight : Int) : worth [] weight = 0 := by
  simp [worth]

/-- The first group is worth its own power, and the others follow one place further. -/
theorem worth_cons (g : Int) (groups : List Int) (weight : Int) :
    worth (g :: groups) weight = g * 10000 ^ weight + worth groups (weight - 1) := by
  unfold worth
  rw [List.length_cons, Finset.sum_range_succ', add_comm]
  congr 1
  · simp
  · -- Every other index moves down by one, and the weight with it.
    refine Finset.sum_congr rfl fun i _ => ?_
    have hplace : weight - ((i + 1 : ℕ) : Int) = weight - 1 - (i : Int) := by
      push_cast
      ring
    rw [hplace, List.getD_cons_succ]

/-- Every group is worth ten thousand times as much one place further to the front. -/
theorem worth_add_one (groups : List Int) (weight : Int) :
    worth groups (weight + 1) = 10000 * worth groups weight := by
  induction groups generalizing weight with
  | nil => rw [worth_nil, worth_nil, mul_zero]
  | cons g groups ih =>
    have hback := ih (weight - 1)
    rw [sub_add_cancel] at hback
    rw [worth_cons, worth_cons, add_sub_cancel_right, hback, zpow_add_one₀ (by norm_num)]
    ring

/-- Groups that stand further in front are worth more by as many factors of 10000. -/
theorem worth_add (groups : List Int) (weight : Int) (n : ℕ) :
    worth groups (weight + n) = 10000 ^ n * worth groups weight := by
  induction n with
  | zero => simp
  | succ n ih =>
    rw [Nat.cast_succ, ← add_assoc, worth_add_one, ih]
    ring

/-- Groups behind others continue at the place behind them. -/
theorem worth_append (xs ys : List Int) (weight : Int) :
    worth (xs ++ ys) weight = worth xs weight + worth ys (weight - xs.length) := by
  induction xs generalizing weight with
  | nil => simp [worth_nil]
  | cons x xs ih =>
    have hplace : weight - ((x :: xs).length : Int) = weight - 1 - xs.length := by
      rw [List.length_cons]
      push_cast
      ring
    rw [List.cons_append, worth_cons, worth_cons, ih, hplace, add_assoc]

theorem AreDigits.cons (h : AreDigits (g :: groups)) : (0 ≤ g ∧ g ≤ 9999) ∧ AreDigits groups :=
  List.forall_mem_cons.mp h

/-- Groups of digits are not worth less than nothing. -/
theorem worth_nonneg (h : AreDigits groups) (weight : Int) : 0 ≤ worth groups weight := by
  induction groups generalizing weight with
  | nil => rw [worth_nil]
  | cons g groups ih =>
    obtain ⟨⟨hg, -⟩, hgroups⟩ := h.cons
    have hrest := ih hgroups (weight - 1)
    have hfirst : (0 : ℚ) ≤ g := by exact_mod_cast hg
    rw [worth_cons]
    positivity

/-- **All groups together** are worth less than one in the place in front of them. -/
theorem worth_lt (h : AreDigits groups) (weight : Int) :
    worth groups weight < 10000 ^ (weight + 1) := by
  -- On the groups, as the sum is split. The rest is worth less than one in the place of the first.
  induction groups generalizing weight with
  | nil =>
    rw [worth_nil]
    positivity
  | cons g groups ih =>
    obtain ⟨⟨-, hg⟩, hgroups⟩ := h.cons
    have hrest := ih hgroups (weight - 1)
    have hfirst : (g : ℚ) ≤ 9999 := by exact_mod_cast hg
    have hpower : (0 : ℚ) < 10000 ^ weight := by positivity
    rw [sub_add_cancel] at hrest
    rw [worth_cons, zpow_add_one₀ (by norm_num)]
    calc (g : ℚ) * 10000 ^ weight + worth groups (weight - 1)
        < 9999 * 10000 ^ weight + 10000 ^ weight :=
          add_lt_add_of_le_of_lt (mul_le_mul_of_nonneg_right hfirst hpower.le) hrest
      _ = 10000 ^ weight * 10000 := by ring

/-- There is no whole part as long as the first group is behind the point. -/
theorem floor_worth_of_neg (h : AreDigits groups) {weight : Int} (hweight : weight < 0) :
    ⌊worth groups weight⌋₊ = 0 := by
  rw [Nat.floor_eq_zero]
  calc worth groups weight < 10000 ^ (weight + 1) := worth_lt h weight
    _ ≤ 10000 ^ (0 : Int) := zpow_le_zpow_right₀ (by norm_num) (by omega)
    _ = 1 := zpow_zero _

theorem group_of_neg {i : Int} (hi : i < 0) : group groups i = 0 := by
  rw [group, if_pos hi]

theorem group_cons_succ {i : Int} (hi : 0 ≤ i) : group (g :: groups) (i + 1) = group groups i := by
  have hindex : (i + 1).toNat = i.toNat + 1 := by omega
  rw [group, group, if_neg (by omega), if_neg (by omega), hindex, List.getD_cons_succ]

/-- Every group is a digit, also one that is not there. -/
theorem AreDigits.group (h : AreDigits groups) (i : Int) :
    0 ≤ group groups i ∧ group groups i ≤ 9999 := by
  unfold Numeric.group
  split
  · decide
  · by_cases hi : i.toNat < groups.length
    · rw [List.getD_eq_getElem _ _ hi]
      exact h _ (List.getElem_mem hi)
    · rw [List.getD_eq_default _ _ (by omega)]
      decide

/-- **One more group** behind the point shifts the whole number by four digits and puts the group
there, since what stands behind it is worth less than one. -/
theorem floor_worth_succ (h : AreDigits groups) (weight : Int) :
    ⌊worth groups (weight + 1)⌋₊
      = 10000 * ⌊worth groups weight⌋₊ + (group groups (weight + 1)).toNat := by
  induction groups generalizing weight with
  | nil => simp [worth_nil, group]
  | cons g groups ih =>
    obtain ⟨⟨hg, -⟩, hgroups⟩ := h.cons
    -- Where the first group stands: behind the next place, in it, or in front of it.
    rcases lt_trichotomy (weight + 1) 0 with hback | hhere | hfront
    · rw [floor_worth_of_neg h hback, floor_worth_of_neg h (by omega), group_of_neg hback]
      rfl
    · have hweight : weight = -1 := by omega
      subst hweight
      -- The first group is the whole part, the others are all behind the point.
      have hrest := worth_nonneg hgroups (-1)
      have hsmall := floor_worth_of_neg hgroups (show (-1 : Int) < 0 by decide)
      have hnat : (g : ℚ) = (g.toNat : ℕ) := by
        have hcast : ((g.toNat : ℕ) : Int) = g := Int.toNat_of_nonneg hg
        exact_mod_cast hcast.symm
      have hnone := floor_worth_of_neg h (show (-1 : Int) < 0 by decide)
      have hfirst : group (g :: groups) 0 = g := rfl
      rw [hnone, show (-1 : Int) + 1 = 0 from rfl, hfirst, worth_cons, zpow_zero, mul_one, zero_sub,
        add_comm (g : ℚ), hnat, Nat.floor_add_natCast hrest, hsmall]
    · -- Both floors are in front of the point, so the hypothesis speaks about the rest.
      obtain ⟨n, rfl⟩ := Int.eq_ofNat_of_zero_le (show 0 ≤ weight by omega)
      have hrest := ih hgroups ((n : Int) - 1)
      rw [sub_add_cancel] at hrest
      -- The first group adds a whole number to both sides.
      have hwhole : ∀ k : ℕ, ⌊worth (g :: groups) k⌋₊
          = ⌊worth groups ((k : Int) - 1)⌋₊ + g.toNat * 10000 ^ k := by
        intro k
        have hnat : (g : ℚ) * 10000 ^ (k : Int) = ((g.toNat * 10000 ^ k : ℕ) : ℚ) := by
          have hcast : ((g.toNat : ℕ) : ℚ) = g := by
            have hint : ((g.toNat : ℕ) : Int) = g := Int.toNat_of_nonneg hg
            exact_mod_cast hint
          push_cast
          rw [hcast, zpow_natCast]
        rw [worth_cons, hnat, add_comm, Nat.floor_add_natCast (worth_nonneg hgroups _)]
      have hnext := hwhole (n + 1)
      rw [Nat.cast_succ, add_sub_cancel_right] at hnext
      rw [hnext, hwhole n, hrest, group_cons_succ (by omega)]
      ring

end Worth

/-! ### Digits of groups -/

section Digits

variable {groups : List Int} {weight : Int}

theorem natDigitsPadded_four {n : ℕ} (h : n ≤ 9999) : (natDigitsPadded 4 n).length = 4 :=
  length_natDigitsPadded (by decide) (by omega)

theorem groupText_eq {g : Int} (hg : 0 ≤ g) : groupText g = natDigitsPadded 4 g.toNat := by
  have hnat : g.natAbs = g.toNat := by omega
  rw [groupText, if_neg (by omega), hnat]

/-- The texts of the groups behind a place. -/
def groupsText (groups : List Int) (place : Int) (n : ℕ) : List Char :=
  (List.range n).flatMap fun i : ℕ => groupText (group groups (place + 1 + (i : Int)))

/-- One group more is written behind the others. -/
theorem groupsText_succ (groups : List Int) (place : Int) (n : ℕ) :
    groupsText groups place (n + 1)
      = groupsText groups place n ++ groupText (group groups (place + 1 + (n : Int))) := by
  unfold groupsText
  rw [List.range_succ, List.flatMap_append, List.flatMap_singleton]

/-- Groups are written in digits only. -/
theorem isDigits_groupsText (h : AreDigits groups) (place : Int) (n : ℕ) :
    IsDigits (groupsText groups place n) := by
  intro c hc
  obtain ⟨i, -, hi⟩ := List.mem_flatMap.mp hc
  rw [groupText_eq (h.group _).1] at hi
  exact isDigits_natDigitsPadded _ _ c hi

/-- Every group takes four digits. -/
theorem length_groupsText (h : AreDigits groups) (place : Int) (n : ℕ) :
    (groupsText groups place n).length = 4 * n := by
  induction n with
  | zero => rfl
  | succ n ih =>
    obtain ⟨hlow, hhigh⟩ := h.group (place + 1 + (n : Int))
    rw [groupsText_succ, List.length_append, ih, groupText_eq hlow,
      natDigitsPadded_four (by omega)]
    omega

/-- **Digits up to a place.** Digits that spell the whole part at one place, and those of the groups
behind it, spell the whole part that many places further. -/
theorem natOfDigits_append_groupsText (h : AreDigits groups) {front : List Char} {place : Int}
    (hfront : natOfDigits front = ⌊worth groups place⌋₊) (n : ℕ) :
    natOfDigits (front ++ groupsText groups place n) = ⌊worth groups (place + n)⌋₊ := by
  -- One group more on the left is one place further on the right (`floor_worth_succ`).
  induction n with
  | zero => simpa [groupsText] using hfront
  | succ n ih =>
    obtain ⟨hlow, hhigh⟩ := h.group (place + 1 + (n : Int))
    have hplace : place + ((n + 1 : ℕ) : Int) = place + n + 1 := by
      push_cast
      ring
    have hgroup : place + 1 + (n : Int) = place + n + 1 := by ring
    rw [groupsText_succ, ← List.append_assoc, natOfDigits_append, ih, groupText_eq hlow,
      natDigitsPadded_four (by omega), natOfDigits_natDigitsPadded, hplace, floor_worth_succ h,
      hgroup]
    ring

/-- The whole part as it is written spells the whole part of the number. -/
theorem natOfDigits_wholeText (h : AreDigits groups) (weight : Int) :
    natOfDigits (wholeText groups weight) = ⌊worth groups weight⌋₊ := by
  unfold wholeText
  split
  · next hweight => rw [floor_worth_of_neg h hweight]; rfl
  · next hweight =>
    -- The first group is written without zeros in front, and no group is in front of it.
    have hfirst : natOfDigits (intDigits (group groups 0)) = ⌊worth groups 0⌋₊ := by
      have hstep := floor_worth_succ h (-1)
      have hnone := floor_worth_of_neg h (show (-1 : Int) < 0 by decide)
      rw [hnone, Nat.mul_zero, Nat.zero_add, show (-1 : Int) + 1 = 0 from rfl] at hstep
      have hnat : (group groups 0).natAbs = (group groups 0).toNat := by
        have hlow := (h.group 0).1
        omega
      rw [intDigits, if_neg (not_lt.mpr (h.group 0).1), natOfDigits_natDigits, hnat]
      exact hstep.symm
    have hgroups : ((List.range weight.toNat).flatMap fun i : ℕ =>
        groupText (group groups ((i : Int) + 1))) = groupsText groups 0 weight.toNat := by
      unfold groupsText
      refine List.flatMap_congr fun i _ => ?_
      rw [zero_add, add_comm]
    have hweight' : 0 + (weight.toNat : Int) = weight := by omega
    rw [hgroups, natOfDigits_append_groupsText h hfirst, hweight']

/-! ### The text of a decimal -/

/-- The whole part is written with digits only: a zero, or the first group and behind it the
others. -/
theorem isDigits_wholeText (h : AreDigits groups) (weight : Int) :
    IsDigits (wholeText groups weight) := by
  unfold wholeText
  -- The groups are no negative numbers, so none is written with a sign.
  split
  · exact List.forall_mem_singleton.mpr rfl
  · refine IsDigits.append ?_ ?_
    · rw [intDigits, if_neg (not_lt.mpr (h.group 0).1)]
      exact isDigits_natDigits _
    · intro c hc
      obtain ⟨i, -, hi⟩ := List.mem_flatMap.mp hc
      rw [groupText_eq (h.group _).1] at hi
      exact isDigits_natDigitsPadded _ _ c hi

/-- There is always a digit in front of the point. -/
theorem wholeText_ne_nil (groups : List Int) (weight : Int) : wholeText groups weight ≠ [] := by
  unfold wholeText intDigits
  split
  · decide
  · split
    · simp
    · simp [natDigits_ne_nil]

/-- The whole part begins with no superfluous zero: there is no group and none is expected, all
groups are behind the point, or the first one is not zero. -/
def Normalized (groups : List Int) (weight : Int) : Prop :=
  (groups = [] ∧ weight = 0) ∨ weight < 0 ∨ 0 < groups.headD 0

/-- A normalized number has no superfluous zero in front: it begins with a positive group, or all it
has in front of the point is a zero. -/
theorem wholeText_of_normalized (h : Normalized groups weight) :
    wholeText groups weight = ['0'] ∨ (wholeText groups weight).head? ≠ some '0' := by
  rcases h with ⟨rfl, rfl⟩ | hback | hfirst
  · left
    rw [wholeText, if_neg (by decide)]
    have hzero : intDigits (group [] 0) = ['0'] := natDigits_of_lt (by decide)
    rw [hzero]
    rfl
  · left
    rw [wholeText, if_pos hback]
  · by_cases hback : weight < 0
    · left
      rw [wholeText, if_pos hback]
    · right
      obtain ⟨g, rest, rfl⟩ : ∃ g rest, groups = g :: rest := by
        cases groups with
        | nil => exact absurd hfirst (by decide)
        | cons g rest => exact ⟨g, rest, rfl⟩
      have hg : 0 < g := hfirst
      have hgroup : group (g :: rest) 0 = g := rfl
      -- The first group is positive, and the digits of such a number do not begin with a zero.
      have hhead := head?_natDigits_ne (n := g.natAbs) (by omega)
      obtain ⟨c, cs, hc⟩ := List.exists_cons_of_ne_nil (natDigits_ne_nil g.natAbs)
      rw [wholeText, if_neg hback, hgroup, intDigits, if_neg (by omega), hc]
      rw [hc] at hhead
      exact hhead

/-- There are enough groups for the digits behind the point. -/
theorem length_fractionText (h : AreDigits groups) (weight : Int) (scale : ℕ) :
    (fractionText groups weight scale).length = scale := by
  have hlength := length_groupsText h weight ((scale + 3) / 4)
  change ((groupsText groups weight ((scale + 3) / 4)).take scale).length = scale
  rw [List.length_take, hlength]
  omega

/-- Behind the point there are digits only. -/
theorem isDigits_fractionText (h : AreDigits groups) (weight : Int) (scale : ℕ) :
    IsDigits (fractionText groups weight scale) := by
  intro c hc
  exact isDigits_groupsText h weight _ c (List.mem_of_mem_take hc)

/-- **All digits of a decimal** spell the whole part of the number with its point moved behind the
last digit that is shown. -/
theorem natOfDigits_layout (h : AreDigits groups) (weight : Int) (scale : ℕ) :
    natOfDigits (wholeText groups weight ++ fractionText groups weight scale)
      = ⌊worth groups weight * 10 ^ scale⌋₊ := by
  generalize hm : (scale + 3) / 4 = m
  -- The digits of whole groups are those that are shown with those that are not behind them.
  have hall : groupsText groups weight m
      = fractionText groups weight scale ++ (groupsText groups weight m).drop scale := by
    rw [← hm]
    exact (List.take_append_drop scale _).symm
  have hdigits : IsDigits ((groupsText groups weight m).drop scale) :=
    fun c hc => isDigits_groupsText h weight m c (List.mem_of_mem_drop hc)
  have hdropped : ((groupsText groups weight m).drop scale).length = 4 * m - scale := by
    rw [List.length_drop, length_groupsText h]
  -- Of whole groups the digits that are not shown are cut off.
  have hpower : (10000 : ℚ) ^ m = 10 ^ scale * ((10 ^ (4 * m - scale) : ℕ) : ℚ) := by
    push_cast
    rw [← pow_add, show scale + (4 * m - scale) = 4 * m by omega, pow_mul]
    norm_num
  have hpos : ((10 ^ (4 * m - scale) : ℕ) : ℚ) ≠ 0 := by positivity
  calc natOfDigits (wholeText groups weight ++ fractionText groups weight scale)
      = natOfDigits (wholeText groups weight ++ groupsText groups weight m)
          / 10 ^ (4 * m - scale) := by
        rw [hall, ← List.append_assoc, ← hdropped, natOfDigits_append_div _ hdigits]
    _ = ⌊worth groups (weight + m)⌋₊ / 10 ^ (4 * m - scale) := by
        rw [natOfDigits_append_groupsText h (natOfDigits_wholeText h weight)]
    _ = ⌊worth groups (weight + m) / ((10 ^ (4 * m - scale) : ℕ) : ℚ)⌋₊ :=
        (Nat.floor_div_natCast _ _).symm
    _ = ⌊worth groups weight * 10 ^ scale⌋₊ := by
        congr 1
        rw [worth_add, hpower]
        field_simp

/-! ### The number that a text shows -/

/-- The number that digits before and behind the point show. -/
def shown (whole fraction : List Char) : ℚ :=
  natOfDigits whole + natOfDigits fraction / 10 ^ fraction.length

/-- A number without the digits behind the first `scale` decimals. -/
def truncated (scale : ℕ) (x : ℚ) : ℚ :=
  ⌊x * 10 ^ scale⌋₊ / 10 ^ scale

/-- A shown number is worth its digits, divided by ten for each of them behind the point. -/
theorem shown_eq (whole fraction : List Char) :
    shown whole fraction = natOfDigits (whole ++ fraction) / 10 ^ fraction.length := by
  have hpos : (10 : ℚ) ^ fraction.length ≠ 0 := by positivity
  unfold shown
  rw [natOfDigits_append]
  push_cast
  field_simp

/-- **A decimal shows its number**, cut off behind the digits that it shows. -/
theorem shown_layout (h : AreDigits groups) (weight : Int) (scale : ℕ) :
    shown (wholeText groups weight) (fractionText groups weight scale)
      = truncated scale (worth groups weight) := by
  rw [shown_eq, natOfDigits_layout h, length_fractionText h, truncated]

/-! ### Groups that are worth a decimal -/

variable {n scale : ℕ}

/-- The whole part of a decimal, if there is no superfluous zero in front. -/
theorem wholeText_of_worth (h : AreDigits groups) (hnormalized : Normalized groups weight)
    (hworth : worth groups weight = n / 10 ^ scale) :
    wholeText groups weight = natDigits (n / 10 ^ scale) := by
  have hvalue : natOfDigits (wholeText groups weight) = n / 10 ^ scale := by
    rw [natOfDigits_wholeText h, hworth, ← Nat.floor_div_eq_div (K := ℚ)]
    push_cast
    rfl
  rw [← hvalue]
  exact eq_natDigits (wholeText_ne_nil groups weight) (isDigits_wholeText h weight)
    (wholeText_of_normalized hnormalized)

/-- The decimals of a decimal, filled up with zeros in front. -/
theorem fractionText_of_worth (h : AreDigits groups) (hworth : worth groups weight = n / 10 ^ scale)
    (hscale : scale ≠ 0) :
    fractionText groups weight scale = natDigitsPadded scale (n % 10 ^ scale) := by
  have hdigits := isDigits_fractionText h weight scale
  have hlength := length_fractionText h weight scale
  have hpos : (10 : ℚ) ^ scale ≠ 0 := by positivity
  -- All digits together spell `n`, so the last ones spell the remainder.
  have hall : natOfDigits (wholeText groups weight ++ fractionText groups weight scale) = n := by
    rw [natOfDigits_layout h, hworth, div_mul_cancel₀ _ hpos, Nat.floor_natCast]
  have hvalue : natOfDigits (fractionText groups weight scale) = n % 10 ^ scale := by
    rw [← natOfDigits_append_mod (wholeText groups weight) hdigits, hall, hlength]
  have hbound : n % 10 ^ scale < 10 ^ scale := Nat.mod_lt _ (by positivity)
  refine eq_of_natOfDigits hdigits (isDigits_natDigitsPadded _ _) ?_ ?_
  · rw [hlength, length_natDigitsPadded (Nat.pos_of_ne_zero hscale) hbound]
  · rw [hvalue, natOfDigits_natDigitsPadded]

end Digits

end Numeric

end StoreBridge
