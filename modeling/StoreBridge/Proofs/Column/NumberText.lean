import Mathlib.Data.List.TakeWhile
import StoreBridge.Column.Value
import StoreBridge.Proofs.Number.Digits
import StoreBridge.Proofs.Number.Nearest

/-!
# Integers sent as text

A number column that is sent as text may hold integers of any length. `SpellsInt` are the texts of
an integer, a sign or none and digits behind it, and `Json.DenotesInt` says which JSON values are
worth an integer: the integer itself, a double of just this value, or a text that spells it.

An integer of 64 bits is shown as it is. Every other text is read as a double
(`ofNumberText_of_not_int64`), and this is where digits are lost: a double has 53 significant bits.
So "integers stay exact" fails right behind the 64 bits (`serialNumber_changed`), and
`integer_text_shown` says what holds: which integers come through, how far off the others are, and
that a very large one is shown as the word for an infinite number.
-/

namespace StoreBridge

/-- **The texts of an integer**: a sign or none, and one or more digits behind it. -/
inductive SpellsInt : List Char → Int → Prop
  | unsigned {ds : List Char} (hne : ds ≠ []) (hds : IsDigits ds) : SpellsInt ds (natOfDigits ds)
  | plus {ds : List Char} (hne : ds ≠ []) (hds : IsDigits ds) :
      SpellsInt ('+' :: ds) (natOfDigits ds)
  | minus {ds : List Char} (hne : ds ≠ []) (hds : IsDigits ds) :
      SpellsInt ('-' :: ds) (-(natOfDigits ds : Int))

namespace SpellsInt

variable {cs ds : List Char} {i : Int}

/-- No digit is a sign, so nothing is taken off a text that begins with one. -/
theorem readSign_of_digits (hne : ds ≠ []) (hds : IsDigits ds) : readSign ds = (false, ds) := by
  obtain ⟨c, cs, rfl⟩ := List.exists_cons_of_ne_nil hne
  have hc : isDigit c = true := hds c List.mem_cons_self
  unfold readSign
  split
  · next heq =>
    rw [(List.cons.inj heq).1] at hc
    exact absurd hc (by decide)
  · next heq =>
    rw [(List.cons.inj heq).1] at hc
    exact absurd hc (by decide)
  · rfl

/-- A text of an integer is taken apart into its sign and its digits. -/
theorem exists_readSign (h : SpellsInt cs i) :
    ∃ negative ds, readSign cs = (negative, ds) ∧ ds ≠ [] ∧ IsDigits ds ∧
      i = Binary64.signed negative (natOfDigits ds) := by
  cases h with
  | unsigned hne hds => exact ⟨false, _, readSign_of_digits hne hds, hne, hds, rfl⟩
  | plus hne hds => exact ⟨false, _, rfl, hne, hds, rfl⟩
  | minus hne hds => exact ⟨true, _, rfl, hne, hds, rfl⟩

/-- Digits are read as the number that they stand for. -/
theorem natOfText?_of_digits (hne : ds ≠ []) (hds : IsDigits ds) :
    natOfText? ds = some (natOfDigits ds) := by
  unfold natOfText?
  rw [if_pos ⟨hne, List.all_eq_true.mpr hds⟩]

/-- A text that spells a whole number is read as this number. -/
theorem intOfText?_eq (h : SpellsInt cs i) : intOfText? cs = some i := by
  obtain ⟨negative, ds, hsign, hne, hds, rfl⟩ := h.exists_readSign
  unfold intOfText?
  rw [hsign]
  simp only [natOfText?_of_digits hne hds]
  rfl

end SpellsInt

/-! ### The double that a text of an integer spells -/

section Double

open Binary64

/-- A decimal without an exponent is the double nearest to its digits. The bound that spares the
power of ten settles nothing else than rounding does. -/
theorem Binary64.ofDecimal_zero (negative : Bool) (n : ℕ) :
    ofDecimal negative n 0 = ofRatio negative n 1 := by
  unfold ofDecimal
  by_cases hn : n = 0
  · unfold ofRatio
    rw [if_pos hn, if_pos hn]
  · rw [if_neg hn]
    simp only [Int.add_zero]
    -- Beyond the bound the answer is infinite at once. Rounding comes to the same, since such a
    -- number lies above every finite double.
    by_cases htop : 310 < (n.log2 : ℤ) * 30103 / 100000
    · rw [if_pos htop]
      have hlog : 52 ≤ n.log2 := by omega
      have hbig : ¬ n.log2 < 1024 := by omega
      rw [log2_lt_iff hn, Nat.not_lt] at hbig
      have hover : overflow ≤ n := Nat.le_trans overflow_le_pow hbig
      rw [ofRatio_one negative hlog, if_pos ((infiniteMagnitude_le_iff hlog).mpr hover)]
    · rw [if_neg htop, if_neg (by omega)]
      rw [show (0 : ℤ).toNat = 0 from rfl, show (-(0 : ℤ)).toNat = 0 from rfl, pow10_zero,
        Nat.mul_one]

variable {cs ds : List Char} {i : ℤ}

theorem asciiLower_of_isDigit {c : Char} (h : isDigit c = true) : asciiLower c = c := by
  have hrange := toNat_of_isDigit h
  unfold asciiLower
  rw [if_neg]
  rintro ⟨hlow, -⟩
  have hcode : 'A'.toNat ≤ c.toNat := hlow
  exact absurd (Nat.le_trans hcode hrange.2) (by decide)

/-- Digits alone are a decimal without a fraction and without an exponent. -/
theorem DecimalText.read?_of_digits (hne : ds ≠ []) (hds : IsDigits ds) :
    DecimalText.read? ds = some ⟨ds, [], 0⟩ := by
  have htake : ds.takeWhile isDigit = ds := List.takeWhile_eq_self_iff.mpr hds
  have hdrop : ds.dropWhile isDigit = [] := List.dropWhile_eq_nil_iff.mpr hds
  unfold DecimalText.read?
  simp only [htake, hdrop]
  rw [if_neg fun h => hne h.1]
  rfl

/-- A word begins with a letter. -/
theorem map_asciiLower_ne_cons (hne : ds ≠ []) (hds : IsDigits ds) (letter : Char)
    (hletter : isDigit letter = false) (rest : List Char) : ds.map asciiLower ≠ letter :: rest := by
  intro heq
  obtain ⟨d, more, rfl⟩ := List.exists_cons_of_ne_nil hne
  have hd : isDigit d = true := hds d List.mem_cons_self
  rw [List.map_cons, asciiLower_of_isDigit hd] at heq
  rw [← (List.cons.inj heq).1, hd] at hletter
  exact Bool.false_ne_true hletter.symm

/-- **The text of an integer**, read as a double, gives the nearest one. -/
theorem SpellsInt.ofText?_eq (h : SpellsInt cs i) (hi : i ≠ 0) :
    Binary64.ofText? cs = some (ofInt i) := by
  obtain ⟨negative, ds, hsign, hne, hds, rfl⟩ := h.exists_readSign
  -- A text of digits is none of the words, and it spells no zero, so its sign is that of the
  -- integer.
  have hinf : ¬ (ds.map asciiLower = "inf".toList ∨ ds.map asciiLower = "infinity".toList) := by
    rintro (heq | heq)
    · exact map_asciiLower_ne_cons hne hds 'i' rfl _ heq
    · exact map_asciiLower_ne_cons hne hds 'i' rfl _ heq
  have hnan : ds.map asciiLower ≠ "nan".toList := map_asciiLower_ne_cons hne hds 'n' rfl _
  have hpos : natOfDigits ds ≠ 0 := fun hzero => hi (by rw [hzero]; cases negative <;> rfl)
  have hneg : decide (signed negative (natOfDigits ds) < 0) = negative :=
    Bool.eq_iff_iff.mpr (decide_eq_true_iff.trans (signed_neg_iff hpos))
  unfold Binary64.ofText?
  rw [hsign]
  simp only [DecimalText.read?_of_digits hne hds, Option.map_some]
  rw [if_neg hinf, if_neg hnan, DecimalText.toDouble, ofInt, natAbs_signed, hneg, List.append_nil]
  exact congrArg some (ofDecimal_zero negative _)

end Double

/-! ### What is shown -/

/-- **The JSON values that are worth an integer**: the integer, a double of this value, and the
texts that spell it. -/
inductive Json.DenotesInt : Json → Int → Prop
  | int (i : Int) : DenotesInt (.int i) i
  | double {x : Binary64} {i : Int} (hx : x.isFinite = true)
      (hunits : x.units = i * Binary64.unitsPerOne) : DenotesInt (.double x) i
  | text {s : String} {i : Int} (hs : SpellsInt s.toList i) : DenotesInt (.string s) i

/-- A double denotes a whole number exactly if it is this number, counted in its smallest units. -/
theorem Json.denotesInt_double_iff {x : Binary64} {i : Int} (hx : x.isFinite = true) :
    (Json.double x).DenotesInt i ↔ x.units = i * Binary64.unitsPerOne := by
  constructor
  · rintro (_ | ⟨-, hunits⟩)
    exact hunits
  · exact .double hx

section Shown

open Binary64 Json

variable {text : String} {i : ℤ}

/-- The word for an infinite number. -/
def infiniteText (negative : Bool) : String := if negative then "-inf" else "inf"

theorem Column.ofFloat_infinity (negative : Bool) :
    Column.ofFloat (infinity negative) = .string (infiniteText negative) := by
  cases negative <;> decide +kernel

/-- The word for an infinite number spells no integer. -/
theorem not_denotesInt_infiniteText (negative : Bool) :
    ¬ (Json.string (infiniteText negative)).DenotesInt i := by
  rintro (_ | _ | hs)
  have hread := hs.intOfText?_eq
  cases negative
  · exact absurd hread nofun
  · exact absurd hread nofun

theorem Column.ofFloat_of_isFinite {x : Binary64} (hx : x.isFinite = true) :
    Column.ofFloat x = .double x := by
  rw [Column.ofFloat, if_pos hx]

/-- An integer of more than 64 bits has more than 53. -/
theorem log2_of_not_int64 (hi : isInt64 i = false) : 52 ≤ i.natAbs.log2 := by
  have hnot : ¬ (minInt64 ≤ i ∧ i ≤ maxInt64) := by
    rw [← isInt64_iff, hi]
    exact Bool.false_ne_true
  have hbig : 2 ^ 52 ≤ i.natAbs := by
    unfold minInt64 maxInt64 at hnot
    omega
  have hne : i.natAbs ≠ 0 := by omega
  exact (Nat.le_log2 hne).mpr hbig

/-- A whole number of 64 bits is read as such. -/
theorem ofNumberText_of_int64 (h : SpellsInt text.toList i) (hi : isInt64 i = true) :
    Column.ofNumberText text = .int i := by
  unfold Column.ofNumberText
  rw [h.intOfText?_eq, Option.filter_some, if_pos hi]

/-- **Beyond 64 bits** the nearest double is shown. -/
theorem ofNumberText_of_not_int64 (h : SpellsInt text.toList i) (hi : isInt64 i = false) :
    Column.ofNumberText text = Column.ofFloat (ofInt i) := by
  have hne : i ≠ 0 := by
    rintro rfl
    exact absurd hi (by decide)
  unfold Column.ofNumberText
  rw [h.intOfText?_eq, Option.filter_some, if_neg (by rw [hi]; exact Bool.false_ne_true)]
  simp only [h.ofText?_eq hne]

/-- How far the double is from the integer is how far this is rounded. -/
theorem units_ofInt_sub (hlog : 52 ≤ i.natAbs.log2) (hlimit : i.natAbs < overflow) :
    ((ofInt i).units - i * unitsPerOne).natAbs =
      ((nearest i.natAbs : ℤ) - i.natAbs).natAbs * unitsPerOne := by
  -- Everything is measured in the smallest unit, of which `unitsPerOne` make a whole.
  have hunits : (ofInt i).units - i * unitsPerOne =
      (signed (i < 0) (nearest i.natAbs) - i) * unitsPerOne := by
    rw [(units_ofInt hlog hlimit).2]
    unfold signed
    split <;> push_cast <;> ring
  rw [hunits, Int.natAbs_mul, Int.natAbs_natCast]
  congr 1
  -- The sign of both is the same.
  unfold signed
  rcases Int.lt_or_le i 0 with hneg | hpos
  · rw [if_pos (decide_eq_true hneg)]
    omega
  · rw [if_neg (by simpa using hpos)]
    omega

/-- **Which integers come through.** Those of 64 bits, and of the larger ones those with 53
significant bits that are not too large for a double. -/
theorem denotesInt_ofNumberText_iff (h : SpellsInt text.toList i) :
    (Column.ofNumberText text).DenotesInt i ↔
      isInt64 i = true ∨
        (i.natAbs < overflow ∧ ∃ m k, m < 2 ^ 53 ∧ i.natAbs = m * 2 ^ k) := by
  -- Integers of 64 bits are parsed as such; only the larger ones go through a double.
  cases hi : isInt64 i with
  | true =>
    rw [ofNumberText_of_int64 h hi]
    exact iff_of_true (.int i) (.inl rfl)
  | false =>
    have hlog := log2_of_not_int64 hi
    rw [ofNumberText_of_not_int64 h hi, or_iff_right Bool.false_ne_true, ← nearest_eq_iff hlog]
    rcases Nat.lt_or_ge i.natAbs overflow with hlimit | hlimit
    · rw [and_iff_right hlimit]
      have hfinite := (units_ofInt hlog hlimit).1
      have hoff := units_ofInt_sub hlog hlimit
      rw [Column.ofFloat_of_isFinite hfinite]
      have hone : unitsPerOne ≠ 0 := Nat.ne_of_gt (pow2_pos 1074)
      -- The double is the integer if the two are no distance apart.
      rw [denotesInt_double_iff hfinite, ← Int.sub_eq_zero, ← Int.natAbs_eq_zero, hoff,
        Nat.mul_eq_zero, or_iff_left hone, Int.natAbs_eq_zero, Int.sub_eq_zero, Int.natCast_inj]
    · -- Too large for a double: what is shown is a word.
      rw [ofInt_of_large hlimit, Column.ofFloat_infinity]
      exact iff_of_false (not_denotesInt_infiniteText _) fun h => Nat.not_le_of_lt h.1 hlimit

/-- **Integers sent as text.** An integer of 64 bits is shown as it is. A larger one comes through
exactly if it has no more than 53 significant bits and is not too large for a double. Otherwise the
number that is shown differs by one part in `2^53` at most, or is the word for an infinite one. -/
theorem integer_text_shown (h : SpellsInt text.toList i) :
    ((Column.ofNumberText text).DenotesInt i ↔
      isInt64 i = true ∨
        (i.natAbs < overflow ∧ ∃ m k, m < 2 ^ 53 ∧ i.natAbs = m * 2 ^ k)) ∧
    (isInt64 i = true → Column.ofNumberText text = .int i) ∧
    (isInt64 i = false → i.natAbs < overflow →
      ∃ x : Binary64, Column.ofNumberText text = .double x ∧ x.isFinite = true ∧
        (x.units - i * unitsPerOne).natAbs * 2 ^ 53 ≤ i.natAbs * unitsPerOne) ∧
    (overflow ≤ i.natAbs → Column.ofNumberText text = .string (infiniteText (i < 0))) := by
  refine ⟨denotesInt_ofNumberText_iff h, ofNumberText_of_int64 h, ?_, ?_⟩
  · intro hi hlimit
    have hlog := log2_of_not_int64 hi
    have hfinite := (units_ofInt hlog hlimit).1
    refine ⟨ofInt i, ?_, hfinite, ?_⟩
    · rw [ofNumberText_of_not_int64 h hi, Column.ofFloat_of_isFinite hfinite]
    · rw [units_ofInt_sub hlog hlimit, Nat.mul_right_comm]
      exact Nat.mul_le_mul_right _ (natAbs_nearest_sub_le hlog)
  · -- An integer beyond all doubles is beyond 64 bits too.
    intro hlimit
    have hbig : pow2 64 ≤ i.natAbs :=
      Nat.le_trans (pow2_le_pow2 (by decide)) (Nat.le_trans pow_le_overflow hlimit)
    have hi : isInt64 i = false := by
      rw [pow2_eq] at hbig
      rw [← Bool.not_eq_true, isInt64_iff]
      unfold minInt64 maxInt64
      omega
    rw [ofNumberText_of_not_int64 h hi, ofInt_of_large hlimit, Column.ofFloat_infinity]

end Shown

/-- A serial number of nineteen digits, one more than 63 bits can count. -/
def serialNumber : String := "9223372036854775809"

/-- The serial number spells the number after the last one of 64 bits. -/
theorem serialNumber_spells : SpellsInt serialNumber.toList 9223372036854775809 := by
  have hdigits : IsDigits serialNumber.toList := List.all_eq_true.mp (by decide)
  have hvalue : (natOfDigits serialNumber.toList : ℤ) = 9223372036854775809 := by decide
  rw [← hvalue]
  exact .unsigned (by decide) hdigits

/-- The serial number is shown as a double next to it. -/
theorem serialNumber_shown :
    SpellsInt serialNumber.toList 9223372036854775809 ∧
      ∃ x : Binary64, Column.ofNumberText serialNumber = .double x ∧
        (x.units - 9223372036854775809 * Binary64.unitsPerOne).natAbs * 2 ^ 53 ≤
          (9223372036854775809 : ℤ).natAbs * Binary64.unitsPerOne := by
  refine ⟨serialNumber_spells, ?_⟩
  obtain ⟨-, -, hnear, -⟩ := integer_text_shown serialNumber_spells
  -- One of 65 bits is far from the largest double. The power itself is too long to be compared.
  have hlimit : (9223372036854775809 : ℤ).natAbs < Binary64.overflow := by
    have hsmall : (9223372036854775809 : ℤ).natAbs < pow2 64 := by decide
    exact Nat.lt_of_lt_of_le hsmall
      (Nat.le_trans (pow2_le_pow2 (by decide)) Binary64.pow_le_overflow)
  obtain ⟨x, hx, -, hoff⟩ := hnear (by decide) hlimit
  exact ⟨x, hx, hoff⟩

/-- **A serial number that is changed.** What is shown is not worth the integer that the text
spells. -/
theorem serialNumber_changed :
    SpellsInt serialNumber.toList 9223372036854775809 ∧
      ¬ (Column.ofNumberText serialNumber).DenotesInt 9223372036854775809 := by
  refine ⟨serialNumber_spells, ?_⟩
  have hshown : Column.ofNumberText serialNumber = .double ⟨0x43E0000000000000⟩ := by
    decide +kernel
  rw [hshown, Json.denotesInt_double_iff (by decide +kernel)]
  decide +kernel

end StoreBridge
