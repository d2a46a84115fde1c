import Mathlib.Data.List.TakeWhile
import Mathlib.Data.Nat.Digits.Lemmas
import StoreBridge.Proofs.Column.Worth

/-!
# Binary decimals decode to their text

A decimal is decoded from a header of four words and as many words as the header counts groups.

* `decode?_eq_none_iff` — decoding fails exactly when one of these words is missing;
* `decode?_of_carries` — otherwise it answers with the layout of what the words carry, unless the
  sign is one of the three that stand for no number.

What the layout shows is the subject of `Proofs.Column.Worth`; here it becomes the digits of a
decimal. A `Decimal` is a coefficient and the number of digits behind its point. Many buffers may
encode one decimal, because zero groups behind its last digit may be sent or not
(`Decimal.EncodedBy`), but a text without superfluous zeros in front and with a given number of
decimals is fixed by its value, so all of them decode to the plain text of the decimal
(`Decimal.EncodedBy.decode?_eq`). The encoding that sends no more groups than it has to is
`Decimal.encode` (`Decimal.encodedBy_encode`).
-/

namespace StoreBridge

namespace Numeric

/-! ### Words -/

section Words

variable {bs : Bytes} {n : ℕ}

/-- A word is missing exactly if the buffer ends before its second byte. -/
theorem word?_eq_none_iff (bs : Bytes) (i : ℕ) : word? bs i = none ↔ bs.length < i + 2 := by
  have hlength : ((bs.drop i).take 2).length = min 2 (bs.length - i) := by
    rw [List.length_take, List.length_drop]
  unfold word?
  split
  · next a b h =>
    rw [h] at hlength
    have htwo : 2 = min 2 (bs.length - i) := hlength
    exact iff_of_false nofun (by omega)
  · next hother =>
    refine iff_of_true rfl ?_
    -- Two bytes or more would have been a word.
    by_contra hlong
    have htwo : ((bs.drop i).take 2).length = 2 := by omega
    obtain ⟨a, b, h⟩ := List.length_eq_two.mp htwo
    exact hother a b h

/-- A word is there if both of its bytes are. -/
theorem exists_word?_iff (bs : Bytes) (i : ℕ) : (∃ w, word? bs i = some w) ↔ i + 2 ≤ bs.length := by
  rw [← Option.ne_none_iff_exists', Ne, word?_eq_none_iff, not_lt]

/-- What a list of indices is mapped to, item by item. -/
theorem mapM_range_eq_some_iff {f : ℕ → Option Int} {xs : List Int} :
    (List.range n).mapM f = some xs ↔ xs.length = n ∧ ∀ i < n, f i = xs[i]? := by
  -- On the number of indices, and the last one is split off, as `List.range_succ` does.
  induction n generalizing xs with
  | zero =>
    rw [List.range_zero, List.mapM_nil, List.length_eq_zero_iff]
    constructor
    · intro h
      exact ⟨(Option.some.inj h).symm, fun i hi => absurd hi (Nat.not_lt_zero i)⟩
    · rintro ⟨rfl, -⟩
      rfl
  | succ n ih =>
    have hsplit : (List.range (n + 1)).mapM f = some xs
        ↔ ∃ ys y, (List.range n).mapM f = some ys ∧ f n = some y ∧ ys ++ [y] = xs := by
      rw [List.range_succ, List.mapM_append]
      simp [Option.bind_eq_some_iff]
    rw [hsplit]
    constructor
    · rintro ⟨ys, y, hys, hy, rfl⟩
      obtain ⟨rfl, hitems⟩ := ih.mp hys
      refine ⟨List.length_append, fun i hi => ?_⟩
      rcases Nat.lt_succ_iff_lt_or_eq.mp hi with hi | rfl
      · rw [hitems i hi, List.getElem?_append_left hi]
      · rw [hy, List.getElem?_concat_length]
    · rintro ⟨hlength, hitems⟩
      -- What is mapped is cut into all but the last item and the last one.
      have hlast := hitems n (Nat.lt_succ_self n)
      have hne : n < xs.length := by omega
      refine ⟨xs.take n, xs[n], ih.mpr ⟨?_, fun i hi => ?_⟩, ?_, ?_⟩
      · rw [List.length_take]
        omega
      · rw [hitems i (by omega), List.getElem?_take_of_lt hi]
      · rw [hlast, List.getElem?_eq_getElem hne]
      · rw [List.take_append_getElem, ← hlength, List.take_length]

/-- The number of groups that the header counts; a negative count is none. -/
def groupCount (bs : Bytes) : ℕ :=
  ((word? bs 0).getD 0).toNat

/-- What the words of a buffer are: the count of the groups and the rest of the header, and as many
groups as are counted. -/
structure Carries (bs : Bytes) (weight sign scale : Int) (groups : List Int) : Prop where
  count : ∃ count, word? bs 0 = some count ∧ groups.length = count.toNat
  weight : word? bs 2 = some weight
  sign : word? bs 4 = some sign
  scale : word? bs 6 = some scale
  groups : ∀ i < groups.length, word? bs (8 + 2 * i) = groups[i]?

variable {weight sign scale : Int} {groups : List Int}

/-- Every word of the header and every group that is counted has to be there. -/
theorem exists_carries_iff (bs : Bytes) :
    (∃ weight sign scale groups, Carries bs weight sign scale groups)
      ↔ 8 + 2 * groupCount bs ≤ bs.length := by
  constructor
  · rintro ⟨weight, sign, scale, groups, h⟩
    obtain ⟨count, hcount, hlength⟩ := h.count
    have hgroups : groupCount bs = groups.length := by
      rw [groupCount, hcount, hlength]
      rfl
    -- The scale is the last word of the header, so the header is there whole.
    have hheader := (exists_word?_iff bs 6).mp ⟨scale, h.scale⟩
    rcases Nat.eq_zero_or_pos groups.length with hzero | hpos
    · omega
    · -- The last group is the last word that is read.
      have hlast := h.groups (groups.length - 1) (by omega)
      rw [List.getElem?_eq_getElem (by omega)] at hlast
      have hend := (exists_word?_iff bs _).mp ⟨_, hlast⟩
      omega
  · intro hlong
    obtain ⟨count, hcount⟩ := (exists_word?_iff bs 0).mpr (by omega)
    obtain ⟨weight, hweight⟩ := (exists_word?_iff bs 2).mpr (by omega)
    obtain ⟨sign, hsign⟩ := (exists_word?_iff bs 4).mpr (by omega)
    obtain ⟨scale, hscale⟩ := (exists_word?_iff bs 6).mpr (by omega)
    have hlength : groupCount bs = count.toNat := by
      rw [groupCount, hcount]
      rfl
    -- Every word is in the buffer, so the default is never taken.
    let groups := (List.range count.toNat).map fun i => (word? bs (8 + 2 * i)).getD 0
    have hgroups : groups.length = count.toNat := by
      rw [List.length_map, List.length_range]
    refine ⟨weight, sign, scale, groups, ⟨count, hcount, hgroups⟩, hweight, hsign, hscale, ?_⟩
    intro i hi
    obtain ⟨w, hw⟩ := (exists_word?_iff bs (8 + 2 * i)).mpr (by omega)
    rw [List.getElem?_map, List.getElem?_range (by omega), hw]
    simp [hw]

/-- The text of what a buffer carries. -/
theorem decode?_of_carries (h : Carries bs weight sign scale groups) :
    decode? bs = some (
      if sign = -0x4000 then "NaN"
      else if sign = -0x3000 then "Infinity"
      else if sign = -0x1000 then "-Infinity"
      else String.ofList (layout (sign = 0x4000) groups weight scale.toNat)) := by
  obtain ⟨count, hcount, hlength⟩ := h.count
  -- The groups are read one by one at the indices that the count allows.
  have hgroups : (List.range count.toNat).mapM (fun i => word? bs (8 + 2 * i)) = some groups := by
    rw [← hlength]
    exact mapM_range_eq_some_iff.mpr ⟨rfl, h.groups⟩
  unfold decode?
  rw [hcount, h.weight, h.sign, h.scale]
  simp only [Option.bind_eq_bind, Option.bind_some]
  rw [hgroups]
  simp only [Option.bind_some]
  split_ifs <;> rfl

/-- The signs of numbers do not stand for anything else. -/
theorem decode?_of_number (h : Carries bs weight sign scale groups)
    (hsign : sign = 0 ∨ sign = 0x4000) :
    decode? bs = some (String.ofList (layout (sign = 0x4000) groups weight scale.toNat)) := by
  have hnumber : sign ≠ -0x4000 ∧ sign ≠ -0x3000 ∧ sign ≠ -0x1000 := by omega
  rw [decode?_of_carries h, if_neg hnumber.1, if_neg hnumber.2.1, if_neg hnumber.2.2]

/-- Only a buffer that is long enough is decoded. -/
theorem carries_of_decode? {text : String} (h : decode? bs = some text) :
    ∃ weight sign scale groups, Carries bs weight sign scale groups := by
  simp only [decode?, Option.bind_eq_bind, Option.bind_eq_some_iff] at h
  obtain ⟨count, hcount, weight, hweight, sign, hsign, scale, hscale, groups, hgroups, -⟩ := h
  obtain ⟨hlength, hitems⟩ := mapM_range_eq_some_iff.mp hgroups
  refine ⟨weight, sign, scale, groups, ⟨count, hcount, hlength⟩, hweight, hsign, hscale, ?_⟩
  rw [hlength]
  exact hitems

/-- **Decoding fails for missing bytes only.** -/
theorem decode?_eq_none_iff (bs : Bytes) :
    decode? bs = none ↔ bs.length < 8 + 2 * groupCount bs := by
  rw [← not_le, ← exists_carries_iff]
  constructor
  · rintro hnone ⟨weight, sign, scale, groups, h⟩
    rw [decode?_of_carries h] at hnone
    exact absurd hnone nofun
  · intro hmissing
    rw [Option.eq_none_iff_forall_ne_some]
    exact fun text h => hmissing (carries_of_decode? h)

end Words

/-! ### Writing words -/

section Writing

/-- The two bytes of a word, the most significant one first. -/
def wordBytes (w : Int) : Bytes :=
  let n := (w % 65536).toNat
  [UInt8.ofNat (n / 256), UInt8.ofNat (n % 256)]

/-- A number that a word holds. -/
def FitsWord (w : Int) : Prop :=
  -32768 ≤ w ∧ w < 32768

/-- A word that fits into 16 bits is read back from its two bytes, its sign included. -/
theorem word?_wordBytes {w : Int} (h : FitsWord w) (rest : Bytes) :
    word? (wordBytes w ++ rest) 0 = some w := by
  obtain ⟨hlow, hhigh⟩ := h
  have hsmall : (w % 65536).toNat < 65536 := by omega
  have hbytes : Bytes.toNat (wordBytes w) = (w % 65536).toNat := by
    simp only [Bytes.toNat, wordBytes, List.foldl_cons, List.foldl_nil, UInt8.toNat_ofNat']
    omega
  -- Half of the range stands for the negative words.
  have hsigned : Bytes.signed 16 (w % 65536).toNat = w := by
    have hhalf : pow2 (16 - 1) = 32768 := rfl
    have hfull : pow2 16 = 65536 := rfl
    rw [Bytes.signed, hhalf, hfull]
    split <;> omega
  rw [← hbytes] at hsigned
  exact congrArg some hsigned

/-- **Reading written words**: the word at byte `2 * i` is the `i`-th one. By induction on the
words, which put two bytes each. -/
theorem word?_flatMap_wordBytes {ws : List Int} (h : ∀ w ∈ ws, FitsWord w) (i : ℕ) :
    word? (ws.flatMap wordBytes) (2 * i) = ws[i]? := by
  -- Each word is two bytes wide, so its place moves by two with every word in front.
  induction ws generalizing i with
  | nil =>
    rw [List.getElem?_nil, word?_eq_none_iff]
    exact Nat.zero_lt_succ _
  | cons w ws ih =>
    obtain ⟨hw, hws⟩ := List.forall_mem_cons.mp h
    rw [List.flatMap_cons]
    cases i with
    | zero => exact word?_wordBytes hw _
    | succ i =>
      rw [List.getElem?_cons_succ, ← ih hws i]
      rfl

end Writing

/-! ### Groups of a number -/

/-- Digits to the base 10000, the last one first, are the groups of the number they spell. -/
theorem worth_reverse (ds : List ℕ) (k : Int) :
    worth (ds.reverse.map Nat.cast) (ds.length - 1 + k)
      = (Nat.ofDigits 10000 ds : ℕ) * 10000 ^ k := by
  -- On the digits. One more digit shifts those behind it by one place, which `k` takes up.
  induction ds generalizing k with
  | nil => simp [worth_nil]
  | cons d ds ih =>
    have hfront : (((d :: ds).length : ℕ) : Int) - 1 + k = ds.length - 1 + (k + 1) := by
      rw [List.length_cons]
      push_cast
      ring
    have hlast : (ds.length : Int) - 1 + (k + 1) - (ds.reverse.map (Nat.cast : ℕ → Int)).length
        = k := by
      rw [List.length_map, List.length_reverse]
      ring
    rw [List.reverse_cons, List.map_append, worth_append, hfront, ih, hlast, List.map_singleton,
      worth_cons, worth_nil, Nat.ofDigits_cons, zpow_add_one₀ (by norm_num)]
    push_cast
    ring

/-! ### Decimals -/

/-- A decimal number with a given number of digits behind its point. -/
structure Decimal where
  coefficient : Int
  scale : ℕ
  deriving DecidableEq, Repr

namespace Decimal

/-- The absolute value of a decimal. -/
def magnitude (d : Decimal) : ℚ :=
  d.coefficient.natAbs / 10 ^ d.scale

/-- **The plain text of a decimal**: a minus sign if it is negative, its whole part, and behind a
point the digits of its fraction. -/
def text (d : Decimal) : String :=
  String.ofList <|
    (if d.coefficient < 0 then ['-'] else [])
      ++ natDigits (d.coefficient.natAbs / 10 ^ d.scale)
      ++ (if d.scale = 0 then []
          else '.' :: natDigitsPadded d.scale (d.coefficient.natAbs % 10 ^ d.scale))

/-- The word for the sign of a decimal. -/
def signWord (d : Decimal) : Int :=
  if d.coefficient < 0 then 0x4000 else 0

/-- A buffer encodes a decimal: it carries its sign and scale, and normalized groups of its
worth. -/
def EncodedBy (d : Decimal) (bs : Bytes) : Prop :=
  ∃ weight groups, Carries bs weight d.signWord d.scale groups ∧ AreDigits groups ∧
    Normalized groups weight ∧ worth groups weight = d.magnitude

/-- **Every encoding** of a decimal decodes to its text. -/
theorem EncodedBy.decode?_eq {d : Decimal} {bs : Bytes} (h : d.EncodedBy bs) :
    decode? bs = some d.text := by
  obtain ⟨weight, groups, hcarries, hdigits, hnormalized, hworth⟩ := h
  have hsign : d.signWord = 0 ∨ d.signWord = 0x4000 := by
    unfold signWord
    split
    · exact .inr rfl
    · exact .inl rfl
  have hnegative : d.signWord = 0x4000 ↔ d.coefficient < 0 := by
    unfold signWord
    split <;> simp_all
  rw [decode?_of_number hcarries hsign, layout, text, wholeText_of_worth hdigits hnormalized hworth,
    Int.toNat_natCast]
  simp only [hnegative, decide_eq_true_eq]
  -- A point is written only in front of a fraction.
  by_cases hscale : d.scale = 0
  · rw [if_pos hscale, if_pos hscale]
  · rw [if_neg hscale, if_neg hscale, fractionText_of_worth hdigits hworth hscale]

/-! ### The shortest encoding -/

/-- The number of groups that the digits behind the point need. -/
def groupsBehind (d : Decimal) : ℕ :=
  (d.scale + 3) / 4

/-- A decimal as a multiple of its last group. -/
def units (d : Decimal) : ℕ :=
  d.coefficient.natAbs * 10 ^ (4 * d.groupsBehind - d.scale)

/-- The groups of a decimal, the last one first. -/
def digits (d : Decimal) : List ℕ :=
  Nat.digits 10000 d.units

/-- The groups that are sent: those in front of the zeros at the end. -/
def groups (d : Decimal) : List Int :=
  (d.digits.dropWhile (· == 0)).reverse.map Nat.cast

/-- The weight of the first group. -/
def weight (d : Decimal) : Int :=
  if d.coefficient = 0 then 0 else d.digits.length - 1 - d.groupsBehind

/-- The words of a decimal. -/
def words (d : Decimal) : List Int :=
  (d.groups.length : Int) :: d.weight :: d.signWord :: (d.scale : Int) :: d.groups

/-- **The encoding of a decimal.** -/
def encode (d : Decimal) : Bytes :=
  d.words.flatMap wordBytes

/-- The words of the header hold the count of the groups, the weight and the scale. All three are
signed words of 16 bits, and a decimal for which one of them is too large has no encoding. -/
def Fits (d : Decimal) : Prop :=
  FitsWord d.groups.length ∧ FitsWord d.weight ∧ FitsWord d.scale

section Encode

variable {d : Decimal}

/-- A decimal without a coefficient is zero, wherever its point is. -/
theorem units_eq_zero_iff (d : Decimal) : d.units = 0 ↔ d.coefficient = 0 := by
  rw [units, Nat.mul_eq_zero, Int.natAbs_eq_zero]
  exact or_iff_left (by positivity)

/-- The units of a decimal are its magnitude in the last place that its groups reach. -/
theorem units_eq (d : Decimal) : (d.units : ℚ) = d.magnitude * 10000 ^ d.groupsBehind := by
  -- The groups reach at least as far as the scale, four digits each.
  have hlong : d.scale + (4 * d.groupsBehind - d.scale) = 4 * d.groupsBehind := by
    unfold groupsBehind
    omega
  have hpower : (10000 : ℚ) ^ d.groupsBehind
      = 10 ^ d.scale * 10 ^ (4 * d.groupsBehind - d.scale) := by
    rw [← pow_add, hlong, pow_mul]
    norm_num
  have hpos : (10 : ℚ) ^ d.scale ≠ 0 := by positivity
  rw [units, magnitude, hpower]
  push_cast
  field_simp

/-- The groups that are not sent are zeros. -/
theorem digits_eq (d : Decimal) :
    ∃ zeros, d.digits = List.replicate zeros 0 ++ d.digits.dropWhile (· == 0) := by
  have hzero : ∀ x ∈ d.digits.takeWhile (· == 0), x = 0 := by
    intro x hx
    exact beq_iff_eq.mp (List.mem_takeWhile_imp (p := (· == 0)) hx)
  refine ⟨(d.digits.takeWhile (· == 0)).length, ?_⟩
  rw [← List.eq_replicate_of_mem hzero, List.takeWhile_append_dropWhile]

/-- The groups of a decimal are groups of four digits. -/
theorem areDigits_groups (d : Decimal) : AreDigits d.groups := by
  intro g hg
  obtain ⟨x, hx, rfl⟩ := List.mem_map.mp hg
  have hmem : x ∈ d.digits := (List.dropWhile_sublist _).subset (List.mem_reverse.mp hx)
  have hlt : x < 10000 := Nat.digits_lt_base (by decide) hmem
  omega

/-- Zero has no groups. -/
theorem digits_of_zero (hzero : d.coefficient = 0) : d.digits = [] := by
  rw [digits, (units_eq_zero_iff d).mpr hzero, Nat.digits_zero]

/-- A decimal that is not zero has a first group, and it is positive: the zeros that are dropped
stand at the other end. -/
theorem exists_groups_cons (hzero : d.coefficient ≠ 0) :
    ∃ g rest, d.groups = g :: rest ∧ 0 < g := by
  have hunits : d.units ≠ 0 := fun h => hzero ((units_eq_zero_iff d).mp h)
  have hne : d.digits ≠ [] := Nat.digits_ne_nil_iff_ne_zero.mpr hunits
  have hlast : d.digits.getLast hne ≠ 0 := Nat.getLast_digit_ne_zero 10000 hunits
  obtain ⟨zeros, hsplit⟩ := digits_eq d
  have hsome : d.digits.dropWhile (· == 0) ≠ [] := by
    intro hnil
    -- All groups would be zeros, the first one too.
    have hall : ∀ x ∈ d.digits, x = 0 := by
      intro x hx
      rw [hsplit, hnil, List.append_nil] at hx
      exact List.eq_of_mem_replicate hx
    exact hlast (hall _ (List.getLast_mem hne))
  -- The zeros that are dropped are the low groups, so the highest one stays.
  have hhead : (d.digits.dropWhile (· == 0)).reverse.head? = some (d.digits.getLast hne) := by
    rw [List.head?_reverse, ← List.getLast?_append_of_ne_nil (List.replicate zeros 0) hsome,
      ← hsplit, List.getLast?_eq_some_getLast hne]
  obtain ⟨rest, hrest⟩ := List.head?_eq_some_iff.mp hhead
  refine ⟨(d.digits.getLast hne : ℕ), rest.map Nat.cast, ?_, by omega⟩
  rw [groups, hrest, List.map_cons]

/-- The groups of a decimal begin with no superfluous zero. -/
theorem normalized_groups (d : Decimal) : Normalized d.groups d.weight := by
  by_cases hzero : d.coefficient = 0
  · left
    rw [groups, digits_of_zero hzero, weight, if_pos hzero]
    exact ⟨rfl, rfl⟩
  · obtain ⟨g, rest, hgroups, hg⟩ := exists_groups_cons hzero
    rw [hgroups]
    exact .inr (.inr hg)

/-- **The groups of a decimal are worth its absolute value.** -/
theorem worth_groups (d : Decimal) : worth d.groups d.weight = d.magnitude := by
  -- Zero has no groups and is worth nothing, whatever its weight.
  by_cases hzero : d.coefficient = 0
  · rw [groups, digits_of_zero hzero, magnitude, hzero]
    simp [worth_nil]
  · obtain ⟨zeros, hsplit⟩ := digits_eq d
    generalize hsent : d.digits.dropWhile (· == 0) = sent at hsplit
    have hlength : (d.digits.length : Int) = zeros + sent.length := by
      rw [hsplit, List.length_append, List.length_replicate]
      push_cast
      rfl
    have hweight : d.weight = sent.length - 1 + (zeros - d.groupsBehind) := by
      rw [weight, if_neg hzero, hlength]
      ring
    have hunits : d.units = 10000 ^ zeros * Nat.ofDigits 10000 sent := by
      rw [← Nat.ofDigits_digits 10000 d.units, show Nat.digits 10000 d.units = d.digits from rfl,
        hsplit, Nat.ofDigits_append, Nat.ofDigits_replicate_zero, List.length_replicate, zero_add]
    -- The zeros that are not sent, and the places behind the point, both only shift.
    have hmagnitude : d.magnitude * 10000 ^ d.groupsBehind
        = (Nat.ofDigits 10000 sent : ℕ) * 10000 ^ zeros := by
      rw [← units_eq, hunits, mul_comm]
      push_cast
      rfl
    have hpos : (10000 : ℚ) ^ d.groupsBehind ≠ 0 := by positivity
    rw [groups, hsent, hweight, worth_reverse, zpow_sub₀ (by norm_num), zpow_natCast, zpow_natCast,
      mul_div_assoc', ← hmagnitude, mul_div_cancel_right₀ _ hpos]

/-- **The encoding of a decimal encodes it.** -/
theorem encodedBy_encode (h : d.Fits) : d.EncodedBy d.encode := by
  obtain ⟨hcount, hweight, hscale⟩ := h
  have hwords : ∀ w ∈ d.words, FitsWord w := by
    have hsign : FitsWord d.signWord := by
      unfold signWord FitsWord
      split <;> decide
    have hgroups : ∀ g ∈ d.groups, FitsWord g := by
      intro g hg
      obtain ⟨hlow, hhigh⟩ := areDigits_groups d g hg
      exact ⟨by omega, by omega⟩
    simp only [words, List.forall_mem_cons]
    exact ⟨hcount, hweight, hsign, hscale, hgroups⟩
  -- Every word is read back where it was written: the header first, the groups behind it.
  have hread := word?_flatMap_wordBytes hwords
  refine ⟨d.weight, d.groups, ⟨⟨_, hread 0, ?_⟩, hread 1, hread 2, hread 3, ?_⟩,
    areDigits_groups d, normalized_groups d, worth_groups d⟩
  · rw [Int.toNat_natCast]
  · intro i _
    have hplace : 8 + 2 * i = 2 * (i + 4) := by ring
    rw [hplace]
    exact hread (i + 4)

end Encode

end Decimal

/-! ### Decoding is exact -/

/-- **Binary decimals decode exactly.** Decoding fails exactly when bytes are missing; otherwise the
buffer carries a header and the groups that it counts. What is decoded from digits is a number of at
least one digit and, behind a point, as many digits as the scale says, which together show the worth
of the groups cut off behind the last digit, and there is no superfluous zero in front if the groups
are normalized. So whatever encodes a decimal decodes to its plain text, and every decimal whose
header fits into words has an encoding. -/
theorem decode?_exact :
    (∀ bs, decode? bs = none ↔ bs.length < 8 + 2 * groupCount bs) ∧
    (∀ bs, (∃ weight sign scale groups, Carries bs weight sign scale groups) ↔
      8 + 2 * groupCount bs ≤ bs.length) ∧
    (∀ bs weight sign scale groups, Carries bs weight sign scale groups →
      sign = 0 ∨ sign = 0x4000 → AreDigits groups →
      ∃ whole fraction,
        decode? bs = some (String.ofList ((if sign = 0x4000 then ['-'] else []) ++ whole ++
          (if 0 < scale then '.' :: fraction else []))) ∧
        whole ≠ [] ∧ IsDigits whole ∧ IsDigits fraction ∧ fraction.length = scale.toNat ∧
        shown whole fraction = truncated scale.toNat (worth groups weight) ∧
        (Normalized groups weight → whole = ['0'] ∨ whole.head? ≠ some '0')) ∧
    (∀ (d : Decimal) (bs : Bytes), d.EncodedBy bs → decode? bs = some d.text) ∧
    (∀ d : Decimal, d.Fits → d.EncodedBy d.encode ∧ decode? d.encode = some d.text) := by
  refine ⟨decode?_eq_none_iff, exists_carries_iff, ?_, fun d bs h => h.decode?_eq,
    fun d h => ⟨Decimal.encodedBy_encode h, (Decimal.encodedBy_encode h).decode?_eq⟩⟩
  -- What is said about digits is said by the lemmas about the two halves of the text.
  intro bs weight sign scale groups hcarries hsign hdigits
  refine ⟨wholeText groups weight, fractionText groups weight scale.toNat, ?_,
    wholeText_ne_nil groups weight, isDigits_wholeText hdigits weight,
    isDigits_fractionText hdigits weight _, length_fractionText hdigits weight _,
    shown_layout hdigits weight _, wholeText_of_normalized⟩
  rw [decode?_of_number hcarries hsign, layout]
  simp only [decide_eq_true_eq]
  by_cases hscale : 0 < scale
  · have hsome : scale.toNat ≠ 0 := by omega
    rw [if_pos hscale, if_neg hsome]
  · have hnone : scale.toNat = 0 := by omega
    rw [if_neg hscale, if_pos hnone]

/-- The buffer of −12345.678, which has a group in front of the point besides the first one and a
group of which three digits are shown. -/
def payment : Bytes :=
  [0, 3, 0, 1, 64, 0, 0, 3, 0, 1, 9, 41, 26, 124]

/-- The buffer of minus 12345.678: it decodes to this number, and without its last byte to
nothing. -/
theorem payment_decodes :
    payment.length = 8 + 2 * groupCount payment ∧
    decode? (payment.take 13) = none ∧
    (∃ whole fraction, decode? payment = some (String.ofList ('-' :: whole ++ '.' :: fraction)) ∧
      fraction.length = 3 ∧ shown whole fraction = truncated 3 (worth [1, 2345, 6780] 1)) ∧
    (⟨-12345678, 3⟩ : Decimal).Fits ∧
    (⟨-12345678, 3⟩ : Decimal).encode = payment ∧
    decode? payment = some (⟨-12345678, 3⟩ : Decimal).text ∧
    (⟨-12345678, 3⟩ : Decimal).text = "-12345.678" := by
  have hencode : (⟨-12345678, 3⟩ : Decimal).encode = payment := by
    simp [Decimal.encode, Decimal.words, Decimal.weight, Decimal.signWord, Decimal.groups,
      Decimal.digits, Decimal.units, Decimal.groupsBehind, wordBytes, payment]
  have hfits : (⟨-12345678, 3⟩ : Decimal).Fits := by
    simp [Decimal.Fits, FitsWord, Decimal.weight, Decimal.groups,
      Decimal.digits, Decimal.units, Decimal.groupsBehind]
  have hcarries : Carries payment 1 0x4000 3 [1, 2345, 6780] := by
    refine ⟨⟨3, by decide, by decide⟩, by decide, by decide, by decide, ?_⟩
    decide
  obtain ⟨whole, fraction, htext, -, -, -, hlength, hshown, -⟩ :=
    decode?_exact.2.2.1 payment 1 0x4000 3 [1, 2345, 6780] hcarries (.inr rfl)
      (by unfold AreDigits; decide)
  have hdecodes := (decode?_exact.2.2.2.2 ⟨-12345678, 3⟩ hfits).2
  rw [hencode] at hdecodes
  refine ⟨by decide, (decode?_exact.1 _).mpr (by decide), ⟨whole, fraction, htext, hlength, hshown⟩,
    hfits, hencode, hdecodes, ?_⟩
  simp [Decimal.text, natDigits, natDigitsPadded]
  rfl

end Numeric

end StoreBridge
