import Mathlib.Data.Int.Basic
import StoreBridge.Proofs.Members
import StoreBridge.Sqlite.Connection

/-!
# Values whose kind is guessed

What is shown for a value in a column whose type does not tell the kind of its values: the column of
an expression, or one whose declared type the driver does not know. `Denotes` says which JSON values
stand for a stored value, and it knows nothing of decoders.

The decoder tries a text, an integer and a double in turn (`Datum.decodeGuessing`). Only a text can
be read as a text, but everything can be read as an integer, so the double is never tried: what is
no text is shown as an integer (`Datum.decode_of_guessed`). This cuts a double toward zero and to 64
bits, and of bytes only the digits they begin with are left. `Datum.ShownAsStored` names the values
that survive this, and `guessed_value_shown` says that no other one does.
-/

namespace StoreBridge

/-! ### Doubles cut to integers -/

namespace Binary64

variable {x : Binary64} {lo hi i : Int}

/-- A double that is an integer is cut to this integer. -/
theorem truncate_eq (h : x.units = i * unitsPerOne) : x.truncate = i := by
  rw [truncate, h, Int.mul_tdiv_cancel _ unitsPerOne_ne_zero]

/-- A double is integral if it is finite and worth no more or less than its whole part. -/
theorem isIntegral_iff : x.isIntegral = true ↔
    x.isFinite = true ∧ x.units = x.truncate * unitsPerOne := by
  rw [isIntegral, Bool.and_eq_true, beq_iff_eq, ← Int.dvd_iff_emod_eq_zero]
  refine and_congr_right fun _ => ⟨fun h => (Int.tdiv_mul_cancel h).symm, fun h => ?_⟩
  exact ⟨x.truncate, h.trans (Int.mul_comm _ _)⟩

/-- **Cutting toward zero** changes a number by less than one. -/
theorem natAbs_units_sub_truncate_lt (x : Binary64) :
    (x.units - x.truncate * unitsPerOne).natAbs < unitsPerOne := by
  have hrest : x.units - x.truncate * unitsPerOne = x.units.tmod unitsPerOne := by
    rw [truncate, Int.mul_comm, Int.tmod_def]
  rw [hrest, Int.natAbs_tmod, Int.natAbs_natCast]
  exact Nat.mod_lt _ (pow2_pos 1074)

/-- A finite double becomes its whole part, cut to the range. -/
theorem saturate_of_isFinite (h : x.isFinite = true) :
    x.saturate lo hi = max lo (min hi x.truncate) := by
  have hfield : x.exponentField ≠ 2047 := by
    rw [isFinite, bne_iff_ne] at h
    exact h
  unfold saturate view
  rw [if_neg hfield]
  by_cases hzero : x.exponentField = 0
  · rw [if_pos hzero]
  · rw [if_neg hzero]

/-- What a double becomes is in the range. -/
theorem saturate_mem (x : Binary64) (hrange : lo ≤ 0 ∧ 0 ≤ hi) :
    lo ≤ x.saturate lo hi ∧ x.saturate lo hi ≤ hi := by
  unfold saturate
  split
  · exact hrange
  · split <;> omega
  · omega

/-- A whole part in the range is kept. -/
theorem saturate_of_mem (h : x.isFinite = true) (hlo : lo ≤ x.truncate) (hhi : x.truncate ≤ hi) :
    x.saturate lo hi = x.truncate := by
  rw [saturate_of_isFinite h]
  omega

/-- **A double survives the cut** exactly if it is whole and in the range. -/
theorem units_eq_saturate_iff (hrange : lo ≤ hi) :
    (x.isFinite = true ∧ x.units = x.saturate lo hi * unitsPerOne) ↔
      x.isIntegral = true ∧ lo ≤ x.truncate ∧ x.truncate ≤ hi := by
  constructor
  · -- What the cut leaves is whole, so if nothing was lost the double was whole, and within the
    -- bounds.
    rintro ⟨hfinite, hunits⟩
    have hcut := truncate_eq hunits
    refine ⟨isIntegral_iff.mpr ⟨hfinite, by rw [hcut]; exact hunits⟩, ?_⟩
    rw [saturate_of_isFinite hfinite] at hcut
    omega
  · rintro ⟨hwhole, hlo, hhi⟩
    obtain ⟨hfinite, hunits⟩ := isIntegral_iff.mp hwhole
    refine ⟨hfinite, ?_⟩
    rw [saturate_of_mem hfinite hlo hhi]
    exact hunits

end Binary64

/-! ### What stands for a stored value -/

/-- **The JSON values that stand for a stored value**: the same integer, the same number, the same
text, or the bytes in base64. A number that JSON cannot write is named. In a column whose type
mentions JSON a text that is JSON stands for the value it spells. -/
inductive Denotes (typeName : String) : Datum → Json → Prop
  | null : Denotes typeName .null .null
  | int (i : Int) : Denotes typeName (.int i) (.int i)
  | double {x y : Binary64} (hx : x.isFinite = true) (hy : y.isFinite = true)
      (hunits : x.units = y.units) : Denotes typeName (.real x) (.double y)
  | whole {x : Binary64} {i : Int} (hx : x.isFinite = true)
      (hunits : x.units = i * Binary64.unitsPerOne) : Denotes typeName (.real x) (.int i)
  | named {x : Binary64} (hx : x.isFinite = false) :
      Denotes typeName (.real x) (.string (String.ofList x.plainDigits))
  | text {s : String}
      (hs : occursIn "json".toList (lower typeName.toList) = true → Json.parse? s = none) :
      Denotes typeName (.text s) (.string s)
  | parsed {s : String} {v : Json} (hname : occursIn "json".toList (lower typeName.toList) = true)
      (hs : Json.parse? s = some v) : Denotes typeName (.text s) v
  | blob (bs : Bytes) : Denotes typeName (.blob bs) (.string (String.ofList (Base64.encode bs)))

/-- A category that leaves the kind of the values open. -/
def Category.IsGuessed (c : Category) : Prop :=
  c ∉ [Category.integer, .float, .decimal, .boolean, .binary]

instance (c : Category) : Decidable c.IsGuessed :=
  inferInstanceAs (Decidable (c ∉ _))

/-- **The types that leave the kind open**: besides the untyped columns, those of texts and of
times. -/
theorem ColumnType.isGuessed_iff (t : ColumnType) :
    (Category.ofTypeName .sqlite t.name).IsGuessed ↔
      t ∈ [ColumnType.untyped, .text, .date, .time, .datetime] := by
  cases t <;> decide

namespace Datum

/-- The value comes through the reading as a text or as an integer: it is null, an integer, a text,
or a double that is whole and within 64 bits. -/
def ShownAsStored : Datum → Prop
  | .null | .int _ | .text _ => True
  | .real x => x.isIntegral = true ∧ isInt64 x.truncate = true
  | .blob _ => False

instance : DecidablePred ShownAsStored
  | .null | .int _ | .text _ => .isTrue trivial
  | .real x => inferInstanceAs (Decidable (x.isIntegral = true ∧ isInt64 x.truncate = true))
  | .blob _ => .isFalse id

variable {typeName : String} {d : Datum}

/-- Whatever is no integer is read as one of 64 bits. -/
theorem isInt64_toInt (hd : d.int? = none) : isInt64 d.toInt = true := by
  have hclamp (i : Int) : minInt64 ≤ clampInt64 i ∧ clampInt64 i ≤ maxInt64 := by
    have hrange : minInt64 ≤ maxInt64 := by decide
    unfold clampInt64
    omega
  rw [isInt64_iff]
  -- Doubles, texts and bytes are all read into the range.
  cases d with
  | null => decide
  | int i => exact absurd hd nofun
  | real x => exact x.saturate_mem (by decide)
  | text s => exact hclamp _
  | blob bs => exact hclamp _

/-- **What is no text is shown as an integer.** The attempt to read a double is never made. -/
theorem decode_of_guessed (h : (Category.ofTypeName .sqlite typeName).IsGuessed) (hd : d ≠ .null) :
    d.decode typeName = d.text?.elim (.int d.toInt) (Column.ofText typeName) := by
  have hguess : d.decodeAs typeName (Category.ofTypeName .sqlite typeName) =
      d.decodeGuessing typeName := by
    -- Each of the five categories with a decoder of their own is excluded.
    generalize Category.ofTypeName .sqlite typeName = c at h
    cases c <;> first | rfl | exact absurd h (by decide)
  have hint : d.anyInt? = some d.toInt := by
    cases d with
    | null => exact absurd rfl hd
    | _ => rfl
  rw [decode, if_neg hd, hguess, decodeGuessing, hint]
  cases d.text? <;> rfl

/-- A text is shown as what it denotes for a column of its type. -/
theorem denotes_ofText (typeName s : String) :
    Denotes typeName (.text s) (Column.ofText typeName s) := by
  unfold Column.ofText
  split
  · next hname =>
    cases hs : Json.parse? s with
    | none => exact .text fun _ => hs
    | some v => exact .parsed hname hs
  · next hname => exact .text fun h => absurd h hname

/-- **The decoded value stands for the stored one** exactly if this comes through as a text or an
integer. -/
theorem denotes_decode_iff (h : (Category.ofTypeName .sqlite typeName).IsGuessed) (d : Datum) :
    Denotes typeName d (d.decode typeName) ↔ d.ShownAsStored := by
  have hshown : d ≠ .null → _ := decode_of_guessed h
  -- By what is stored. Only a double depends on its value.
  cases d with
  | null => exact iff_of_true .null trivial
  | int i =>
    rw [hshown nofun]
    exact iff_of_true (.int i) trivial
  | text s =>
    rw [hshown nofun]
    exact iff_of_true (denotes_ofText typeName s) trivial
  | real x =>
    rw [hshown nofun]
    have hrange : minInt64 ≤ maxInt64 := by decide
    rw [ShownAsStored, isInt64_iff, ← Binary64.units_eq_saturate_iff hrange]
    constructor
    · -- An integer stands for a double only if the double is this integer.
      rintro (_ | _ | _ | ⟨hx, hunits⟩)
      exact ⟨hx, hunits⟩
    · rintro ⟨hx, hunits⟩
      exact .whole hx hunits
  | blob bs =>
    rw [hshown nofun]
    exact iff_of_false nofun id

/-- A double within 64 bits is shown as its whole part. -/
theorem decode_real_of_guessed (h : (Category.ofTypeName .sqlite typeName).IsGuessed) {x : Binary64}
    (hx : x.isFinite = true) (hrange : isInt64 x.truncate = true) :
    (Datum.real x).decode typeName = .int x.truncate := by
  obtain ⟨hlo, hhi⟩ := isInt64_iff.mp hrange
  calc (Datum.real x).decode typeName
      _ = .int (x.saturate minInt64 maxInt64) := decode_of_guessed h nofun
      _ = .int x.truncate := by rw [Binary64.saturate_of_mem hx hlo hhi]

/-- What does not come through is shown as an integer of 64 bits all the same. -/
theorem decode_of_not_shownAsStored (h : (Category.ofTypeName .sqlite typeName).IsGuessed)
    (hd : ¬ d.ShownAsStored) : ∃ i, d.decode typeName = .int i ∧ isInt64 i = true := by
  -- It is no null, no text and no integer, all of which come through.
  have hnull : d ≠ .null := fun heq => hd (heq ▸ trivial)
  have htext : d.text? = none := by
    cases d with
    | text s => exact absurd trivial hd
    | _ => rfl
  have hint : d.int? = none := by
    cases d with
    | int i => exact absurd trivial hd
    | _ => rfl
  refine ⟨d.toInt, ?_, isInt64_toInt hint⟩
  rw [decode_of_guessed h hnull, htext, Option.elim_none]

end Datum

/-! ### Rows -/

section Rows

variable {columns : List ReportedColumn} {row : List Datum}
  {before after : List (ReportedColumn × Datum)} {c : ReportedColumn} {d : Datum}

/-- The last column with a name gives the row its value. -/
theorem get?_collectRow (hzip : columns.zip row = before ++ (c, d) :: after)
    (hlast : ∀ p ∈ after, p.1.name ≠ c.name) :
    (collectRow columns row).get? c.name = some (d.decode c.typeName) := by
  rw [collectRow, hzip, List.map_append, List.map_cons, Members.get?_ofPairs]
  refine Members.lastValue?_append_cons fun p hp => ?_
  obtain ⟨q, hq, rfl⟩ := List.mem_map.mp hp
  exact hlast q hq

/-- **Values whose kind is guessed, in a row.** The value of the last column with a name stands for
what is stored exactly if this is null, an integer, a text, or a double that is whole and within 64
bits. Every other value is shown as some integer of 64 bits, and a double in that range as one that
is less than one away. -/
theorem guessed_value_shown (hzip : columns.zip row = before ++ (c, d) :: after)
    (hlast : ∀ p ∈ after, p.1.name ≠ c.name)
    (hguessed : (Category.ofTypeName .sqlite c.typeName).IsGuessed) :
    ∃ v, (collectRow columns row).get? c.name = some v ∧
      (Denotes c.typeName d v ↔ d.ShownAsStored) ∧
      (¬ d.ShownAsStored → ∃ i, v = .int i ∧ isInt64 i = true) ∧
      ∀ x, d = .real x → x.isFinite = true → isInt64 x.truncate = true →
        ∃ i, v = .int i ∧ (x.units - i * Binary64.unitsPerOne).natAbs < Binary64.unitsPerOne := by
  refine ⟨_, get?_collectRow hzip hlast, d.denotes_decode_iff hguessed,
    Datum.decode_of_not_shownAsStored hguessed, ?_⟩
  -- A double in the range is cut to a whole one, which is less than one away.
  rintro x rfl hx hrange
  exact ⟨x.truncate, Datum.decode_real_of_guessed hguessed hx hrange,
    x.natAbs_units_sub_truncate_lt⟩

end Rows

/-- The columns of two expressions, an average and a maximum. -/
def measureHeadings : List Sqlite.Heading :=
  [{ source := none, name := "average" }, { source := none, name := "largest" }]

/-- The double one and a half. -/
def oneAndHalf : Binary64 := ⟨0x3FF8000000000000⟩

/-- The double two. -/
def two : Binary64 := ⟨0x4000000000000000⟩

/-- The row of an average of one and a half and a maximum of two. -/
def measures : Row := Sqlite.decodeRow measureHeadings [.real oneAndHalf, .real two]

/-- The maximum is shown as it is stored, and the average as an integer less than one away. -/
theorem measures_shown :
    (∃ v, measures.get? "largest" = some v ∧ Denotes "NULL" (.real two) v) ∧
    ∃ i, measures.get? "average" = some (.int i) ∧
      (oneAndHalf.units - i * Binary64.unitsPerOne).natAbs < Binary64.unitsPerOne := by
  have hzip : (measureHeadings.map Sqlite.reported).zip [Datum.real oneAndHalf, .real two] =
      [(⟨"average", "NULL"⟩, .real oneAndHalf), (⟨"largest", "NULL"⟩, .real two)] := rfl
  -- What is computed has no declared type, so its kind is guessed.
  have huntyped : (Category.ofTypeName .sqlite ColumnType.untyped.name).IsGuessed :=
    ColumnType.untyped.isGuessed_iff.mpr (by decide)
  constructor
  · obtain ⟨v, hv, hdenotes, -⟩ := guessed_value_shown (hzip.trans (List.singleton_append).symm)
      nofun huntyped
    exact ⟨v, hv, hdenotes.mpr (by decide +kernel)⟩
  · obtain ⟨v, hv, -, -, hcut⟩ := guessed_value_shown (hzip.trans (List.nil_append _).symm)
      (by decide) huntyped
    obtain ⟨i, rfl, hi⟩ := hcut oneAndHalf rfl (by decide +kernel) (by decide +kernel)
    exact ⟨i, hv, hi⟩

/-- **The average of one and a half is shown as one**, which does not stand for it. -/
theorem average_cut :
    measures.get? "average" = some (.int 1) ∧ ¬ Denotes "NULL" (.real oneAndHalf) (.int 1) := by
  constructor
  · decide +kernel
  · rintro (_ | _ | _ | ⟨-, hunits⟩)
    exact absurd hunits (by decide +kernel)

end StoreBridge
